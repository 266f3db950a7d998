import HttpRetry.Proofs.Passage.Kept
import Mathlib.Algebra.Ring.Rat
/-!
The numbers that a ledger keeps, read off its journal: how much time has passed, how often each clock was
read, and how often transports, retryers and delayers were asked.
-/
set_option autoImplicit false

namespace HttpRetry

namespace Event

def reads (layers : List Layer) (key : Nat) : Event → Bool
  | .entered _ i _ => (layers[i]?).any (·.clock.key == key)
  | _ => false

def misreads (layers : List Layer) (key : Nat) : Event → Bool
  | .refused _ i => (layers[i]?).any (·.clock.key == key)
  | _ => false

def isSent (call : Nat) : Event → Bool
  | .sent c _ => c == call
  | _ => false

def isListed (layer : Nat) : Event → Bool
  | .asked _ i _ _ scripted => i == layer && scripted
  | _ => false

def isDelaying (layer : Nat) : Event → Bool
  | .delaying _ i _ => i == layer
  | _ => false

end Event

def waitAfter (layers : List Layer) (earlier : List Event) (layer : Nat) : Option Wait := do
  let delay ← (← layers[layer]?).delay
  return delay (earlier.countP (Event.isDelaying layer))

def outcomeAfter (calls : List Call) (earlier : List Event) (c : Nat) : Option Outcome :=
  (calls.find? (·.id == c)).map fun call => call.feed (earlier.countP (Event.isSent c))

/-- How long an event takes. Time passes in sends and in waits only. -/
def Event.lasts (layers : List Layer) (calls : List Call) (earlier : List Event) : Event → Rat
  | .sent c _ => ((outcomeAfter calls earlier c).map (·.advance)).getD 0
  | .delaying _ i _ => ((waitAfter layers earlier i).map (·.seconds)).getD 0
  | _ => 0

def elapsed (layers : List Layer) (calls : List Call) : List Event → Rat
  | [] => 0
  | e :: earlier => elapsed layers calls earlier + e.lasts layers calls earlier

def clockUse (layers : List Layer) (key : Nat) (earlier : List Event) : ClockUse where
  readings := earlier.countP (Event.reads layers key)
  failures := earlier.countP (Event.misreads layers key)

def readingAfter (layers : List Layer) (calls : List Call) (earlier : List Event) (layer : Nat) :
    Option (Except FailureSpec (Option Timestamp)) := do
  let clock := (← layers[layer]?).clock
  return clock.dial (clockUse layers clock.key earlier) (elapsed layers calls earlier)

/-- The numbers of a ledger are those of its journal. -/
structure Ledger.Reckoned (layers : List Layer) (calls : List Call) (l : Ledger) : Prop where
  now : l.now = elapsed layers calls l.journal
  clocks : ∀ key, l.clocks key = clockUse layers key l.journal
  asks : ∀ i, l.asks i = l.journal.countP (Event.isListed i)
  delays : ∀ i, l.delays i = l.journal.countP (Event.isDelaying i)
  sends : ∀ c, (l.calls c).sends = l.journal.countP (Event.isSent c)

def Event.isUnreckoned : Event → Bool
  | .entered .. | .refused .. | .sent .. | .asked .. | .delaying .. => false
  | _ => true

theorem elapsed_asides {layers : List Layer} {calls : List Call} {asides j : List Event}
    (aside : ∀ e ∈ asides, e.isAside = true) :
    elapsed layers calls (asides ++ j) = elapsed layers calls j := by
  induction asides with
  | nil => rfl
  | cons e rest ih =>
    obtain ⟨first, others⟩ := List.forall_mem_cons.mp aside
    have still : e.lasts layers calls (rest ++ j) = 0 := by
      cases e <;> simp [Event.isAside, Event.lasts] at first ⊢
    rw [List.cons_append, elapsed, ih others, still, add_zero]

theorem Ledger.clocks_adjustClock (l : Ledger) (k : Nat) (f : ClockUse → ClockUse) (key : Nat) :
    (l.adjustClock k f).clocks key = if k = key then f (l.clocks key) else l.clocks key := by
  unfold adjustClock updateAt
  simp only [eq_comm]

namespace Ledger.Reckoned

variable {layers : List Layer} {calls : List Call} {l l' : Ledger} {p : Place} {call : Call}

/-- A further event with what it adds to the numbers. -/
theorem add (reckoned : l.Reckoned layers calls) {e : Event} (journal : l'.journal = e :: l.journal)
    (now : l'.now = l.now + e.lasts layers calls l.journal)
    (clocks : ∀ key, l'.clocks key =
      ⟨(l.clocks key).readings + if e.reads layers key then 1 else 0,
        (l.clocks key).failures + if e.misreads layers key then 1 else 0⟩)
    (asks : ∀ i, l'.asks i = l.asks i + if e.isListed i then 1 else 0)
    (delays : ∀ i, l'.delays i = l.delays i + if e.isDelaying i then 1 else 0)
    (sends : ∀ c, (l'.calls c).sends = (l.calls c).sends + if e.isSent c then 1 else 0) :
    l'.Reckoned layers calls := by
  constructor
  · rw [now, journal, reckoned.now, elapsed]
  · intro key
    rw [clocks, reckoned.clocks]
    simp only [clockUse, journal, List.countP_cons]
  · intro i
    rw [asks, journal, List.countP_cons, reckoned.asks]
  · intro i
    rw [delays, journal, List.countP_cons, reckoned.delays]
  · intro c
    rw [sends, journal, List.countP_cons, reckoned.sends]

theorem note (reckoned : l.Reckoned layers calls) {e : Event} (unreckoned : e.isUnreckoned = true) :
    (l.note e).Reckoned layers calls := by
  apply reckoned.add rfl <;> cases e <;>
    simp [Event.isUnreckoned, Event.lasts, Event.reads, Event.misreads, Event.isListed, Event.isDelaying,
      Event.isSent, Ledger.note] at *

theorem measured (p : Place) (f : Metrics → Metrics) (reckoned : l.Reckoned layers calls) :
    (p.measured f l).Reckoned layers calls := by
  rw [Place.measured_eq]
  exact ⟨reckoned.now, reckoned.clocks, reckoned.asks, reckoned.delays, reckoned.sends⟩

theorem blaming (attempt : Attempt) (error : Failure) (reckoned : l.Reckoned layers calls) :
    (attempt.blaming error l).Reckoned layers calls := by
  unfold Attempt.blaming
  split
  · split
    · exact reckoned
    · exact ⟨reckoned.now, reckoned.clocks, reckoned.asks, reckoned.delays, reckoned.sends⟩
  · exact reckoned

theorem unmoved (reckoned : l.Reckoned layers calls) (h : l.Unmoved l') :
    l'.Reckoned layers calls := by
  obtain ⟨asides, journal, aside⟩ := h.journal
  have counts {p : Event → Bool} (plain : ∀ e, e.isAside = true → p e = false) :
      l'.journal.countP p = l.journal.countP p := by
    have none_ : asides.countP p = 0 := by
      rw [List.countP_eq_zero]
      intro e mem
      simp [plain e (aside e mem)]
    rw [journal, List.countP_append, none_, Nat.zero_add]
  constructor
  · rw [h.now, journal, elapsed_asides aside, reckoned.now]
  · intro key
    rw [h.clocks, reckoned.clocks, clockUse, clockUse, counts, counts]
    · intro e
      cases e <;> simp [Event.isAside, Event.misreads]
    · intro e
      cases e <;> simp [Event.isAside, Event.reads]
  · intro i
    rw [h.asks, reckoned.asks, counts]
    intro e
    cases e <;> simp [Event.isAside, Event.isListed]
  · intro i
    rw [h.delays, reckoned.delays, counts]
    intro e
    cases e <;> simp [Event.isAside, Event.isDelaying]
  · intro c
    rw [h.sends, reckoned.sends, counts]
    intro e
    cases e <;> simp [Event.isAside, Event.isSent]

theorem takingUp (hp : p.In layers) (start : Option Timestamp)
    (reckoned : l.Reckoned layers calls) : (p.takingUp call start l).Reckoned layers calls := by
  have found : layers[p.index]? = some p.layer := hp
  apply reckoned.add rfl
  case clocks =>
    intro key
    by_cases own : p.layer.clock.key = key <;>
      simp [Place.takingUp, Ledger.note, clocks_adjustClock, Event.reads, Event.misreads, found,
        own, ClockUse.read]
  all_goals
    simp [Place.takingUp, Ledger.adjustClock, Ledger.note, Event.lasts, Event.isListed,
      Event.isDelaying, Event.isSent]

theorem refusing (hp : p.In layers) (reckoned : l.Reckoned layers calls) :
    (p.refusing call l).Reckoned layers calls := by
  have found : layers[p.index]? = some p.layer := hp
  apply reckoned.add rfl
  case clocks =>
    intro key
    by_cases own : p.layer.clock.key = key <;>
      simp [Place.refusing, Ledger.note, clocks_adjustClock, Event.reads, Event.misreads, found,
        own, ClockUse.failed]
  all_goals
    simp [Place.refusing, Ledger.adjustClock, Ledger.note, Event.lasts, Event.isListed,
      Event.isDelaying, Event.isSent]

theorem asking (attempt : Attempt) (elapsed : Option Int) (reckoned : l.Reckoned layers calls) :
    (p.asking call attempt elapsed l).Reckoned layers calls := by
  have asks : ∀ i, (p.asking call attempt elapsed l).asks i = l.asks i +
      if p.index == i && p.layer.retryer.isScripted then 1 else 0 := by
    intro i
    unfold Place.asking updateAt
    by_cases own : i = p.index
    · cases p.layer.retryer.isScripted <;> simp [own]
    · cases p.layer.retryer.isScripted <;> simp [own, Ne.symm own]
  apply reckoned.add rfl <;>
    simp [Place.asking, Ledger.note, Event.lasts, Event.reads, Event.misreads, Event.isDelaying,
      Event.isSent]
  simpa [Place.asking, Ledger.note, Event.isListed] using asks

theorem reports (p : Place) (call : Call) (ns : List Notice)
    (reckoned : l.Reckoned layers calls) :
    (ns.foldl (fun l n => p.logged call n l) l).Reckoned layers calls := by
  induction ns generalizing l with
  | nil => exact reckoned
  | cons n rest ih => exact ih (reckoned.note rfl)

theorem answered (attempt : Attempt) (elapsed : Option Int) (decision : Decision)
    (error : Option Failure) (reckoned : l.Reckoned layers calls) :
    (p.answered call attempt elapsed decision error l).Reckoned layers calls := by
  have asked : (p.asking call attempt elapsed l).Reckoned layers calls := reckoned.asking attempt elapsed
  have reported := asked.reports p call (p.layer.retryer.remarks attempt decision error)
  unfold Place.answered Place.answering
  exact (reported.note rfl).measured p _

theorem delaying {delay : Delayer} (hp : p.In layers) (own : p.layer.delay = some delay)
    (attempt : Attempt) (reckoned : l.Reckoned layers calls) :
    (p.delaying call delay attempt l).Reckoned layers calls := by
  have found : layers[p.index]? = some p.layer := hp
  apply reckoned.add rfl
  · simp [Place.delaying, Event.lasts, waitAfter, found, own, reckoned.delays]
  · simp [Place.delaying, Ledger.note, Event.reads, Event.misreads]
  · simp [Place.delaying, Ledger.note, Event.isListed]
  · intro i
    by_cases own : i = p.index
    · simp [Place.delaying, Event.isDelaying, own]
    · simp [Place.delaying, Event.isDelaying, Ne.symm own, updateAt_of_ne own]
  · simp [Place.delaying, Ledger.note, Event.isSent]

theorem sending (distinct : (calls.map (·.id)).Nodup) (mem : call ∈ calls)
    (reckoned : l.Reckoned layers calls) : (call.asking l).Reckoned layers calls := by
  have found : calls.find? (·.id == call.id) = some call := by
    cases h : calls.find? (·.id == call.id) with
    | none => simpa using List.find?_eq_none.mp h call mem
    | some other =>
      have same : other.id = call.id := by simpa using List.find?_some h
      rw [List.inj_on_of_nodup_map distinct (List.mem_of_find?_eq_some h) mem same]
  apply reckoned.add rfl
  · simp [Call.asking, Event.lasts, outcomeAfter, found, reckoned.sends]
  · simp [Call.asking, Ledger.note, Ledger.adjustCall, Event.reads, Event.misreads]
  · simp [Call.asking, Ledger.note, Ledger.adjustCall, Event.isListed]
  · simp [Call.asking, Ledger.note, Ledger.adjustCall, Event.isDelaying]
  · intro c
    by_cases own : c = call.id
    · simp [Call.asking, Ledger.note, Ledger.adjustCall, Event.isSent, own]
    · simp [Call.asking, Ledger.note, Ledger.adjustCall, Event.isSent, Ne.symm own,
        updateAt_of_ne own]

theorem wait (reckoned : l.Reckoned layers calls) (hp : p.In layers) {delay : Delayer}
    (own : p.layer.delay = some delay) :
    waitAfter layers l.journal p.index = some (delay (l.delays p.index)) := by
  have found : layers[p.index]? = some p.layer := hp
  simp [waitAfter, found, own, reckoned.delays]

theorem reading (reckoned : l.Reckoned layers calls) (hp : p.In layers) :
    readingAfter layers calls l.journal p.index = some (p.layer.clock.peek l) := by
  have found : layers[p.index]? = some p.layer := hp
  simp [readingAfter, found, Clock.peek, reckoned.clocks, reckoned.now]

end Ledger.Reckoned

section
variable {layers : List Layer} {calls : List Call} {s : Setting} {call : Call} {pt pt' : Point}
  {l l' : Ledger}

/-- Each step counts what it does. -/
theorem Takes.reckoned (takes : Takes s call pt l pt' l') (distinct : (calls.map (·.id)).Nodup)
    (mem : call ∈ calls) (through : pt.Through layers) (waits : pt.Waits)
    (reckoned : l.Reckoned layers calls) : l'.Reckoned layers calls := by
  cases takes with
  | pause unmoved => exact reckoned.unmoved unmoved
  | enter reads => exact reckoned.takingUp through.next.2.1 _
  | refuse fails => exact (reckoned.refusing through.next.2.1).note rfl
  | transmit => exact reckoned.sending distinct mem
  | interrupted interrupt => exact (reckoned.note rfl).note rfl
  | raised plain fits faults => exact (reckoned.note rfl).note rfl
  | received unraised fits faults => exact reckoned.note rfl
  | unanswered silent => exact reckoned.asking _ _
  | answered gives => exact reckoned.answered _ _ _ _
  | release rejected has => exact reckoned.note rfl
  | tolerate swallowed => exact (reckoned.note rfl).measured _ _
  | breakOff kept => exact reckoned.note rfl
  | reraise => exact reckoned.note rfl
  | settle settles => exact reckoned.note rfl
  | abort raises => exact (((reckoned.note rfl).blaming _ _).note rfl)
  | delay delays => exact reckoned.note rfl
  | work works =>
    exact reckoned.delaying through.head.2.1 (waits _ _ _ _ _ rfl rfl) _
  | fail fails =>
    exact (reckoned.delaying through.head.2.1 (waits _ _ _ _ _ rfl rfl) _).note rfl
  | done => exact (reckoned.note rfl).measured _ _
  | announce => exact reckoned.note rfl
  | thrown waits interrupt => exact reckoned.note rfl
  | _ => exact reckoned

end

namespace Reached

variable {s : Setting} {layers : List Layer} {calls : List Call}
  {initial : List (FailureId × Failure)} {points : Nat → Point} {l : Ledger}

/-- The numbers of the ledger are those of the journal, however calls are moved on. -/
theorem reckoned (distinct : (calls.map (·.id)).Nodup)
    (reached : Reached s (placesFrom 0 layers) calls initial points l) :
    l.Reckoned layers calls := by
  induction reached with
  | start => exact ⟨rfl, fun _ => rfl, fun _ => rfl, fun _ => rfl, fun _ => rfl⟩
  | aside _ unmoved ih => exact ih.unmoved unmoved
  | step before mem takes ih =>
    exact takes.reckoned distinct mem (before.through _) (before.waits _) ih

end Reached

end HttpRetry
