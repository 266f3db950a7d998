import HttpRetry.Proofs.Delivered
import HttpRetry.Proofs.Rejected
/-!
A call's passage through its layers, one step at a time. A step says which event happens and what
becomes of the counters, the clock, the time and the causes of failures; what happens to responses
beside it is left open. Both ways of sending are made of these steps.
-/
set_option autoImplicit false

namespace HttpRetry

/-- Events that happen beside a call's steps. -/
def Event.isAside : Event → Bool
  | .bound .. | .streamClosed .. | .transportClosed _ => true
  | _ => false

/-- From one state of the ledger to a later one nothing has happened but to responses, and failures
were made. -/
structure Ledger.Unmoved (l l' : Ledger) : Prop where
  causes : l'.causes = l.causes
  now : l'.now = l.now
  clocks : l'.clocks = l.clocks
  asks : l'.asks = l.asks
  delays : l'.delays = l.delays
  metrics : l'.metrics = l.metrics
  sends : ∀ call, (l'.calls call).sends = (l.calls call).sends
  journal : ∃ asides, l'.journal = asides ++ l.journal ∧ ∀ e ∈ asides, e.isAside = true

def Answer.decision? : Answer → Option Decision
  | .decided decision _ => some decision
  | _ => none

def Retryer.decision? (retryer : Retryer) (attempt : Attempt) (asked : Nat) : Option Decision :=
  match retryer with
  | .standard policy => some (policy.decide attempt)
  | .scripted answers | .timed answers => (answers asked).decision?

def Retryer.isScripted : Retryer → Bool
  | .standard _ => false
  | _ => true

def Retryer.isTimed : Retryer → Bool
  | .timed _ => true
  | _ => false

/-- What is reported of an answer: that the default retryer gives up, and an error that comes with a
decision. -/
def Retryer.remarks (attempt : Attempt) (decision : Decision) (error : Option Failure)
    (retryer : Retryer) : List Notice :=
  (match retryer, decision with
    | .standard policy, .abort => [.outOfAttempts attempt.count policy.shownCap attempt.status?]
    | _, _ => []) ++ (error.map (.retryerError attempt.count decision)).toList

theorem Retryer.of_mem_remarks {retryer : Retryer} {attempt : Attempt} {decision : Decision}
    {error : Option Failure} {n : Notice} (mem : n ∈ retryer.remarks attempt decision error) :
    (∃ cap, n = .outOfAttempts attempt.count cap attempt.status?) ∨
      ∃ e, error = some e ∧ n = .retryerError attempt.count decision e := by
  rcases List.mem_append.mp mem with given | mentioned
  · cases retryer <;> cases decision <;> simp at given
    exact .inl ⟨_, given⟩
  · cases error <;> simp at mentioned
    exact .inr ⟨_, rfl, mentioned⟩

def Attempt.Settles (attempt : Attempt) (reply : Reply) : Prop :=
  match attempt.error, attempt.response with
  | some e, _ => reply = .raised e
  | none, some r => reply = .response r
  | none, none => ∃ id, reply = .raised (FailureSpec.failure (.of .typeError
      (some "Wrapped transport returned neither a response nor an error")) id)

def Attempt.blaming (attempt : Attempt) (error : Failure) (l : Ledger) : Ledger :=
  match attempt.error with
  | some cause =>
    if cause.is error then l else { l with causes := (error.id, cause) :: l.causes }
  | none => l

namespace Place

section
variable (p : Place) (call : Call)

def entry (n : Notice) : LogEntry :=
  if n.isBound then ⟨p.layer.sink, some call.request, n⟩ else ⟨.standard, none, n⟩

@[simp] theorem notice_entry (n : Notice) : (p.entry call n).notice = n := by
  unfold entry
  split <;> rfl

def logged (n : Notice) (l : Ledger) : Ledger := l.note (.logged call.id p.index (p.entry call n))

def leaving (reply : Reply) (l : Ledger) : Ledger := l.note (.left call.id p.index reply)

def takingUp (start : Option Timestamp) (l : Ledger) : Ledger :=
  (l.adjustClock p.layer.clock.key .read).note (.entered call.id p.index start)

def refusing (l : Ledger) : Ledger :=
  (l.adjustClock p.layer.clock.key .failed).note (.refused call.id p.index)

def receiving (reply : Reply) (l : Ledger) : Ledger :=
  l.note (.received call.id p.index reply)

def asking (attempt : Attempt) (elapsed : Option Int) (l : Ledger) : Ledger :=
  { l.note (.asked call.id p.index attempt elapsed p.layer.retryer.isScripted) with
    asks := if p.layer.retryer.isScripted then updateAt l.asks p.index (· + 1) else l.asks }

def answering (attempt : Attempt) (decision : Decision) (l : Ledger) : Ledger :=
  p.measured (·.countAttempt call.request.method decision)
    (l.note (.answered call.id p.index attempt decision))

def answered (attempt : Attempt) (elapsed : Option Int) (decision : Decision)
    (error : Option Failure) (l : Ledger) : Ledger :=
  p.answering call attempt decision ((p.layer.retryer.remarks attempt decision error).foldl
    (fun l n => p.logged call n l) (p.asking call attempt elapsed l))

@[simp] theorem journal_logged (n : Notice) (l : Ledger) :
    (p.logged call n l).journal = .logged call.id p.index (p.entry call n) :: l.journal := rfl

@[simp] theorem journal_leaving (reply : Reply) (l : Ledger) :
    (p.leaving call reply l).journal = .left call.id p.index reply :: l.journal := rfl

@[simp] theorem journal_takingUp (start : Option Timestamp) (l : Ledger) :
    (p.takingUp call start l).journal = .entered call.id p.index start :: l.journal := rfl

@[simp] theorem journal_refusing (l : Ledger) :
    (p.refusing call l).journal = .refused call.id p.index :: l.journal := rfl

@[simp] theorem journal_receiving (reply : Reply) (l : Ledger) :
    (p.receiving call reply l).journal = .received call.id p.index reply :: l.journal := rfl

@[simp] theorem journal_asking (attempt : Attempt) (elapsed : Option Int) (l : Ledger) :
    (p.asking call attempt elapsed l).journal =
      .asked call.id p.index attempt elapsed p.layer.retryer.isScripted :: l.journal := rfl

@[simp] theorem journal_answering (attempt : Attempt) (decision : Decision) (l : Ledger) :
    (p.answering call attempt decision l).journal =
      .answered call.id p.index attempt decision :: l.journal := by
  simp [answering, Ledger.note]

theorem foldl_logged (ns : List Notice) (l : Ledger) :
    ns.foldl (fun l n => p.logged call n l) l = { l with journal :=
      (ns.map fun n => .logged call.id p.index (p.entry call n)).reverse ++ l.journal } := by
  induction ns generalizing l with
  | nil => rfl
  | cons n rest ih =>
    rw [List.foldl_cons, ih]
    simp [logged, Ledger.note]

@[simp] theorem journal_answered (attempt : Attempt) (elapsed : Option Int) (decision : Decision)
    (error : Option Failure) (l : Ledger) :
    (p.answered call attempt elapsed decision error l).journal =
      .answered call.id p.index attempt decision ::
        ((p.layer.retryer.remarks attempt decision error).map fun n =>
          .logged call.id p.index (p.entry call n)).reverse ++
        .asked call.id p.index attempt elapsed p.layer.retryer.isScripted :: l.journal := by
  simp [answered, foldl_logged]

def failingDrain (count : Nat) (e : Failure) (l : Ledger) : Ledger :=
  p.measured Metrics.countDrainError (p.logged call (.drainError count e) l)

def delaying (delay : Delayer) (attempt : Attempt) (l : Ledger) : Ledger :=
  { l.note (.delaying call.id p.index attempt) with
    delays := updateAt l.delays p.index (· + 1)
    now := l.now + (delay (l.delays p.index)).seconds }

def delayed (timer : Timer) (attempt : Attempt) (began : Rat) (l : Ledger) : Ledger :=
  p.measured (·.observeDelay (timer.between began l.now))
    (l.note (.delayed call.id p.index attempt began l.now))

def Faults (reply : Reply) (attempt : Attempt) : Prop :=
  match reply, p.layer.forced with
  | .response _, some spec => ∃ id, attempt.error = some (spec.failure id)
  | _, _ => attempt.error = reply.error?

@[simp] theorem journal_failingDrain (count : Nat) (e : Failure) (l : Ledger) :
    (p.failingDrain call count e l).journal =
      .logged call.id p.index (p.entry call (.drainError count e)) :: l.journal := by
  simp [failingDrain]

@[simp] theorem journal_delaying (delay : Delayer) (attempt : Attempt) (l : Ledger) :
    (p.delaying call delay attempt l).journal =
      .delaying call.id p.index attempt :: l.journal := rfl

@[simp] theorem journal_delayed (timer : Timer) (attempt : Attempt) (began : Rat) (l : Ledger) :
    (p.delayed call timer attempt began l).journal =
      .delayed call.id p.index attempt began l.now :: l.journal := by
  simp [delayed, Ledger.note]

end

end Place

@[simp] theorem Attempt.journal_blaming (attempt : Attempt) (error : Failure) (l : Ledger) :
    (attempt.blaming error l).journal = l.journal := by
  unfold blaming
  split
  · split <;> rfl
  · rfl

@[simp] theorem Call.journal_asking (call : Call) (l : Ledger) :
    (call.asking l).journal = .sent call.id call.request :: l.journal := rfl

@[simp] theorem Ledger.journal_note (l : Ledger) (e : Event) :
    (l.note e).journal = e :: l.journal := rfl

/-- What the innermost of the layers that a call has entered is about to do. -/
inductive Phase where
  /-- To send. -/
  | down
  /-- To take what the send came to. -/
  | up (reply : Reply)
  /-- To ask the retryer. -/
  | judging (attempt : Attempt)
  | judged (attempt : Attempt) (answer : Except Failure (Decision × Option Failure))
  /-- To close the attempt's response, which was begun. -/
  | releasing (attempt : Attempt) (answer : Except Failure (Decision × Option Failure))
  /-- To do as it was answered. -/
  | cleared (attempt : Attempt) (answer : Except Failure (Decision × Option Failure))
  /-- To wait before a further round. -/
  | again (attempt : Attempt)
  | waiting (delay : Delayer) (attempt : Attempt) (began : Rat)
  | worked (attempt : Attempt) (began : Rat)
  /-- To begin a further round. -/
  | ready

def Phase.rests : Phase → Bool
  | .waiting .. | .worked .. | .ready => true
  | _ => false

/-- Where a call stands: the layers that it has entered, the innermost first, those below them, and
what is to be done next. -/
structure Point where
  frames : List Frame
  inner : List Place
  phase : Phase

section
variable (s : Setting) (call : Call)

open Place

/-- The steps of a call, from a point and a ledger to the next. -/
inductive Takes : Point → Ledger → Point → Ledger → Prop
  | pause {pt : Point} {l l' : Ledger} (unmoved : l.Unmoved l') : Takes pt l pt l'
  | enter {frames : List Frame} {p : Place} {inner : List Place} {start : Option Timestamp}
      {l : Ledger} (reads : p.layer.clock.peek l = .ok start) :
      Takes ⟨frames, p :: inner, .down⟩ l ⟨⟨p, start, 0⟩ :: frames, inner, .down⟩
        (p.takingUp call start l)
  | refuse {frames : List Frame} {p : Place} {inner : List Place} {spec : FailureSpec}
      {id : FailureId} {l : Ledger} (fails : p.layer.clock.peek l = .error spec) :
      Takes ⟨frames, p :: inner, .down⟩ l
        ⟨frames, p :: inner, .up (.raised ((spec.failure id).outOf s.mode.routine))⟩
        (p.leaving call (.raised ((spec.failure id).outOf s.mode.routine)) (p.refusing call l))
  | transmit {frames : List Frame} {reply : Reply} {l : Ledger} :
      Takes ⟨frames, [], .down⟩ l ⟨frames, [], .up reply⟩ (call.asking l)
  /-- A call is cancelled before it begins or where it is about to send. -/
  | cancel {frames : List Frame} {inner : List Place} {e : Failure} {l : Ledger}
      (waits : frames = [] ∨ inner = []) (interrupt : e.isInterrupt = true) :
      Takes ⟨frames, inner, .down⟩ l ⟨frames, inner, .up (.raised e)⟩ l
  | interrupted {f : Frame} {outer : List Frame} {inner : List Place} {e : Failure} {l : Ledger}
      (interrupt : e.isInterrupt = true) :
      Takes ⟨f :: outer, inner, .up (.raised e)⟩ l ⟨outer, f.place :: inner, .up (.raised e)⟩
        (f.place.leaving call (.raised e) (f.place.receiving call (.raised e) l))
  | raised {f : Frame} {outer : List Frame} {inner : List Place} {e : Failure} {attempt : Attempt}
      {l : Ledger} (plain : e.isInterrupt = false)
      (fits : Fits call f.start f.made (.raised e) attempt)
      (faults : f.place.Faults (.raised e) attempt) :
      Takes ⟨f :: outer, inner, .up (.raised e)⟩ l ⟨f :: outer, inner, .judging attempt⟩
        (f.place.logged call (.requestError (f.made + 1) e) (f.place.receiving call (.raised e) l))
  | received {f : Frame} {outer : List Frame} {inner : List Place} {reply : Reply}
      {attempt : Attempt} {l : Ledger} (unraised : reply.error? = none)
      (fits : Fits call f.start f.made reply attempt) (faults : f.place.Faults reply attempt) :
      Takes ⟨f :: outer, inner, .up reply⟩ l ⟨f :: outer, inner, .judging attempt⟩
        (f.place.receiving call reply l)
  /-- A retryer that looks at a failing clock raises. -/
  | unasked {f : Frame} {outer : List Frame} {inner : List Place} {attempt : Attempt}
      {e : Failure} {l : Ledger} (timed : f.place.layer.retryer.isTimed = true) :
      Takes ⟨f :: outer, inner, .judging attempt⟩ l
        ⟨f :: outer, inner, .judged attempt (.error e)⟩ l
  | unanswered {f : Frame} {outer : List Frame} {inner : List Place} {attempt : Attempt}
      {elapsed : Option Int} {e : Failure} {l : Ledger}
      (silent : f.place.layer.retryer.decision? attempt (l.asks f.place.index) = none) :
      Takes ⟨f :: outer, inner, .judging attempt⟩ l
        ⟨f :: outer, inner, .judged attempt (.error e)⟩ (f.place.asking call attempt elapsed l)
  | answered {f : Frame} {outer : List Frame} {inner : List Place} {attempt : Attempt}
      {elapsed : Option Int} {decision : Decision} {error : Option Failure} {l : Ledger}
      (gives : f.place.layer.retryer.Gives attempt (l.asks f.place.index) decision error)
      (own : f.place.layer.retryer.isScripted = false →
        ∀ e, error = some e → ∃ serial, e.id = .fresh call.id serial) :
      Takes ⟨f :: outer, inner, .judging attempt⟩ l
        ⟨f :: outer, inner, .judged attempt (.ok (decision, error))⟩
        (f.place.answered call attempt elapsed decision error l)
  /-- There is nothing to release. -/
  | pass {f : Frame} {outer : List Frame} {inner : List Place} {attempt : Attempt}
      {answer : Except Failure (Decision × Option Failure)} {l : Ledger}
      (held : attempt.passes answer = true ∨ attempt.response = none) :
      Takes ⟨f :: outer, inner, .judged attempt answer⟩ l
        ⟨f :: outer, inner, .cleared attempt answer⟩ l
  | release {f : Frame} {outer : List Frame} {inner : List Place} {attempt : Attempt}
      {answer : Except Failure (Decision × Option Failure)} {r : ResponseRef} {l : Ledger}
      (rejected : attempt.passes answer = false) (has : attempt.response = some r) :
      Takes ⟨f :: outer, inner, .judged attempt answer⟩ l
        ⟨f :: outer, inner, .releasing attempt answer⟩
        (l.note (.releasing call.id f.place.index r.id))
  | released {f : Frame} {outer : List Frame} {inner : List Place} {attempt : Attempt}
      {answer : Except Failure (Decision × Option Failure)} {l : Ledger} :
      Takes ⟨f :: outer, inner, .releasing attempt answer⟩ l
        ⟨f :: outer, inner, .cleared attempt answer⟩ l
  | tolerate {f : Frame} {outer : List Frame} {inner : List Place} {attempt : Attempt}
      {answer : Except Failure (Decision × Option Failure)} {e : Failure} {l : Ledger}
      (swallowed : e.isSwallowed = true) :
      Takes ⟨f :: outer, inner, .releasing attempt answer⟩ l
        ⟨f :: outer, inner, .cleared attempt answer⟩ (f.place.failingDrain call attempt.count e l)
  /-- A release that fails outside the swallowed families. -/
  | breakOff {f : Frame} {outer : List Frame} {inner : List Place} {attempt : Attempt}
      {answer : Except Failure (Decision × Option Failure)} {e : Failure} {l : Ledger}
      (kept : e.isSwallowed = false) :
      Takes ⟨f :: outer, inner, .releasing attempt answer⟩ l
        ⟨outer, f.place :: inner, .up (.raised (e.outOf s.mode.routine))⟩
        (f.place.leaving call (.raised (e.outOf s.mode.routine)) l)
  | reraise {f : Frame} {outer : List Frame} {inner : List Place} {attempt : Attempt}
      {e : Failure} {l : Ledger} :
      Takes ⟨f :: outer, inner, .cleared attempt (.error e)⟩ l
        ⟨outer, f.place :: inner, .up (.raised (e.outOf s.mode.routine))⟩
        (f.place.leaving call (.raised (e.outOf s.mode.routine)) l)
  | settle {f : Frame} {outer : List Frame} {inner : List Place} {attempt : Attempt}
      {error : Option Failure} {reply : Reply} {l : Ledger} (settles : attempt.Settles reply) :
      Takes ⟨f :: outer, inner, .cleared attempt (.ok (.ignore, error))⟩ l
        ⟨outer, f.place :: inner, .up (reply.outOf s.mode.routine)⟩
        (f.place.leaving call (reply.outOf s.mode.routine) l)
  | abort {f : Frame} {outer : List Frame} {inner : List Place} {attempt : Attempt}
      {error : Option Failure} {e : Failure} {l : Ledger}
      (raises : error = some e ∨
        error = none ∧ ∃ serial, e = .aborted (.fresh call.id serial) attempt) :
      Takes ⟨f :: outer, inner, .cleared attempt (.ok (.abort, error))⟩ l
        ⟨outer, f.place :: inner, .up (.raised (e.outOf s.mode.routine))⟩
        (f.place.leaving call (.raised (e.outOf s.mode.routine))
          (attempt.blaming e (f.place.logged call (.aborting attempt.count e) l)))
  | retry {f : Frame} {outer : List Frame} {inner : List Place} {attempt : Attempt}
      {error : Option Failure} {l : Ledger} :
      Takes ⟨f :: outer, inner, .cleared attempt (.ok (.retry, error))⟩ l
        ⟨f :: outer, inner, .again attempt⟩ l
  | skip {f : Frame} {outer : List Frame} {inner : List Place} {attempt : Attempt} {l : Ledger}
      (undelayed : f.place.layer.delay = none) :
      Takes ⟨f :: outer, inner, .again attempt⟩ l ⟨f :: outer, inner, .ready⟩ l
  | delay {f : Frame} {outer : List Frame} {inner : List Place} {attempt : Attempt}
      {delay : Delayer} {l : Ledger} (delays : f.place.layer.delay = some delay) :
      Takes ⟨f :: outer, inner, .again attempt⟩ l
        ⟨f :: outer, inner, .waiting delay attempt l.now⟩
        (f.place.logged call (.delaying attempt.count) l)
  | work {f : Frame} {outer : List Frame} {inner : List Place} {attempt : Attempt}
      {delay : Delayer} {began : Rat} {l : Ledger}
      (works : (delay (l.delays f.place.index)).failure = none) :
      Takes ⟨f :: outer, inner, .waiting delay attempt began⟩ l
        ⟨f :: outer, inner, .worked attempt began⟩ (f.place.delaying call delay attempt l)
  | fail {f : Frame} {outer : List Frame} {inner : List Place} {attempt : Attempt}
      {delay : Delayer} {began : Rat} {spec : FailureSpec} {id : FailureId} {l : Ledger}
      (fails : (delay (l.delays f.place.index)).failure = some spec) :
      Takes ⟨f :: outer, inner, .waiting delay attempt began⟩ l
        ⟨outer, f.place :: inner, .up (.raised ((spec.failure id).outOf s.mode.routine))⟩
        (f.place.leaving call (.raised ((spec.failure id).outOf s.mode.routine))
          (f.place.delaying call delay attempt l))
  | done {f : Frame} {outer : List Frame} {inner : List Place} {attempt : Attempt} {began : Rat}
      {l : Ledger} :
      Takes ⟨f :: outer, inner, .worked attempt began⟩ l ⟨f :: outer, inner, .ready⟩
        (f.place.delayed call s.timer attempt began l)
  | announce {f : Frame} {outer : List Frame} {inner : List Place} {l : Ledger} :
      Takes ⟨f :: outer, inner, .ready⟩ l
        ⟨{ f with made := f.made + 1 } :: outer, inner, .down⟩
        (f.place.logged call (.retrying (f.made + 2)) l)
  /-- A call is cancelled before or after a delayer's work, or where it does not wait. -/
  | thrown {f : Frame} {outer : List Frame} {inner : List Place} {phase : Phase} {e : Failure}
      {l : Ledger} (rests : phase.rests = true) (interrupt : e.isInterrupt = true) :
      Takes ⟨f :: outer, inner, phase⟩ l ⟨outer, f.place :: inner, .up (.raised e)⟩
        (f.place.leaving call (.raised e) l)

def Steps (before after : Point × Ledger) : Prop :=
  Takes s call before.1 before.2 after.1 after.2

abbrev Walks : Point × Ledger → Point × Ledger → Prop := Relation.ReflTransGen (Steps s call)

end

end HttpRetry
