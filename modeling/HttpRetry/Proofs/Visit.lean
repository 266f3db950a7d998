import HttpRetry.Proofs.Journal
set_option autoImplicit false

namespace HttpRetry

/-- Whether in an event a call reaches a layer or, at the depth of the stack, the innermost transport.
A layer sends by reaching what is next below it. -/
def Event.arrives (depth call level : Nat) : Event → Bool
  | .sent c _ => c == call && level == depth
  | .entered c i _ | .refused c i => c == call && level == i
  | _ => false

def Notice.announces : Notice → Bool
  | .retrying _ => true
  | _ => false

structure Visit where
  start : Option Timestamp
  /-- How many rounds were begun. -/
  rounds : Nat := 1
  sends : Nat := 0
  /-- The attempts that the retryer was asked about, the latest first. -/
  attempts : List Attempt := []
  /-- How often the delayer was asked. -/
  delays : Nat := 0

def Event.noted (depth layer : Nat) (v : Option Visit) : Event → Option Visit
  | .entered _ i start =>
    if i = layer then some { start }
    else if i = layer + 1 then v.map fun v => { v with sends := v.sends + 1 } else v
  | .refused _ i => if i = layer + 1 then v.map fun v => { v with sends := v.sends + 1 } else v
  | .sent .. => if depth = layer + 1 then v.map fun v => { v with sends := v.sends + 1 } else v
  | .asked _ i attempt .. =>
    if i = layer then v.map fun v => { v with attempts := attempt :: v.attempts } else v
  | .delaying _ i _ => if i = layer then v.map fun v => { v with delays := v.delays + 1 } else v
  | .logged _ i entry =>
    if i = layer ∧ entry.notice.announces then v.map fun v => { v with rounds := v.rounds + 1 }
    else v
  | .left _ i _ => if i = layer then none else v
  | _ => v

/-- The visit of a call to a layer that it has entered and not left, after these events, the latest
first. -/
def visit (depth call layer : Nat) : List Event → Option Visit
  | [] => none
  | e :: earlier =>
    if e.call = call then e.noted depth layer (visit depth call layer earlier)
    else visit depth call layer earlier

/-- What holds before a call reaches a layer or the innermost transport: it has not been there, or the
layer above has one more round begun than sent, and all attempts before are put to its retryer. -/
def Arriving (depth call : Nat) (earlier : List Event) : (level : Nat) → Prop
  | 0 => ∀ e ∈ earlier, e.arrives depth call 0 = false
  | i + 1 => ∃ v, visit depth call i earlier = some v ∧ v.sends = v.attempts.length ∧
      v.rounds = v.sends + 1

/-- What holds of the visit of a layer, after the earlier events, when a further event comes. -/
def Event.InOrder (depth : Nat) (earlier : List Event) : Event → Prop
  | .sent c _ => Arriving depth c earlier depth
  | .entered c i _ | .refused c i => visit depth c i earlier = none ∧ Arriving depth c earlier i
  | .received c i reply => ∃ v, visit depth c i earlier = some v ∧
      (v.rounds = v.sends ∨ i + 1 = depth ∧ reply.isInterrupt = true)
  | .asked c i attempt .. => ∃ v, visit depth c i earlier = some v ∧
      v.sends = v.attempts.length + 1 ∧ attempt.count = v.sends ∧ attempt.start = v.start
  | .answered c i attempt _ | .delayed c i attempt _ _ =>
      ∃ v, visit depth c i earlier = some v ∧ v.attempts.head? = some attempt
  | .releasing c i _ => ∃ v, visit depth c i earlier = some v
  | .delaying c i attempt => ∃ v, visit depth c i earlier = some v ∧
      v.attempts.head? = some attempt ∧ v.delays < v.attempts.length
  | .logged c i entry => ∃ v, visit depth c i earlier = some v ∧
      ∀ n, entry.notice = .retrying n → n = v.rounds + 1 ∧ v.rounds = v.sends
  | .left c i _ => (∃ v, visit depth c i earlier = some v ∧ (i + 1 < depth → v.rounds = v.sends)) ∨
      ∃ rest, earlier = .refused c i :: rest
  | .bound .. | .streamClosed .. | .transportClosed _ => True

section
variable {depth c layer : Nat} {j j' : List Event} {e : Event}

theorem Event.noted_aside (aside : e.isAside = true) (v : Option Visit) :
    e.noted depth layer v = v := by
  cases e <;> simp [isAside, noted] at *

theorem visit_foreign (ne : e.call ≠ c) :
    visit depth c layer (e :: j) = visit depth c layer j := by
  simp [visit, ne]

theorem visit_asides {asides : List Event} (aside : ∀ e ∈ asides, e.isAside = true) :
    visit depth c layer (asides ++ j) = visit depth c layer j := by
  induction asides with
  | nil => rfl
  | cons e rest ih =>
    obtain ⟨first, rest⟩ := List.forall_mem_cons.mp aside
    simp [visit, Event.noted_aside first, ih rest]

theorem Retryer.announces_remarks {retryer : Retryer} {attempt : Attempt} {decision : Decision}
    {error : Option Failure} : ∀ n ∈ retryer.remarks attempt decision error,
      n.announces = false := by
  intro n mem
  obtain ⟨_, rfl⟩ | ⟨_, -, rfl⟩ := Retryer.of_mem_remarks mem
  · rfl
  · rfl

theorem visit_reports (p : Place) (call : Call) {ns : List Notice}
    (quiet : ∀ n ∈ ns, n.announces = false) :
    visit depth c layer ((ns.map fun n => .logged call.id p.index (p.entry call n)).reverse ++ j) =
      visit depth c layer j := by
  apply p.reports_keep call ns (P := fun j' => visit depth c layer j' = visit depth c layer j) _ rfl
  intro n mem j' same
  simp [visit, Event.noted, quiet n mem, same]

theorem visit_answered (p : Place) (call : Call) (attempt : Attempt) (elapsed : Option Int)
    (decision : Decision) (error : Option Failure) (l : Ledger) :
    visit depth c layer (p.answered call attempt elapsed decision error l).journal =
      visit depth c layer (.asked call.id p.index attempt elapsed p.layer.retryer.isScripted ::
        l.journal) := by
  rw [Place.journal_answered, List.cons_append, visit,
    visit_reports p call Retryer.announces_remarks]
  exact ite_self _

end

def Event.begins (call layer : Nat) : Event → Bool
  | .entered c i _ => c == call && i == layer
  | .logged c i entry => c == call && i == layer && entry.notice.announces
  | _ => false

def Event.actor? : Event → Option Nat
  | .received _ i _ | .asked _ i .. | .answered _ i .. | .releasing _ i _ | .delaying _ i _
  | .delayed _ i .. | .logged _ i _ => some i
  | _ => none

def Event.attempt? : Event → Option (Nat × Attempt)
  | .answered _ i attempt _ | .delaying _ i attempt | .delayed _ i attempt _ _ => some (i, attempt)
  | _ => none

def unsent (visit : Option Visit) : Nat := (visit.map fun v => v.rounds - v.sends).getD 0

def Event.enters? (call layer : Nat) : Event → Option (Option Timestamp)
  | .entered c i start => if c = call ∧ i = layer then some start else none
  | _ => none

def Event.leaves (call layer : Nat) : Event → Bool
  | .left c i _ => c == call && i == layer
  | _ => false

def Event.asks? (call layer : Nat) : Event → Option Attempt
  | .asked c i attempt .. => if c = call ∧ i = layer then some attempt else none
  | _ => none

def Event.delays (call layer : Nat) : Event → Bool
  | .delaying c i _ => c == call && i == layer
  | _ => false

section
variable {depth c i : Nat} {e : Event} {earlier : List Event}

def Visit.after (depth c i : Nat) (e : Event) (v : Visit) : Visit where
  start := v.start
  rounds := v.rounds + if e.begins c i then 1 else 0
  sends := v.sends + if e.arrives depth c (i + 1) then 1 else 0
  attempts := (e.asks? c i).toList ++ v.attempts
  delays := v.delays + if e.delays c i then 1 else 0

theorem visit_cons : visit depth c i (e :: earlier) = match e.enters? c i with
    | some start => some { start }
    | none => if e.leaves c i then none else (visit depth c i earlier).map (.after depth c i e) := by
  rw [visit]
  generalize visit depth c i earlier = known
  cases known with
  | none => cases e <;> grind [Event.call, Event.noted, Event.enters?]
  | some v =>
    obtain ⟨start, rounds, sends, attempts, delays⟩ := v
    cases e <;> grind [Event.call, Event.noted, Event.enters?, Event.leaves, Visit.after,
      Event.begins, Event.arrives, Event.asks?, Event.delays]

theorem of_visit_cons {v' : Visit} (h : visit depth c i (e :: earlier) = some v') :
    (∃ start, e.enters? c i = some start ∧ v' = { start }) ∨
      e.enters? c i = none ∧ ∃ v, visit depth c i earlier = some v ∧ v' = v.after depth c i e := by
  rw [visit_cons] at h
  cases enters : e.enters? c i with
  | some start =>
    rw [enters] at h
    exact .inl ⟨start, rfl, (Option.some.inj h).symm⟩
  | none =>
    cases leaves : e.leaves c i with
    | true => simp [enters, leaves] at h
    | false =>
      simp [enters, leaves] at h
      obtain ⟨v, at_, same⟩ := h
      exact .inr ⟨rfl, v, at_, same.symm⟩

theorem Notice.of_announces {n : Notice} (h : n.announces = true) : ∃ count, n = .retrying count := by
  cases n <;> simp [announces] at h
  exact ⟨_, rfl⟩

namespace Event

theorem eq_entered {start : Option Timestamp} (h : e.enters? c i = some start) :
    e = .entered c i start := by
  cases e <;> simp [enters?] at h
  simp [h]

theorem eq_left (h : e.leaves c i = true) : ∃ reply, e = .left c i reply := by
  cases e <;> simp [leaves] at h
  simp [h]

theorem eq_delaying (h : e.delays c i = true) : ∃ attempt, e = .delaying c i attempt := by
  cases e <;> simp [delays] at h
  simp [h]

theorem eq_asked {attempt : Attempt} (h : e.asks? c i = some attempt) :
    ∃ elapsed scripted, e = .asked c i attempt elapsed scripted := by
  cases e <;> simp [asks?] at h
  simp [h]

namespace InOrder

theorem arriving {level : Nat} (order : e.InOrder depth earlier)
    (arrives : e.arrives depth c level = true) : Arriving depth c earlier level := by
  cases e <;> simp [Event.arrives] at arrives
  · obtain ⟨rfl, rfl⟩ := arrives
    exact order.2
  · obtain ⟨rfl, rfl⟩ := arrives
    exact order.2
  · obtain ⟨rfl, rfl⟩ := arrives
    exact order

theorem beginning (order : e.InOrder depth earlier) (begins : e.begins c i = true)
    (inside : e.enters? c i = none) :
    e.arrives depth c (i + 1) = false ∧
      ∃ v, visit depth c i earlier = some v ∧ v.rounds = v.sends := by
  cases e <;> simp [Event.begins, Event.enters?] at begins inside
  · exact absurd begins.2 (inside begins.1)
  · obtain ⟨⟨rfl, rfl⟩, announces⟩ := begins
    obtain ⟨v, at_, rounds⟩ := order
    obtain ⟨count, notice⟩ := Notice.of_announces announces
    exact ⟨rfl, v, at_, (rounds count notice).2⟩

theorem asking {attempt : Attempt} (order : e.InOrder depth earlier)
    (asks : e.asks? c i = some attempt) : ∃ v, visit depth c i earlier = some v ∧
      v.sends = v.attempts.length + 1 ∧ attempt.count = v.sends ∧ attempt.start = v.start := by
  obtain ⟨elapsed, scripted, rfl⟩ := e.eq_asked asks
  exact order

theorem delaying (order : e.InOrder depth earlier) (delays : e.delays c i = true) :
    ∃ v, visit depth c i earlier = some v ∧ v.delays < v.attempts.length := by
  obtain ⟨attempt, rfl⟩ := e.eq_delaying delays
  obtain ⟨v, at_, -, few⟩ := order
  exact ⟨v, at_, few⟩

theorem acting (order : e.InOrder depth earlier) (acts : e.actor? = some i) :
    ∃ v, visit depth e.call i earlier = some v := by
  cases e <;> cases acts
  case releasing => exact order
  all_goals
    obtain ⟨v, at_, -⟩ := order
    exact ⟨v, at_⟩

theorem seeing {attempt : Attempt} (order : e.InOrder depth earlier)
    (sees : e.attempt? = some (i, attempt)) :
    ∃ v, visit depth e.call i earlier = some v ∧ v.attempts.head? = some attempt := by
  cases e <;> cases sees
  · exact order
  · obtain ⟨v, at_, latest, -⟩ := order
    exact ⟨v, at_, latest⟩
  · exact order

end InOrder

end Event

theorem of_known {P : Visit → Prop} {known : Option Visit} {v : Visit}
    (h : ∃ v, known = some v ∧ P v) (at_ : known = some v) : P v := by
  obtain ⟨v', same, holds⟩ := h
  cases same.symm.trans at_
  exact holds

/-- A visit begins a round when all before are sent, sends when all sends before are put to the
retryer, and waits after an attempt at most. -/
theorem visit_bounds {journal : List Event} {v : Visit} (order : Always (Event.InOrder depth) journal)
    (at_ : visit depth c i journal = some v) :
    v.sends ≤ v.rounds ∧ v.rounds ≤ v.sends + 1 ∧ v.attempts.length ≤ v.sends ∧
      v.delays ≤ v.attempts.length := by
  induction journal generalizing v with
  | nil => cases at_
  | cons e earlier ih =>
    obtain ⟨start, -, rfl⟩ | ⟨inside, v, known, rfl⟩ := of_visit_cons at_
    · simp
    · obtain ⟨sent, begun, asked, delayed⟩ := ih order.2 known
      have sends (arrives : e.arrives depth c (i + 1) = true) :
          v.sends = v.attempts.length ∧ v.rounds = v.sends + 1 :=
        of_known (order.1.arriving arrives) known
      have begins (begins : e.begins c i = true) : v.rounds = v.sends :=
        of_known (order.1.beginning begins inside).2 known
      have delays (delays : e.delays c i = true) : v.delays < v.attempts.length :=
        of_known (order.1.delaying delays) known
      have asks (attempt) (asks : e.asks? c i = some attempt) :
          v.sends = v.attempts.length + 1 := (of_known (order.1.asking asks) known).1
      cases arrives : e.arrives depth c (i + 1) <;> cases begun : e.begins c i <;>
        cases delayed : e.delays c i <;> cases asked : e.asks? c i <;>
        simp_all [Visit.after] <;> omega

/-- The attempts of a visit are counted from one on, and all have its start time. -/
theorem visit_counts {journal : List Event} {v : Visit} (order : Always (Event.InOrder depth) journal)
    (at_ : visit depth c i journal = some v) :
    v.attempts.reverse.map (·.count) = List.range' 1 v.attempts.length ∧
      ∀ attempt ∈ v.attempts, attempt.start = v.start := by
  induction journal generalizing v with
  | nil => cases at_
  | cons e earlier ih =>
    obtain ⟨start, -, rfl⟩ | ⟨-, v, known, rfl⟩ := of_visit_cons at_
    · simp
    · obtain ⟨counts, starts⟩ := ih order.2 known
      cases asks : e.asks? c i with
      | none => simpa [Visit.after, asks] using And.intro counts starts
      | some attempt =>
        obtain ⟨sends, count, start⟩ := of_known (order.1.asking asks) known
        constructor
        · simp [Visit.after, asks, counts, List.range'_concat, count, sends]
          omega
        · simpa [Visit.after, asks, start] using starts

theorem countP_arrives_zero {journal : List Event} (order : Always (Event.InOrder depth) journal) :
    journal.countP (Event.arrives depth c 0) ≤ 1 := by
  induction journal with
  | nil => simp
  | cons e earlier ih =>
    rw [List.countP_cons]
    cases arrives : e.arrives depth c 0 with
    | false => simpa using ih order.2
    | true =>
      have none_ : earlier.countP (Event.arrives depth c 0) = 0 := by
        rw [List.countP_eq_zero]
        intro e' mem
        simp [order.1.arriving arrives e' mem]
      simp [none_]

/-- In a layer above another one, each round that is begun is sent before the layer goes on. -/
theorem countP_begins {journal : List Event} (below : i + 1 < depth)
    (order : Always (Event.InOrder depth) journal) :
    journal.countP (Event.begins c i) = journal.countP (Event.arrives depth c (i + 1)) +
      unsent (visit depth c i journal) := by
  induction journal with
  | nil => rfl
  | cons e earlier ih =>
    obtain ⟨now, before⟩ := order
    have counted := ih before
    rw [List.countP_cons, List.countP_cons, counted, visit_cons]
    cases enters : e.enters? c i with
    | some start =>
      obtain rfl := e.eq_entered enters
      simp [now.1, unsent, Event.begins, Event.arrives]
    | none =>
      cases leaves : e.leaves c i with
      | true =>
        obtain ⟨reply, rfl⟩ := e.eq_left leaves
        have sent : unsent (visit depth c i earlier) = 0 := by
          obtain ⟨v, at_, rounds⟩ | ⟨rest, rfl⟩ := now
          · simp [at_, unsent, rounds below]
          · simp [visit_cons, Event.enters?, Event.leaves, before.1.1, unsent]
        have none_ : unsent none = 0 := rfl
        simp [sent, none_, Event.begins, Event.arrives]
      | false =>
        cases begins : e.begins c i with
        | true =>
          obtain ⟨apart, v, at_, rounds⟩ := now.beginning begins enters
          simp [apart, at_, unsent, Visit.after, begins, rounds]
        | false =>
          cases arrives : e.arrives depth c (i + 1) with
          | true =>
            obtain ⟨v, at_, -, rounds⟩ := now.arriving arrives
            simp [at_, unsent, Visit.after, begins, arrives, rounds]
          | false =>
            cases known : visit depth c i earlier with
            | none => simp [unsent]
            | some v => simp [unsent, Visit.after, begins, arrives]

end

end HttpRetry
