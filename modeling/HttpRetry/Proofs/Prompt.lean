import HttpRetry.Proofs.Reckoned
set_option autoImplicit false

namespace HttpRetry

/-- What an event asks of the next one, where it ends a layer's part in a call. -/
def Event.Forces (s : Setting) (layers : List Layer) (calls : List Call) (earlier : List Event)
    (e next : Event) : Prop :=
  match e with
  | .refused c i => ∃ spec id, readingAfter layers calls earlier i = some (.error spec) ∧
      next = .left c i (.raised ((spec.failure id).outOf s.mode.routine))
  | .received c i reply => ∀ e, reply = .raised e → e.isInterrupt = true →
      next = .left c i (.raised e)
  | .logged c i entry => ∀ count e, entry.notice = .aborting count e →
      next = .left c i (.raised (e.outOf s.mode.routine))
  | .delaying c i _ => ∀ wait spec, waitAfter layers earlier i = some wait →
      wait.failure = some spec →
        ∃ id, next = .left c i (.raised ((spec.failure id).outOf s.mode.routine))
  | _ => True

def Prompt (s : Setting) (layers : List Layer) (calls : List Call) : List Event → Event → Prop
  | [], _ => True
  | latest :: earlier, e => latest.Forces s layers calls earlier e

def Idle (s : Setting) (layers : List Layer) (calls : List Call) (journal : List Event) : Prop :=
  ∀ e, Prompt s layers calls journal e

section
variable {s : Setting} {layers : List Layer} {calls : List Call} {call : Call} {pt pt' : Point}
  {l l' : Ledger} {p : Place} {j : List Event} {e : Event}

/-- All events are prompt, and none is due. -/
structure Punctual (s : Setting) (layers : List Layer) (calls : List Call) (journal : List Event) :
    Prop where
  always : Always (Prompt s layers calls) journal
  idle : Idle s layers calls journal

namespace Punctual

theorem cons (h : Punctual s layers calls j) (e : Event)
    (asks : ∀ next, e.Forces s layers calls j next) : Punctual s layers calls (e :: j) :=
  ⟨⟨h.idle e, h.always⟩, asks⟩

theorem pair (h : Punctual s layers calls j) {e next : Event}
    (asked : e.Forces s layers calls j next)
    (asks : ∀ further, next.Forces s layers calls (e :: j) further) :
    Punctual s layers calls (next :: e :: j) :=
  ⟨⟨asked, h.idle e, h.always⟩, asks⟩

theorem asides {asides : List Event} (aside : ∀ e ∈ asides, e.isAside = true)
    (h : Punctual s layers calls j) : Punctual s layers calls (asides ++ j) := by
  induction asides with
  | nil => exact h
  | cons e rest ih =>
    obtain ⟨first, rest⟩ := List.forall_mem_cons.mp aside
    apply (ih rest).cons e
    cases e <;> simp [Event.isAside, Event.Forces] at *

theorem left (h : Punctual s layers calls j) (c i : Nat) (reply : Reply) :
    Punctual s layers calls (.left c i reply :: j) := h.cons _ fun _ => trivial

theorem logged (h : Punctual s layers calls j) (p : Place) (call : Call) {n : Notice}
    (other : ∀ count e, n ≠ .aborting count e) :
    Punctual s layers calls (.logged call.id p.index (p.entry call n) :: j) := by
  apply h.cons
  simp [Event.Forces, other]

theorem remarks (h : Punctual s layers calls j) (p : Place) (call : Call) (attempt : Attempt)
    (decision : Decision) (error : Option Failure) (retryer : Retryer) :
    Punctual s layers calls (((retryer.remarks attempt decision error).map fun n =>
      .logged call.id p.index (p.entry call n)).reverse ++ j) := by
  have other : ∀ n ∈ retryer.remarks attempt decision error, ∀ count e, n ≠ .aborting count e := by
    intro n mem count e
    obtain ⟨_, rfl⟩ | ⟨_, -, rfl⟩ := Retryer.of_mem_remarks mem <;> simp
  apply p.reports_keep call _ _ h
  intro n mem j h
  exact h.logged p call (other n mem)

end Punctual

/-- In each step, what is due comes next. -/
theorem Takes.punctual (takes : Takes s call pt l pt' l') (through : pt.Through layers)
    (waits : pt.Waits) (reckoned : l.Reckoned layers calls)
    (h : Punctual s layers calls l.journal) : Punctual s layers calls l'.journal := by
  cases takes with
  | pause unmoved =>
    obtain ⟨asides, journal, aside⟩ := unmoved.journal
    rw [journal]
    exact h.asides aside
  | enter reads => exact h.cons _ fun _ => trivial
  | @refuse frames p inner spec id l fails =>
    have reading := reckoned.reading through.next.2.1
    rw [fails] at reading
    exact h.pair ⟨spec, id, reading, rfl⟩ fun _ => trivial
  | transmit => exact h.cons _ fun _ => trivial
  | @interrupted f outer inner e l interrupt =>
    apply h.pair
    · intro e' same _
      cases same
      rfl
    · exact fun _ => trivial
  | @raised f outer inner e attempt l plain fits faults =>
    apply Punctual.logged
    · apply h.cons
      intro next e' same interrupt
      cases same
      simp [plain] at interrupt
    · simp
  | received unraised fits faults =>
    apply h.cons
    intro next e same
    simp [same, Reply.error?] at unraised
  | unanswered silent => exact h.cons _ fun _ => trivial
  | @answered f outer inner attempt elapsed decision error l gives =>
    rw [Place.journal_answered]
    have asked := h.cons (.asked call.id f.place.index attempt elapsed
      f.place.layer.retryer.isScripted) fun _ => trivial
    exact (asked.remarks f.place call attempt decision error _).cons _ fun _ => trivial
  | release rejected has => exact h.cons _ fun _ => trivial
  | tolerate swallowed =>
    rw [Place.journal_failingDrain]
    apply h.logged
    simp
  | breakOff kept => exact h.left _ _ _
  | reraise => exact h.left _ _ _
  | settle settles => exact h.left _ _ _
  | @abort f outer inner attempt error e l raises =>
    rw [Place.journal_leaving, Attempt.journal_blaming, Place.journal_logged]
    apply h.pair
    · intro count e' same
      simp at same
      rw [same.2]
    · exact fun _ => trivial
  | delay delays =>
    apply h.logged
    simp
  | @work f outer inner attempt delay began l works =>
    have wait := reckoned.wait through.head.2.1 (waits f outer delay attempt began rfl rfl)
    apply h.cons
    intro next given spec found fails
    cases wait.symm.trans found
    simp [works] at fails
  | @fail f outer inner attempt delay began spec id l fails =>
    have wait := reckoned.wait through.head.2.1 (waits f outer delay attempt began rfl rfl)
    apply h.pair
    · intro given spec' found fails'
      cases wait.symm.trans found
      cases fails.symm.trans fails'
      exact ⟨id, rfl⟩
    · exact fun _ => trivial
  | done =>
    rw [Place.journal_delayed]
    exact h.cons _ fun _ => trivial
  | announce =>
    apply h.logged
    simp
  | thrown rests interrupt => exact h.left _ _ _
  | _ => exact h

end

namespace Reached

variable {s : Setting} {layers : List Layer} {calls : List Call}
  {initial : List (FailureId × Failure)} {points : Nat → Point} {l : Ledger}

theorem punctual (distinct : (calls.map (·.id)).Nodup)
    (reached : Reached s (placesFrom 0 layers) calls initial points l) :
    Punctual s layers calls l.journal := by
  induction reached with
  | start => exact ⟨trivial, fun _ => trivial⟩
  | aside _ unmoved ih =>
    obtain ⟨asides, journal, aside⟩ := unmoved.journal
    rw [journal]
    exact ih.asides aside
  | step before mem takes ih =>
    exact takes.punctual (before.through _) (before.waits _) (before.reckoned distinct) ih

/-- Where an event asks for a layer to be left, that is what happens next. -/
theorem leaves (distinct : (calls.map (·.id)).Nodup)
    (reached : Reached s (placesFrom 0 layers) calls initial points l) {e : Event}
    {later earlier : List Event} (h : l.journal = later ++ e :: earlier) {c i : Nat}
    {P : Reply → Prop} (asks : ∀ next, e.Forces s layers calls earlier next →
      ∃ reply, next = .left c i reply ∧ P reply) :
    ∃ reply rest, later = rest ++ [.left c i reply] ∧ P reply := by
  obtain ⟨always, idle⟩ := reached.punctual distinct
  rcases List.eq_nil_or_concat' later with none_ | ⟨rest, next, split⟩
  · rw [h, none_] at idle
    obtain ⟨reply, same, -⟩ := asks (.transportClosed 0) (idle _)
    cases same
  · have due : Prompt s layers calls (e :: earlier) next := by
      apply always.at
      simp [h, split]
    obtain ⟨reply, rfl, holds⟩ := asks next due
    exact ⟨reply, rest, split, holds⟩

end Reached

end HttpRetry
