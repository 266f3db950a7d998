import HttpRetry.Proofs.Round
/-!
The failures that a call makes on the spot, and the causes that are given to failures. A call knows
its failures by how many it has made; only an abort gives a failure a cause.
-/
set_option autoImplicit false

namespace HttpRetry

open Work

structure Ledger.Blameless (call : Nat) (l l' : Ledger) : Prop where
  causes : l'.causes = l.causes
  failures : (l.calls call).failures ≤ (l'.calls call).failures

namespace Ledger.Blameless

variable {call : Nat} {l l' l'' : Ledger}

theorem refl (call : Nat) (l : Ledger) : Blameless call l l := ⟨rfl, Nat.le_refl _⟩

theorem trans (h : Blameless call l l') (h' : Blameless call l' l'') : Blameless call l l'' :=
  ⟨h'.causes.trans h.causes, Nat.le_trans h.failures h'.failures⟩

theorem cause? (h : Blameless call l l') (id : FailureId) : l'.cause? id = l.cause? id := by
  rw [Ledger.cause?, h.causes]
  rfl

theorem measured (call : Nat) (p : Place) (f : Metrics → Metrics) (l : Ledger) :
    Blameless call l (p.measured f l) := by
  unfold Place.measured
  split
  · exact ⟨rfl, Nat.le_refl _⟩
  · exact refl call l

theorem adjustCall (call : Nat) (l : Ledger) {f : CallState → CallState}
    (more : ∀ c : CallState, c.failures ≤ (f c).failures) :
    Blameless call l (l.adjustCall call f) := by
  refine ⟨rfl, ?_⟩
  show _ ≤ (updateAt l.calls call f call).failures
  rw [updateAt_self]
  exact more _

theorem build (call : Nat) (l : Ledger) (r : Response) : Blameless call l (l.build call r) := by
  have same := updateAt_self l.calls call fun c => { c with built := c.built + 1 }
  exact ⟨rfl, Nat.le_of_eq (congrArg CallState.failures same).symm⟩

end Ledger.Blameless

/-- A failure that was made before, be it a shared one or one of the call's own. -/
def Failure.Known (call : Nat) (l : Ledger) (e : Failure) : Prop :=
  match e.id with
  | .shared _ => True
  | .fresh maker serial => maker = call ∧ serial < (l.calls call).failures

theorem Failure.Known.outOf {call : Nat} {l : Ledger} {e : Failure} (h : e.Known call l)
    (routine : Routine) : (e.outOf routine).Known call l := by
  unfold Known at h ⊢
  rw [Failure.id_outOf]
  exact h

theorem Failure.Known.id_ne {call : Nat} {l : Ledger} {e : Failure} (h : e.Known call l) {n : Nat}
    (later : (l.calls call).failures ≤ n) : e.id ≠ .fresh call n := by
  intro same
  unfold Known at h
  rw [same] at h
  exact Nat.not_lt.mpr later h.2

theorem FailureSpec.id_failure (spec : FailureSpec) (fresh : FailureId) :
    (spec.failure fresh).id = .shared (spec.name.getD "") ∨ (spec.failure fresh).id = fresh := by
  unfold failure
  cases spec.name with
  | none =>
    refine .inr ?_
    simp only
    split
    · rfl
    · rfl
  | some name =>
    refine .inl ?_
    simp only
    split
    · rfl
    · rfl

/-- Work that gives no failure a cause, and whose value says what `V` does. -/
abbrev Work.Excuses {α : Type} (w : Work α) (call : Nat) (l : Ledger)
    (V : α → Ledger → Prop) : Prop :=
  w.Yields l fun a l' => l.Blameless call l' ∧ V a l'

def KnownFailure (call : Nat) (l : Ledger) (result : Except Failure Unit) : Prop :=
  ∀ e, result = .error e → e.Known call l

namespace Work

variable {α β : Type} {call : Nat} {mode : Mode} {l : Ledger}

theorem excuses_pure {V : α → Ledger → Prop} {a : α} (h : V a l) :
    Excuses (pure a) call l V := ⟨.refl call l, h⟩

theorem excuses_bind {U : α → Ledger → Prop} {V : β → Ledger → Prop} {w : Work α} {f : α → Work β}
    (hw : w.Excuses call l U) (hf : ∀ a l', U a l' → (f a).Excuses call l' V) :
    (w >>= f).Excuses call l V :=
  yields_bind hw fun a l' h => (hf a l' h.2).mono fun _ _ h' => ⟨h.1.trans h'.1, h'.2⟩

theorem excuses_modify {g : Ledger → Ledger} (h : l.Blameless call (g l)) :
    (modify g : Work Unit).Excuses call l fun _ _ => True := ⟨h, trivial⟩

theorem note_excuses (e : Event) : (note e).Excuses call l fun _ _ => True :=
  ⟨⟨rfl, Nat.le_refl _⟩, trivial⟩

theorem advance_excuses (seconds : Rat) : (advance seconds).Excuses call l fun _ _ => True :=
  ⟨⟨rfl, Nat.le_refl _⟩, trivial⟩

theorem nextSend_excuses : (nextSend call).Excuses call l fun _ _ => True :=
  ⟨.adjustCall call l fun _ => Nat.le_refl _, trivial⟩

theorem adjustResponse_excuses (id : ResponseId) (f : Response → Response) :
    (adjustResponse id f).Excuses call l fun _ _ => True :=
  ⟨⟨rfl, Nat.le_refl _⟩, trivial⟩

theorem fail_excuses (spec : FailureSpec) :
    (fail call spec).Excuses call l fun e l' => e.Known call l' := by
  refine ⟨.adjustCall call l fun c => Nat.le_succ _, ?_⟩
  show Failure.Known call _ (spec.failure (.fresh call (l.calls call).failures))
  unfold Failure.Known
  rcases spec.id_failure (.fresh call (l.calls call).failures) with same | same
  · rw [same]
    trivial
  · rw [same]
    refine ⟨rfl, ?_⟩
    show _ < (updateAt l.calls call (fun c => { c with failures := c.failures + 1 }) call).failures
    rw [updateAt_self]
    exact Nat.lt_succ_self _

theorem freshFailure_excuses :
    (freshFailure call).Excuses call l fun id _ => id = .fresh call (l.calls call).failures :=
  ⟨.adjustCall call l fun _ => Nat.le_succ _, rfl⟩

theorem known_ok : KnownFailure call l (.ok ()) := fun _ h => by cases h

theorem KnownFailure.outOf {result : Except Failure Unit} (h : KnownFailure call l result)
    (routine : Routine) : KnownFailure call l (result.mapError (·.outOf routine)) := by
  cases result with
  | ok u => exact known_ok
  | error e =>
    intro e' failed
    cases failed
    exact (h e rfl).outOf routine

theorem failWith_excuses (routine : Routine) (spec : FailureSpec) :
    (failWith routine call spec).Excuses call l fun result l' => KnownFailure call l' result :=
  excuses_bind (fail_excuses spec) fun e l' known => excuses_pure fun e' h => by
    cases h
    exact known.outOf routine

theorem close_excuses (id : ResponseId) :
    (close mode call id).Excuses call l fun result l' => KnownFailure call l' result := by
  refine yields_get ?_
  split
  · exact excuses_pure known_ok
  · split
    · exact excuses_pure known_ok
    · split
      · exact failWith_excuses _ _
      · split
        · exact excuses_pure known_ok
        · refine excuses_bind (adjustResponse_excuses id .shut) fun _ _ _ => ?_
          refine excuses_bind (note_excuses _) fun _ _ _ => ?_
          split
          · exact excuses_pure known_ok
          · exact failWith_excuses _ _

theorem iterate_excuses (limit : Option Nat) (atLimit : Option FailureSpec) (id : ResponseId) :
    (iterate mode call limit atLimit id).Excuses call l fun result l' =>
      KnownFailure call l' result := by
  refine yields_get ?_
  split
  · exact excuses_pure known_ok
  · split
    · exact failWith_excuses _ _
    · split
      · exact failWith_excuses _ _
      · split
        · exact excuses_pure known_ok
        · split
          · exact failWith_excuses _ _
          · refine excuses_bind (adjustResponse_excuses id _) fun _ _ _ => ?_
            split
            · exact failWith_excuses _ _
            · split
              · exact excuses_pure known_ok
              · exact excuses_bind (close_excuses id) fun _ _ known =>
                  excuses_pure (KnownFailure.outOf known _)

theorem read_excuses (id : ResponseId) :
    (read mode call id).Excuses call l fun result l' => KnownFailure call l' result := by
  refine yields_get ?_
  split
  · exact excuses_pure known_ok
  · split
    · exact excuses_pure known_ok
    · refine excuses_bind (iterate_excuses none none id) fun result _ known => ?_
      cases result with
      | ok u => exact excuses_bind (adjustResponse_excuses id .kept) fun _ _ _ =>
          excuses_pure known_ok
      | error e => exact excuses_pure known

theorem prepare_excuses (id : ResponseId) (how : Preparation) :
    (prepare mode call id how).Excuses call l fun result l' => KnownFailure call l' result := by
  cases how with
  | fresh => exact excuses_pure known_ok
  | read => exact read_excuses id
  | begun => exact iterate_excuses (some 1) none id
  | closed => exact close_excuses id

end Work

def Reply.Known (call : Nat) (l : Ledger) (reply : Reply) : Prop :=
  ∀ e, reply.error? = some e → e.Known call l

section
variable {call : Call} {mode : Mode} {l : Ledger}

theorem Reply.known_of_error_none {reply : Reply} (h : reply.error? = none) :
    reply.Known call.id l := by
  intro e he
  rw [h] at he
  cases he

theorem Reply.Known.outOf {reply : Reply} (h : reply.Known call.id l) (routine : Routine) :
    (reply.outOf routine).Known call.id l := by
  cases reply with
  | response r => exact h
  | nothing => exact h
  | raised e =>
    intro e' he
    cases he
    exact (h e rfl).outOf routine

namespace Work

theorem raise_excuses (spec : FailureSpec) :
    Excuses (do return Reply.raised (← fail call.id spec)) call.id l fun reply l' =>
      reply.Known call.id l' :=
  excuses_bind (fail_excuses spec) fun e l' known => excuses_pure fun e' h => by
    cases h
    exact known

theorem perform_excuses (act : Act) :
    (perform mode call.id act).Excuses call.id l fun reply l' => reply.Known call.id l' := by
  cases act with
  | raise spec => exact raise_excuses spec
  | nothing => exact excuses_pure (Reply.known_of_error_none rfl)
  | again index =>
    refine yields_get ?_
    split
    · exact excuses_pure (Reply.known_of_error_none rfl)
    · exact raise_excuses _
  | repeated serial =>
    refine yields_get ?_
    split
    · exact excuses_pure (Reply.known_of_error_none rfl)
    · exact raise_excuses _
  | respondText status text => exact ⟨.build call.id l _, Reply.known_of_error_none rfl⟩
  | respond status stream how =>
    have added : (addResponse call.id (.ofStream status stream)).Excuses call.id l
        fun _ _ => True := ⟨.build call.id l _, trivial⟩
    refine excuses_bind added fun id _ _ => ?_
    refine excuses_bind (prepare_excuses id how) fun result _ known => ?_
    cases result with
    | ok u => exact excuses_pure (Reply.known_of_error_none rfl)
    | error e => exact excuses_pure fun e' h => known e' (by cases h; rfl)

end Work

theorem Call.transmit_excuses :
    (call.transmit mode).Excuses call.id l fun reply l' => reply.Known call.id l' := by
  refine excuses_bind (note_excuses _) fun _ _ _ => ?_
  refine excuses_bind nextSend_excuses fun n _ _ => ?_
  refine excuses_bind (advance_excuses _) fun _ _ _ => ?_
  exact excuses_bind (perform_excuses _) fun _ _ known => excuses_pure (known.outOf _)

namespace Place

variable {p : Place}

theorem report_excuses (n : Notice) : (p.report call n).Excuses call.id l fun _ _ => True := by
  unfold report
  split
  · exact note_excuses _
  · exact note_excuses _

theorem measure_excuses (f : Metrics → Metrics) :
    (p.measure f).Excuses call.id l fun _ _ => True := excuses_modify (.measured call.id p f l)

theorem leaveWith_excuses (spec : FailureSpec) :
    (p.leaveWith mode call spec).Excuses call.id l fun _ _ => True :=
  excuses_bind (fail_excuses spec) fun _ _ _ =>
    excuses_bind (note_excuses _) fun _ _ _ => excuses_pure trivial

theorem useClock_excuses (f : ClockUse → ClockUse) :
    (p.useClock f).Excuses call.id l fun _ _ => True := excuses_modify ⟨rfl, Nat.le_refl _⟩

theorem enter_excuses : (p.enter mode call).Excuses call.id l fun _ _ => True := by
  have binds : (p.bind call).Excuses call.id l fun _ _ => True := by
    unfold bind
    split
    · exact note_excuses _
    · exact excuses_pure trivial
  refine excuses_bind binds fun _ _ _ => yields_get ?_
  split
  · have refuses {l : Ledger} (spec : FailureSpec) :
        (p.refuse mode call spec).Excuses call.id l fun _ _ => True :=
      excuses_bind (useClock_excuses _) fun _ _ _ =>
        excuses_bind (note_excuses _) fun _ _ _ => leaveWith_excuses spec
    exact excuses_bind (refuses _) fun _ _ _ => excuses_pure trivial
  · refine excuses_bind (useClock_excuses _) fun _ _ _ => ?_
    exact excuses_bind (note_excuses _) fun _ _ _ => excuses_pure trivial

theorem release_excuses (attempt : Attempt) :
    (p.release mode call attempt).Excuses call.id l fun _ _ => True := by
  unfold release
  cases attempt.response with
  | none => exact excuses_pure trivial
  | some r =>
    refine excuses_bind (note_excuses _) fun _ l₁ _ => ?_
    have drains : (p.drain mode call r).Excuses call.id l₁ fun _ _ => True := by
      refine yields_get ?_
      split
      · exact excuses_pure trivial
      · split
        · exact excuses_pure trivial
        · exact (iterate_excuses _ _ r.id).mono fun _ _ h => ⟨h.1, trivial⟩
    have discards : (p.discard mode call r).Excuses call.id l₁ fun _ _ => True := by
      refine excuses_bind drains fun drained _ _ => ?_
      refine excuses_bind (close_excuses r.id) fun closed _ _ => ?_
      cases closed with
      | error e => exact excuses_pure trivial
      | ok u => exact excuses_pure trivial
    refine excuses_bind discards fun result _ _ => ?_
    cases result with
    | ok u => exact excuses_pure trivial
    | error e =>
      simp only [tolerate]
      split
      · refine excuses_bind (report_excuses _) fun _ _ _ => ?_
        exact excuses_bind (measure_excuses _) fun _ _ _ => excuses_pure trivial
      · exact excuses_pure trivial

theorem abort_raises (attempt : Attempt) (error : Option Failure) :
    (p.abort call attempt error).Yields l fun e _ =>
      error = some e ∨ error = none ∧ ∃ id, e = .aborted id attempt := by
  have chosen : (abortError call attempt error).Yields l fun e _ =>
      error = some e ∨ error = none ∧ ∃ id, e = .aborted id attempt := by
    cases error with
    | some e => exact .inl rfl
    | none => exact .inr ⟨rfl, _, rfl⟩
  refine yields_bind chosen fun e _ raised => ?_
  refine yields_bind (P := fun _ _ => True) trivial fun _ _ _ => ?_
  exact yields_bind (P := fun _ _ => True) trivial fun _ _ _ => yields_pure raised

theorem abort_cause (attempt : Attempt) (error : Option Failure) :
    (p.abort call attempt error).Yields l fun e l' =>
      (∀ own, attempt.error = some own → own.is e = false) →
        l'.cause? e.id = attempt.error.or (l.cause? e.id) := by
  have chosen : (abortError call attempt error).Excuses call.id l fun _ _ => True := by
    cases error with
    | some e => exact excuses_pure trivial
    | none => exact excuses_bind freshFailure_excuses fun _ _ _ => excuses_pure trivial
  refine yields_bind chosen fun e l₁ h₁ => ?_
  refine yields_bind (report_excuses _) fun _ l₂ h₂ => ?_
  have kept : l₂.cause? e.id = l.cause? e.id := (h₁.1.trans h₂.1).cause? e.id
  refine yields_bind (P := fun _ l' => (∀ own, attempt.error = some own → own.is e = false) →
    l'.cause? e.id = attempt.error.or (l.cause? e.id)) ?_ fun _ _ cause => yields_pure cause
  unfold chain
  cases attempt.error with
  | none => exact fun _ => kept
  | some own =>
    intro other
    simp only
    rw [other own rfl]
    exact List.lookup_cons_self

theorem announce_excuses (made : Nat) :
    (p.announce call made).Excuses call.id l fun _ _ => True := by
  unfold announce
  split
  · exact excuses_pure trivial
  · exact report_excuses _

theorem delayWork_excuses (delay : Delayer) (attempt : Attempt) :
    (p.delayWork mode delay call attempt).Excuses call.id l fun _ _ => True := by
  refine excuses_bind (note_excuses _) fun _ l₁ _ => yields_get ?_
  refine excuses_bind (excuses_modify ⟨rfl, Nat.le_refl _⟩) fun _ _ _ => ?_
  refine excuses_bind (advance_excuses _) fun _ _ _ => ?_
  split
  · exact excuses_bind (leaveWith_excuses _) fun _ _ _ => excuses_pure trivial
  · exact excuses_pure trivial

theorem delayDone_excuses (timer : Timer) (attempt : Attempt) (began : Rat) :
    (p.delayDone timer call attempt began).Excuses call.id l fun _ _ => True :=
  yields_get (excuses_bind (note_excuses _) fun _ _ _ => measure_excuses _)

theorem waitBlocking_excuses (s : Setting) (attempt : Attempt) :
    (p.waitBlocking s call attempt).Excuses call.id l fun _ _ => True := by
  unfold waitBlocking
  split
  · exact excuses_pure trivial
  · refine excuses_bind (report_excuses _) fun _ _ _ => yields_get ?_
    refine excuses_bind (delayWork_excuses _ attempt) fun result l₁ _ => ?_
    cases result with
    | error e => exact excuses_pure trivial
    | ok u => exact excuses_bind (delayDone_excuses s.timer attempt _) fun _ _ _ => excuses_pure trivial

end Place

end

end HttpRetry
