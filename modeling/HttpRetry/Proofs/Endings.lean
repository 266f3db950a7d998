import HttpRetry.Proofs.Round
/-!
What a layer can end a call with, through all of its exits: a final attempt, an abort, the failure of a
release, of its retryer, its delayer or its clock, and interrupts.
-/
set_option autoImplicit false

namespace HttpRetry

open Work

theorem tolerated_kept {result : Except Failure Unit} {e : Failure}
    (h : tolerated result = .error e) : e.isSwallowed = false := by
  cases result with
  | ok u => cases h
  | error e' =>
    cases swallowed : e'.isSwallowed with
    | true => simp [tolerated, swallowed] at h
    | false =>
      have same : e' = e := by simpa [tolerated, swallowed] using h
      rw [← same]
      exact swallowed

theorem Failure.isTransport_of_not_isSwallowed {e : Failure} (h : e.isSwallowed = false) :
    e.isTransport = false := by
  cases transport : e.isTransport with
  | false => rfl
  | true =>
    have swallowed : e.isSwallowed = true := FailureKind.isSwallowed_of_isTransport transport
    rw [h] at swallowed
    cases swallowed

theorem Failure.isTransport_of_isInterrupt {e : Failure} (h : e.isInterrupt = true) :
    e.isTransport = false :=
  isTransport_of_not_isSwallowed (FailureKind.isSwallowed_eq_false_of_isInterrupt h)

/-- A verdict that ends a layer's part in a call does so with a reply that `Q` holds of. -/
def Verdict.EndsIn (Q : Reply → Prop) : Verdict → Prop
  | .finished reply => Q reply
  | .again _ => True

def FailsIn {α : Type} (Q : Reply → Prop) (result : Except Failure α) : Prop :=
  ∀ e, result = .error e → Q (.raised e)

namespace Place

variable {Q : Reply → Prop} {p : Place} {s : Setting} {call : Call} {l : Ledger}

theorem release_kept (mode : Mode) (attempt : Attempt) :
    (p.release mode call attempt).Yields l fun result _ =>
      ∀ e, result = .error e → e.isSwallowed = false := by
  unfold Yields
  cases has : attempt.response with
  | none =>
    unfold release
    rw [has]
    intro e failed
    cases failed
  | some r =>
    rw [release_of_some has, tolerate_fst]
    exact fun e failed => tolerated_kept failed

/-- What a round ends in: an interrupt that is let through, the failure of a release, or what the
retryer's answer comes to. -/
theorem conclude_endsIn {A : Attempt → Except Failure (Decision × Option Failure) → Prop}
    (leaves : ∀ reply, Q reply → Q (reply.outOf s.mode.routine))
    (interrupts : ∀ e, e.isInterrupt = true → Q (.raised e))
    (releases : ∀ e, e.isSwallowed = false → Q (.raised e)) {start : Option Timestamp} {made : Nat}
    {reply : Reply}
    (weighs : ∀ l, (p.weigh call start made reply).Yields l fun weighed _ =>
      A weighed.1 weighed.2)
    (resolves : ∀ attempt answer l, A attempt answer →
      (p.resolve call attempt answer).Yields l fun verdict _ => verdict.EndsIn Q) :
    (p.conclude s call start made reply).Yields l fun verdict _ => verdict.EndsIn Q := by
  have finishes : ∀ verdict l, verdict.EndsIn Q →
      (p.finish s.mode call verdict).Yields l fun verdict _ => verdict.EndsIn Q := by
    intro verdict l ends
    cases verdict with
    | finished reply => exact leaves reply ends
    | again attempt => exact trivial
  cases interrupt : reply.isInterrupt with
  | true =>
    cases reply with
    | raised e =>
      unfold Yields
      rw [conclude_interrupt s start made interrupt]
      exact interrupts e interrupt
    | response r => cases interrupt
    | nothing => cases interrupt
  | false =>
    refine yields_conclude interrupt (weighs _) fun attempt answer l' known => ?_
    have follows : (p.follow s.mode call attempt answer).Yields l' fun verdict _ =>
        verdict.EndsIn Q := by
      cases passes : attempt.passes answer with
      | true =>
        rw [follow_of_passes passes]
        exact resolves attempt answer l' known
      | false =>
        unfold Yields
        rw [follow_of_rejected passes]
        cases released : (p.release s.mode call attempt l').1 with
        | error e => exact releases e (release_kept s.mode attempt e released)
        | ok u => exact resolves attempt answer _ known
    exact yields_bind follows fun verdict l'' ends => finishes verdict l'' ends

theorem waitBlocking_failsIn {attempt : Attempt}
    (delays : ∀ delay, p.layer.delay = some delay → ∀ n spec, (delay n).failure = some spec →
      ∀ id, Q (.raised ((spec.failure id).outOf s.mode.routine))) :
    (p.waitBlocking s call attempt).Yields l fun result _ => FailsIn Q result := by
  unfold waitBlocking
  cases delayer : p.layer.delay with
  | none => exact fun e failed => by cases failed
  | some delay =>
    refine yields_after fun _ l₁ => yields_get ?_
    have works : (p.delayWork s.mode delay call attempt).Yields l₁ fun result _ => FailsIn Q result := by
      refine yields_note (yields_get (yields_modify (yields_after fun _ l₂ => ?_)))
      cases failure : (delay ((l₁.note (.delaying call.id p.index attempt)).delays p.index)).failure with
      | none => exact fun e failed => by cases failed
      | some spec =>
        intro e failed
        cases failed
        exact delays delay delayer _ spec failure _
    refine yields_bind works fun result l₂ fails => ?_
    cases result with
    | error e => exact fails
    | ok u => exact yields_after fun _ l₃ e failed => by cases failed

theorem rounds_endIn {start : Option Timestamp} {next : Send}
    (concludes : ∀ made reply l, (p.conclude s call start made reply).Yields l fun verdict _ =>
      verdict.EndsIn Q)
    (waits : ∀ attempt l, (p.waitBlocking s call attempt).Yields l fun result _ => FailsIn Q result)
    (budget made : Nat) (l : Ledger) :
    (p.rounds s call start next budget made).Yields l fun sent _ =>
      ∀ reply, sent = some reply → Q reply := by
  induction budget generalizing made l with
  | zero => exact fun _ h => by cases h
  | succ budget ih =>
    refine yields_after fun _ l₁ => yields_after fun sent l₂ => ?_
    cases sent with
    | none => exact fun _ h => by cases h
    | some reply =>
      refine yields_bind (concludes made reply l₂) fun verdict l₃ ends => ?_
      cases verdict with
      | finished ending =>
        intro reply h
        cases h
        exact ends
      | again attempt =>
        refine yields_bind (waits attempt l₃) fun result l₄ fails => ?_
        cases result with
        | error e =>
          intro reply h
          cases h
          exact fails e rfl
        | ok u => exact ih (made + 1) l₄

end Place

/-- What is true of all exits of the outermost layer is true of what a call ends with. -/
theorem sendThrough_endsIn {Q : Reply → Prop} {p : Place} {s : Setting} {call : Call}
    (enters : ∀ l, (p.enter s.mode call).Yields l fun result _ => FailsIn Q result)
    (concludes : ∀ start made reply l, (p.conclude s call start made reply).Yields l
      fun verdict _ => verdict.EndsIn Q)
    (waits : ∀ attempt l, (p.waitBlocking s call attempt).Yields l fun result _ => FailsIn Q result)
    (budget : Nat) (inner : List Place) (l : Ledger) :
    (sendThrough s call budget (p :: inner)).Yields l fun sent _ =>
      ∀ reply, sent = some reply → Q reply := by
  refine yields_bind (enters l) fun entered l₁ fails => ?_
  cases entered with
  | error e =>
    intro reply h
    cases h
    exact fails e rfl
  | ok start => exact Place.rounds_endIn (concludes start) waits budget 0 l₁

/-- Whatever a call comes to has left a routine of its mode. -/
theorem sendThrough_out (s : Setting) (call : Call) (budget : Nat) (places : List Place) (l : Ledger) :
    (sendThrough s call budget places).Yields l fun sent _ =>
      ∀ reply, sent = some reply → reply.outOf s.mode.routine = reply := by
  cases places with
  | nil =>
    intro reply sent
    cases sent
    exact Reply.outOf_outOf _ _
  | cons p inner =>
    have left (e : Failure) : (Reply.raised (e.outOf s.mode.routine)).outOf s.mode.routine =
        .raised (e.outOf s.mode.routine) := Reply.outOf_outOf s.mode.routine (.raised e)
    refine sendThrough_endsIn (fun l e failed => ?_) (fun start made reply l => ?_) (fun attempt l =>
      Place.waitBlocking_failsIn fun _ _ _ _ _ _ => left _) budget inner l
    · cases reads : p.layer.clock.peek l with
      | ok start =>
        rw [Place.enter_of_reading reads] at failed
        cases failed
      | error spec =>
        rw [Place.enter_of_failing reads] at failed
        cases failed
        exact left _
    · refine yields_after fun _ l₁ => yields_after fun verdict l₂ => ?_
      cases verdict with
      | finished reply => exact Reply.outOf_outOf _ _
      | again attempt => exact trivial

theorem sendThrough_cons_ne_nothing {p : Place} {s : Setting} {call : Call} (budget : Nat)
    (inner : List Place) (l : Ledger) :
    (sendThrough s call budget (p :: inner) l).1 ≠ some .nothing := by
  have ends : (sendThrough s call budget (p :: inner)).Yields l fun sent _ =>
      ∀ reply, sent = some reply → reply ≠ .nothing := by
    refine sendThrough_endsIn (fun _ _ _ => Reply.noConfusion) (fun start made reply l => ?_)
      (fun _ _ _ _ => Reply.noConfusion) budget inner l
    refine Place.conclude_endsIn (A := fun _ _ => True)
      (fun reply some same => some (Reply.outOf_eq_nothing.mp same))
      (fun _ _ => Reply.noConfusion) (fun _ _ => Reply.noConfusion) (fun _ => trivial)
      fun attempt answer l _ => ?_
    rcases answer with e | ⟨decision, error⟩
    · exact Reply.noConfusion
    · cases decision with
      | abort => exact Reply.noConfusion
      | retry => exact trivial
      | ignore =>
        have settles : (Place.settle call attempt).Yields l fun reply _ => reply ≠ .nothing := by
          unfold Place.settle
          split
          · exact Reply.noConfusion
          · exact Reply.noConfusion
          · exact Reply.noConfusion
        exact yields_bind settles fun reply l' some => some
  exact fun same => ends .nothing same rfl

end HttpRetry
