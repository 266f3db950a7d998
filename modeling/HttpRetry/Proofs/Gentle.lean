import HttpRetry.Proofs.Stirred
set_option autoImplicit false

namespace HttpRetry

namespace Work

variable {mode : Mode} {call : Call} {l : Ledger}

theorem perform_notInterrupt (hc : call.Streams Stream.Gentle) (hl : l.Streams Stream.Gentle)
    {n : Nat} (hr : ∀ spec, (call.feed n).act = .raise spec → spec.kind.isInterrupt = false) :
    (perform mode call.id (call.feed n).act).Yields l fun reply _ => reply.isInterrupt = false := by
  cases h : (call.feed n).act with
  | raise spec => exact (congrArg _ (spec.kind_failure _)).trans (hr spec h)
  | nothing => rfl
  | again index =>
    refine yields_get ?_
    split
    · rfl
    · rfl
  | repeated serial =>
    refine yields_get ?_
    split
    · rfl
    · rfl
  | respondText status text => rfl
  | respond status stream how =>
    have built : Changes call (fun _ => True) .calm l (l.build call.id (.ofStream status stream)) :=
      .single (.build ⟨n, .inr ⟨status, stream, how, h, rfl⟩⟩)
    have added : (addResponse call.id (.ofStream status stream)).Yields l fun _ l' =>
        l'.Streams Stream.Gentle := built.streams hc hl
    refine yields_bind added fun id l' hl' => ?_
    refine yields_bind (prepare_stirs (fun _ : True => hl' id) how) fun result _ prepared => ?_
    split
    · rfl
    · rename_i e
      have swallowed := prepared.1 trivial e rfl
      cases hi : e.isInterrupt with
      | false => exact hi
      | true =>
        have kept := FailureKind.isSwallowed_eq_false_of_isInterrupt hi
        exact absurd swallowed (by simp [Failure.isSwallowed, kept])

end Work

namespace Place

open Work

variable {p : Place} {mode : Mode} {call : Call} {l : Ledger}

theorem release_ok (hl : l.Streams Stream.Gentle) (limited : p.layer.limitFailure? = none)
    (attempt : Attempt) : (p.release mode call attempt l).1 = .ok () := by
  cases hr : attempt.response with
  | none =>
    unfold release
    rw [hr]
    rfl
  | some r =>
    have gentle : (l.note (.releasing call.id p.index r.id)).GentleAt r.id := hl r.id
    rw [release_of_some hr, tolerate_fst]
    exact ((discard_stirs (fun _ : True => limited) fun _ => gentle).1 trivial).tolerated

end Place

end HttpRetry
