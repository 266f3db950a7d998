import HttpRetry.Proofs.Mirror
import HttpRetry.Proofs.Patience
set_option autoImplicit false

namespace HttpRetry

open Work

theorem Event.isShown_timeless (e : Event) : e.timeless.isShown = e.isShown := by
  cases e <;> rfl

/-- What a call did, in order, without the times. -/
def Ledger.course (l : Ledger) (call : Nat) : List Event :=
  ((l.eventsOf call).filter Event.isShown).map Event.timeless

/-- Two ledgers in which a call has the same responses, and its failures have the same causes. -/
structure SameFor (call : Nat) (l l' : Ledger) : Prop where
  responses : ∀ serial, l.response? ⟨call, serial⟩ = l'.response? ⟨call, serial⟩
  causes : ∀ id : FailureId, (∀ other, id.maker? = some other → other = call) →
    (l.cause? id).map Failure.timeless = (l'.cause? id).map Failure.timeless

/-- A call has come to the same in two runs, but for the times. -/
structure SameRun (call : Nat) (stage stage' : Stage) (l l' : Ledger) : Prop where
  stage : stage.timeless = stage'.timeless
  course : l.course call = l'.course call
  sameFor : SameFor call l l'

namespace Mirrored

variable {call : Nat} {l l' : Ledger}

theorem course_eq (h : Mirrored call l l') : l'.course call = l.course call := by
  have shown (m : Ledger) :
      m.course call = ((m.eventsOf call).map Event.timeless).filter Event.isShown := by
    rw [List.filter_map, Ledger.course]
    congr 1
    exact List.filter_congr fun e _ => e.isShown_timeless.symm
  rw [shown, shown, h.events]

theorem sameRun (h : Mirrored call l l') {stage stage' : Stage}
    (stages : stage'.timeless = stage.timeless) : SameRun call stage stage' l l' :=
  ⟨stages.symm, h.course_eq.symm, fun serial => (h.response serial).symm,
    fun id own => (h.cause id own).symm⟩

end Mirrored

/-- A call that is by itself, begun and then resumed, so many times in all. -/
def alone (s : Setting) (places : List Place) (call : Call) : Nat → Stage × Ledger
  | 0 => (.waiting, {})
  | n + 1 =>
    Task.advance s places ⟨call, none, (alone s places call n).1⟩ (alone s places call n).2

section
variable {s : Setting} {places : List Place} {call : Call}

theorem alone_ended {n k : Nat} {reply : Reply} (ended : (alone s places call n).1 = .ended reply)
    (le : n ≤ k) : alone s places call k = alone s places call n := by
  induction le with
  | refl => rfl
  | @step k le ih =>
    show Task.advance s places ⟨call, none, (alone s places call k).1⟩ (alone s places call k).2 = _
    rw [ih, Task.advance_ended ended]
    exact Prod.ext ended.symm rfl

theorem alone_brings (own : call.IsPrivate) (n : Nat) :
    (alone s places call n).1.Within (fun id => id.call = call.id) ∧
      Changes call (fun id => id.call = call.id) (.round true) (alone s places call n).2
        (alone s places call (n + 1)).2 := by
  have brings {n : Nat} (within : (alone s places call n).1.Within fun id => id.call = call.id) :
      (Task.advance s places ⟨call, none, (alone s places call n).1⟩).Brings call
        (fun id => id.call = call.id) (.round true) (alone s places call n).2 _ :=
    Task.advance_brings own.confined within s places
  have within : (alone s places call n).1.Within fun id => id.call = call.id := by
    induction n with
    | zero => trivial
    | succ n ih => exact (brings ih).2
  exact ⟨within, (brings within).1⟩

theorem alone_course (own : call.IsPrivate) {n k : Nat} (le : n ≤ k) :
    (alone s places call n).2.course call.id <+: (alone s places call k).2.course call.id := by
  induction le with
  | refl => exact List.prefix_rfl
  | @step k le ih =>
    have later : (alone s places call k).2.trace <+: (alone s places call (k + 1)).2.trace :=
      (alone_brings own k).2.trace_isPrefix
    exact ih.trans (((later.filter _).filter _).map _)

/-- Nothing that a call does comes after its end. -/
theorem alone_course_ended (own : call.IsPrivate) {n : Nat} {reply : Reply}
    (ended : (alone s places call n).1 = .ended reply) (k : Nat) :
    (alone s places call k).2.course call.id <+: (alone s places call n).2.course call.id := by
  rcases Nat.le_total k n with le | le
  · exact alone_course own le
  · simp only [alone_ended ended le, List.prefix_rfl]

theorem alone_served {layers : List Layer} (own : call.IsPrivate) {n : Nat} {reply : Reply}
    (ended : (alone s places call n).1 = .ended reply)
    (served : (alone s places call n).2.Serves layers call.id) (k : Nat) :
    (alone s places call k).2.Serves layers call.id := by
  rcases Nat.le_total k n with le | le
  · clear ended
    induction le with
    | refl => exact served
    | @step n le ih => exact ih (Ledger.serves_of_changes (alone_brings own n).2 served)
  · rw [alone_ended ended le]
    exact served

theorem alone_of_drive {fuel n : Nat} {progress : Progress} {reply : Reply} {l l' : Ledger}
    (at_ : alone s places call n = (progress.stage, l))
    (h : Suspended.drive s call fuel progress l = (some reply, l')) :
    ∃ n, alone s places call n = (.ended reply, l') := by
  induction fuel generalizing n progress l with
  | zero =>
    cases progress with
    | suspended point => cases h
    | finished ending =>
      cases h
      exact ⟨n, at_⟩
  | succ fuel ih =>
    cases progress with
    | suspended point =>
      refine ih (n := n + 1) ?_ h
      show Task.advance s places ⟨call, none, (alone s places call n).1⟩
        (alone s places call n).2 = _
      rw [at_]
      rfl
    | finished ending =>
      cases h
      exact ⟨n, at_⟩

theorem alone_of_sendStepwise {fuel : Nat} {reply : Reply} {l' : Ledger}
    (h : sendStepwise s call fuel places {} = (some reply, l')) :
    ∃ n, alone s places call n = (.ended reply, l') :=
  alone_of_drive (n := 1) rfl h

theorem exists_caps (standard : ∀ p ∈ places, ∃ policy, p.layer.retryer = .standard policy) :
    ∃ budget, ∀ p ∈ places, p.layer.Caps budget := by
  induction places with
  | nil => exact ⟨0, fun _ h => absurd h List.not_mem_nil⟩
  | cons p inner ih =>
    obtain ⟨⟨policy, first⟩, rest⟩ := List.forall_mem_cons.mp standard
    obtain ⟨budget, caps⟩ := ih rest
    refine ⟨max policy.cap budget,
      List.forall_mem_cons.mpr ⟨⟨policy, first, Nat.le_max_left _ _⟩, ?_⟩⟩
    intro q hq
    obtain ⟨policy', hq, le⟩ := caps q hq
    exact ⟨policy', hq, Nat.le_trans le (Nat.le_max_right _ _)⟩

/-- Default retryers let every call end. -/
theorem alone_ends (standard : ∀ p ∈ places, ∃ policy, p.layer.retryer = .standard policy) :
    ∃ n reply, (alone s places call n).1 = .ended reply := by
  obtain ⟨budget, caps⟩ := exists_caps standard
  have sent : ∃ reply, (sendThrough s call budget places {}).1 = some reply := sendThrough_ends _ caps
  obtain ⟨reply, h⟩ := sent
  have ends := sendStepwise_eq_sendThrough (Prod.ext h rfl) (Nat.le_refl _)
  obtain ⟨n, h⟩ := alone_of_sendStepwise ends
  exact ⟨n, reply, congrArg Prod.fst h⟩

end

end HttpRetry
