import HttpRetry.Proofs.Change.Layer
import HttpRetry.Proofs.Stepwise
set_option autoImplicit false

namespace HttpRetry

open Work

def Layer.Caps (layer : Layer) (cap : Nat) : Prop :=
  ∃ policy, layer.retryer = .standard policy ∧ policy.cap ≤ cap

variable {p : Place} {call : Call} {l : Ledger} {cap : Nat}

theorem DefaultPolicy.count_lt_cap {policy : DefaultPolicy} {attempt : Attempt}
    (h : policy.decide attempt = .retry) : attempt.count < policy.cap := by
  unfold decide at h
  split at h
  · split at h
    · cases h
    · omega
  · cases h

def AsksAgain (answer : Except Failure (Decision × Option Failure)) : Prop :=
  ∃ error, answer = .ok (.retry, error)

namespace Place

theorem ask_capped (caps : p.layer.Caps cap) (attempt : Attempt) :
    (p.ask call attempt).Yields l fun answer _ => AsksAgain answer → attempt.count < cap := by
  obtain ⟨policy, standard, le⟩ := caps
  unfold ask
  rw [standard]
  refine yields_note ?_
  cases decided : policy.decide attempt with
  | abort =>
    refine yields_bind (P := fun _ _ => True) trivial fun _ _ _ => ?_
    refine yields_bind (P := fun _ _ => True) trivial fun id _ _ => yields_pure ?_
    rintro ⟨error, h⟩
    cases h
  | ignore =>
    refine yields_pure ?_
    rintro ⟨error, h⟩
    cases h
  | retry =>
    have lt := DefaultPolicy.count_lt_cap decided
    exact yields_pure fun _ => by omega

theorem weigh_capped (caps : p.layer.Caps cap) (start : Option Timestamp) (made : Nat)
    (reply : Reply) :
    (p.weigh call start made reply).Yields l fun weighed _ =>
      AsksAgain weighed.2 → made + 1 < cap := by
  refine yields_bind (P := fun _ _ => True) trivial fun _ l₁ _ => ?_
  have fits : (p.attemptOf call start made reply).Brings call (fun _ => True) .calm l₁
      (Fits call start made reply) := attemptOf_brings start made reply
  refine yields_bind (P := fun a _ => Fits call start made reply a) fits.2 fun attempt l₂ fits => ?_
  refine yields_bind (P := fun answer _ => AsksAgain answer → made + 1 < cap) ?_
    fun answer _ h => yields_pure h
  refine yields_bind (ask_capped caps attempt) fun answer l₃ h => ?_
  rw [fits.count] at h
  rcases answer with e | ⟨decision, error⟩
  · exact yields_pure h
  · refine yields_bind (P := fun _ _ => True) trivial fun _ _ _ => yields_note ?_
    refine yields_bind (P := fun _ _ => True) trivial fun _ _ _ => yields_pure ?_
    rintro ⟨error', same⟩
    cases same
    exact h ⟨error, rfl⟩

theorem resolve_again {attempt again : Attempt}
    {answer : Except Failure (Decision × Option Failure)}
    (h : (p.resolve call attempt answer l).1 = .again again) : AsksAgain answer := by
  rcases answer with e | ⟨decision, error⟩
  · cases h
  · cases decision with
    | ignore => cases h
    | abort => cases h
    | retry => exact ⟨error, rfl⟩

theorem follow_again {mode : Mode} {attempt again : Attempt}
    {answer : Except Failure (Decision × Option Failure)}
    (h : (p.follow mode call attempt answer l).1 = .again again) : AsksAgain answer := by
  cases passes : attempt.passes answer with
  | true =>
    rw [follow_of_passes passes] at h
    exact resolve_again h
  | false =>
    rw [follow_of_rejected passes] at h
    cases released : (p.release mode call attempt l).1 with
    | error e =>
      rw [released] at h
      cases h
    | ok u =>
      rw [released] at h
      exact resolve_again h

theorem conclude_capped (caps : p.layer.Caps cap) (s : Setting) (start : Option Timestamp)
    (made : Nat) {reply : Reply} {again : Attempt}
    (h : (p.conclude s call start made reply l).1 = .again again) :
    made + 1 < cap := by
  cases interrupt : reply.isInterrupt with
  | true =>
    cases reply with
    | raised e =>
      rw [conclude_interrupt s start made interrupt] at h
      cases h
    | response r => cases interrupt
    | nothing => cases interrupt
  | false =>
    rw [conclude_apply s start made interrupt, bind_apply] at h
    have capped : AsksAgain (p.weighed call start made reply l).1.2 → made + 1 < cap :=
      weigh_capped caps start made reply
    generalize p.weighed call start made reply l = weighed at h capped
    cases followed : p.follow s.mode call weighed.1.1 weighed.1.2 weighed.2 with
    | mk verdict l₁ =>
    rw [followed] at h
    cases verdict with
    | finished reply => cases h
    | again attempt => exact capped (follow_again (congrArg Prod.fst followed))

theorem rounds_ends (caps : p.layer.Caps cap) (s : Setting) (start : Option Timestamp) {next : Send}
    (sends : ∀ l, ∃ reply, (next l).1 = some reply) {budget made : Nat} (more : made < cap)
    (enough : cap ≤ budget + made) :
    ∃ reply, (p.rounds s call start next budget made l).1 = some reply := by
  induction budget generalizing made l with
  | zero => omega
  | succ budget ih =>
    cases handed : next (p.announce call made l).2 with
    | mk sent l₁ =>
    obtain ⟨reply, hr⟩ := sends (p.announce call made l).2
    rw [handed] at hr
    cases hr
    cases concluded : p.conclude s call start made reply l₁ with
    | mk verdict l₂ =>
    cases verdict with
    | finished ending =>
      rw [rounds_of_finished handed (congrArg Prod.fst concluded) budget]
      exact ⟨ending, rfl⟩
    | again attempt =>
      have lt := conclude_capped caps s start made (congrArg Prod.fst concluded)
      rw [rounds_of_again s start budget handed concluded]
      cases (p.waitBlocking s call attempt l₂).1 with
      | error e => exact ⟨.raised e, rfl⟩
      | ok u => exact ih lt (by omega)

end Place

theorem sendThrough_ends (s : Setting) {budget : Nat} {places : List Place}
    (caps : ∀ p ∈ places, p.layer.Caps budget) :
    ∃ reply, (sendThrough s call budget places l).1 = some reply := by
  induction places generalizing l with
  | nil => exact ⟨_, rfl⟩
  | cons p inner ih =>
    obtain ⟨first, rest⟩ := List.forall_mem_cons.mp caps
    rw [sendThrough, bind_apply]
    cases (p.enter s.mode call l).1 with
    | error e => exact ⟨_, rfl⟩
    | ok start =>
      obtain ⟨policy, standard, le⟩ := first
      have one := policy.one_le_cap
      exact Place.rounds_ends ⟨policy, standard, le⟩ s start (fun l => ih rest) (by omega)
        (by omega)

end HttpRetry
