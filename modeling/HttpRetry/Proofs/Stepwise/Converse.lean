import HttpRetry.Schedule
import HttpRetry.Proofs.Stepwise
set_option autoImplicit false

namespace HttpRetry

open Work

variable {p : Place} {call : Call} {s : Setting} {start : Option Timestamp}
  {l l' : Ledger} {ending : Reply}

/-- One send comes to an end wherever another does, and to the same. -/
def Send.Within (next next' : Send) : Prop :=
  ∀ l l' reply, next l = (some reply, l') → next' l = (some reply, l')

theorem Place.rounds_more {s : Setting} {next next' : Send} (within : next.Within next')
    {budget budget' made : Nat} (le : budget ≤ budget')
    (h : p.rounds s call start next budget made l = (some ending, l')) :
    p.rounds s call start next' budget' made l = (some ending, l') := by
  induction budget generalizing budget' made l with
  | zero => cases h
  | succ budget ih =>
    obtain ⟨budget', rfl⟩ : ∃ n, budget' = n + 1 := ⟨budget' - 1, by omega⟩
    cases handed : next (p.announce call made l).2 with
    | mk sent l₁ =>
    cases sent with
    | none =>
      rw [rounds, bind_apply, bind_apply, handed] at h
      cases h
    | some sent =>
      have handed' := within _ _ _ handed
      cases concluded : p.conclude s call start made sent l₁ with
      | mk verdict l₂ =>
      cases verdict with
      | finished reply =>
        have ends := congrArg Prod.fst concluded
        rw [rounds_of_finished handed ends budget] at h
        rw [rounds_of_finished handed' ends budget', h]
      | again attempt =>
        rw [rounds_of_again s _ _ handed concluded] at h
        rw [rounds_of_again s _ _ handed' concluded]
        cases waited : p.waitBlocking s call attempt l₂ with
        | mk result l₃ =>
        rw [waited] at h
        cases result with
        | error e => exact h
        | ok u => exact ih (by omega) h

theorem sendThrough_more (s : Setting) {budget budget' : Nat} (le : budget ≤ budget')
    (places : List Place) :
    Send.Within (sendThrough s call budget places) (sendThrough s call budget' places) := by
  induction places with
  | nil => exact fun _ _ _ h => h
  | cons p inner ih =>
    intro l l' reply h
    rw [sendThrough, bind_apply] at h ⊢
    cases entered : (p.enter s.mode call l).1 with
    | error e =>
      rw [entered] at h
      exact h
    | ok start =>
      rw [entered] at h
      exact Place.rounds_more ih le h

namespace Suspended

variable {outer : List Frame} {inner : List Place}

theorem drive_more {fuel fuel' : Nat} (le : fuel ≤ fuel') {progress : Progress}
    (h : drive s call fuel progress l = (some ending, l')) :
    drive s call fuel' progress l = (some ending, l') := by
  induction fuel generalizing fuel' progress l with
  | zero =>
    cases progress with
    | suspended point => cases h
    | finished reply =>
      rw [drive_finished] at h ⊢
      exact h
  | succ fuel ih =>
    obtain ⟨fuel', rfl⟩ : ∃ n, fuel' = n + 1 := ⟨fuel' - 1, by omega⟩
    cases progress with
    | suspended point =>
      rw [drive, bind_apply] at h ⊢
      exact ih (by omega) h
    | finished reply => exact h

def Ends (s : Setting) (call : Call) (frames : List Frame) (inner : List Place)
    (send : Nat → Send) (fuel : Nat) (ending : Reply) (l l' : Ledger) : Prop :=
  ∃ budget reply l₁ left, send budget l = (some reply, l₁) ∧ left ≤ fuel ∧
    (deliver s call frames inner reply >>= drive s call left) l₁ = (some ending, l')

theorem rounds_end (p : Place) (start : Option Timestamp) (made : Nat)
    (below : ∀ {frames fuel l}, (descend s call frames inner >>=
        drive s call fuel) l = (some ending, l') →
      Ends s call frames inner
        (fun budget => sendThrough s call budget inner) fuel ending l l')
    {fuel : Nat} (h : (descend s call (⟨p, start, made⟩ :: outer) inner >>=
      drive s call fuel) (p.announce call made l).2 = (some ending, l')) :
    Ends s call outer (p :: inner)
      (fun budget => p.rounds s call start
        (sendThrough s call budget inner) budget made) fuel ending l l' := by
  induction fuel using Nat.strongRecOn generalizing made l with
  | ind fuel ih =>
  obtain ⟨budget, sent, l₁, left, handed, spent, delivers⟩ := below h
  have sends (more : Nat) : sendThrough s call (budget + more) inner
      (p.announce call made l).2 = (some sent, l₁) :=
    sendThrough_more _ (Nat.le_add_right budget more) inner _ _ _ handed
  cases concluded : p.conclude s call start made sent l₁ with
  | mk verdict l₂ =>
  cases verdict with
  | finished reply =>
    have ends := congrArg Prod.fst concluded
    rw [bind_apply, deliver_of_finished (f := ⟨p, start, made⟩) ends, concluded] at delivers
    refine ⟨budget + 1, reply, l₂, left, ?_, spent, delivers⟩
    simp only
    rw [Place.rounds_of_finished (sends 1) ends budget, concluded]
  | again attempt =>
    rw [bind_apply, deliver_of_again (f := ⟨p, start, made⟩) concluded] at delivers
    obtain ⟨left, rfl⟩ : ∃ n, left = n + 1 := by
      cases left with
      | zero =>
        have none : ((wait call ⟨p, start, made⟩ outer inner attempt >>= drive s call 0) l₂).1 = none :=
          drive_wait_zero ⟨p, start, made⟩ attempt
        rw [bind_apply, delivers] at none
        cases none
      | succ n => exact ⟨n, rfl⟩
    obtain ⟨used, some, -, waits⟩ := drive_wait s call p start made inner attempt l₂
    have enough : left + 1 ≤ left + used := by omega
    have waited := (waits outer left).symm.trans (drive_more enough delivers)
    have again (more : Nat) := Place.rounds_of_again s start
      (budget + more) (sends (more + 1)) concluded
    cases ended : p.waitBlocking s call attempt l₂ with
    | mk result l₃ =>
    rw [ended] at waited again
    cases result with
    | error e => exact ⟨budget + 1, .raised e, l₃, left, again 0, by omega, waited⟩
    | ok u =>
      obtain ⟨budget', reply, l₄, left', goes, spent', delivers'⟩ :=
        ih left (by omega) (made + 1) waited
      refine ⟨budget + budget' + 1, reply, l₄, left', ?_, by omega, delivers'⟩
      refine (again budget').trans (Place.rounds_more ?_ (Nat.le_add_left budget' budget) goes)
      exact sendThrough_more _ (by omega) inner

theorem descend_ends (places : List Place) {frames : List Frame} {fuel : Nat}
    (h : (descend s call frames places >>= drive s call fuel) l =
      (some ending, l')) :
    Ends s call frames places
      (fun budget => sendThrough s call budget places) fuel ending l l' := by
  induction places generalizing frames fuel l with
  | nil =>
    cases fuel with
    | zero => cases h
    | succ fuel => exact ⟨0, _, _, fuel, rfl, Nat.le_succ fuel, h⟩
  | cons p inner ih =>
    cases entered : p.enter s.mode call l with
    | mk result l₁ =>
    cases result with
    | error e =>
      refine ⟨0, .raised e, l₁, fuel, sendThrough_refused entered, Nat.le_refl fuel, ?_⟩
      rwa [bind_apply, descend_refused entered] at h
    | ok start =>
      rw [bind_apply, descend_entered entered] at h
      obtain ⟨budget, reply, l₂, left, goes, spent, delivers⟩ :=
        rounds_end p start 0 (l := l₁) ih h
      exact ⟨budget, reply, l₂, left, (sendThrough_cons entered budget inner).trans goes,
        spent, delivers⟩

end Suspended

/-- What comes to an end step by step comes to the same end while the caller waits. -/
theorem sendThrough_of_sendStepwise {s : Setting} {fuel : Nat} {places : List Place}
    (h : sendStepwise s call fuel places l = (some ending, l')) :
    ∃ budget, sendThrough s call budget places l = (some ending, l') := by
  obtain ⟨budget, reply, l₁, left, sends, -, delivers⟩ := Suspended.descend_ends places h
  have ended : (some reply, l₁) = (some ending, l') :=
    (Suspended.drive_finished left reply).symm.trans delivers
  exact ⟨budget, sends.trans ended⟩

/-- What a call comes to in the way of its mode, it comes to while its caller waits. -/
theorem Setting.sendThrough_of_send {s : Setting} {places : List Place} {budget : Nat}
    {call : Call} {reply : Reply} {l l' : Ledger}
    (h : s.send places budget call l = (some reply, l')) :
    ∃ budget, sendThrough s call budget places l = (some reply, l') := by
  unfold Setting.send at h
  cases mode : s.mode with
  | blocking =>
    rw [mode] at h
    exact ⟨budget, h⟩
  | suspending =>
    rw [mode] at h
    exact sendThrough_of_sendStepwise h

theorem Setting.send_of_sendThrough {s : Setting} {places : List Place} {budget : Nat}
    {call : Call} {reply : Reply} {l l' : Ledger}
    (h : sendThrough s call budget places l = (some reply, l')) :
    ∃ budget, s.send places budget call l = (some reply, l') := by
  unfold Setting.send
  cases s.mode with
  | blocking => exact ⟨budget, h⟩
  | suspending => exact ⟨_, sendStepwise_eq_sendThrough h (Nat.le_refl _)⟩

end HttpRetry
