import HttpRetry.Proofs.Round
set_option autoImplicit false

namespace HttpRetry

open Work

def afterWait {α : Type} (failed : Failure → Work α) (done : Work α) : Except Failure Unit → Work α
  | .error e => failed e
  | .ok () => done

variable {p : Place} {call : Call} {s : Setting} {start : Option Timestamp} {made : Nat} {l : Ledger}

namespace Place

theorem waitBlocking_none (h : p.layer.delay = none) (attempt : Attempt) :
    p.waitBlocking s call attempt l = (.ok (), l) := by
  unfold waitBlocking
  rw [h]
  rfl

theorem waitBlocking_some {delay : Delayer} (h : p.layer.delay = some delay) {attempt : Attempt}
    {l₁ l₂ : Ledger} {result : Except Failure Unit}
    (reported : (p.report call (.delaying attempt.count) l).2 = l₁)
    (worked : p.delayWork s.mode delay call attempt l₁ = (result, l₂)) :
    p.waitBlocking s call attempt l =
      afterWait (fun e => (pure (.error e) : Work (Except Failure Unit)))
        (do p.delayDone s.timer call attempt l₁.now; return .ok ()) result l₂ := by
  unfold waitBlocking
  rw [h]
  simp only
  rw [bind_apply, get_apply, bind_apply, reported, worked]
  cases result with
  | error e => rfl
  | ok u => rfl

theorem rounds_of_again (s : Setting) (start : Option Timestamp) (budget : Nat) {next : Send}
    {reply : Reply} {l₁ : Ledger} (handed : next (p.announce call made l).2 = (some reply, l₁))
    {attempt : Attempt} {l₂ : Ledger}
    (again : p.conclude s call start made reply l₁ = (.again attempt, l₂)) :
    p.rounds s call start next (budget + 1) made l =
      afterWait (fun e => pure (some (.raised e))) (p.rounds s call start next budget (made + 1))
        (p.waitBlocking s call attempt l₂).1 (p.waitBlocking s call attempt l₂).2 := by
  rw [rounds, bind_apply, bind_apply, handed]
  simp only
  rw [bind_apply, again]
  simp only
  rw [bind_apply]
  cases (p.waitBlocking s call attempt l₂).1 with
  | error e => rfl
  | ok u => rfl

end Place

theorem sendThrough_cons {l₁ : Ledger} (entered : p.enter s.mode call l = (.ok start, l₁))
    (budget : Nat) (inner : List Place) :
    sendThrough s call budget (p :: inner) l =
      p.rounds s call start (sendThrough s call budget inner) budget 0 l₁ := by
  rw [sendThrough, bind_apply, entered]

theorem sendThrough_refused {l₁ : Ledger} {e : Failure}
    (entered : p.enter s.mode call l = (.error e, l₁)) {budget : Nat} {inner : List Place} :
    sendThrough s call budget (p :: inner) l = (some (.raised e), l₁) := by
  rw [sendThrough, bind_apply, entered]
  rfl

namespace Suspended

theorem drive_finished (fuel : Nat) (reply : Reply) :
    drive s call fuel (.finished reply) l = (some reply, l) := by
  cases fuel with
  | zero => rfl
  | succ fuel => rfl

variable {outer : List Frame} {inner : List Place}

theorem drive_wait (s : Setting) (call : Call) (p : Place) (start : Option Timestamp) (made : Nat)
    (inner : List Place) (attempt : Attempt) (l : Ledger) :
    ∃ used, 1 ≤ used ∧ used ≤ 2 ∧ ∀ outer fuel,
      (wait call ⟨p, start, made⟩ outer inner attempt >>= drive s call (fuel + used)) l =
        afterWait
          (fun e => deliver s call outer (p :: inner) (.raised e) >>= drive s call fuel)
          (do
            p.announce call (made + 1)
            drive s call fuel (← descend s call (⟨p, start, made + 1⟩ :: outer) inner))
          (p.waitBlocking s call attempt l).1 (p.waitBlocking s call attempt l).2 := by
  cases hd : p.layer.delay with
  | none =>
    refine ⟨1, Nat.le_refl 1, by omega, fun outer fuel => ?_⟩
    rw [Place.waitBlocking_none hd]
    unfold wait
    rw [hd]
    rfl
  | some delay =>
    generalize hl : (p.report call (.delaying attempt.count) l).2 = l₁
    generalize hw : p.delayWork s.mode delay call attempt l₁ = worked
    obtain ⟨result, l₂⟩ := worked
    have waits : ∀ outer fuel,
        (wait call ⟨p, start, made⟩ outer inner attempt >>= drive s call (fuel + 1)) l =
          (resume s call (.beforeDelay delay attempt l₁.now ⟨p, start, made⟩ outer inner) >>=
            drive s call fuel) l₁ := by
      intro outer fuel
      unfold wait
      rw [hd, ← hl]
      rfl
    have blocking := Place.waitBlocking_some hd hl hw
    cases result with
    | error e =>
      refine ⟨1, Nat.le_refl 1, by omega, fun outer fuel => ?_⟩
      rw [waits, blocking, bind_apply, resume, bind_apply, hw]
      rfl
    | ok u =>
      refine ⟨2, by omega, Nat.le_refl 2, fun outer fuel => ?_⟩
      rw [waits outer (fuel + 1), blocking, bind_apply, resume, bind_apply, hw]
      rfl

theorem drive_wait_zero (f : Frame) (attempt : Attempt) :
    ((wait call f outer inner attempt >>= drive s call 0) l).1 = none := by
  unfold wait
  cases f.place.layer.delay with
  | none => rfl
  | some delay => rfl

/-- The number of times that a call through layers goes on at most, with so many rounds for each entry
into a layer. -/
def stepsAllowed (budget : Nat) : (layers : Nat) → Nat
  | 0 => 1
  | layers + 1 => budget * (stepsAllowed budget layers + 2)

/-- Step by step, `inner` does what `next` does while its caller waits. -/
def Follows (s : Setting) (call : Call) (inner : List Place) (next : Send) (bound : Nat) : Prop :=
  ∀ l l' reply, next l = (some reply, l') → ∃ used, used ≤ bound ∧ ∀ frames fuel,
    (descend s call frames inner >>= drive s call (fuel + used)) l =
      (deliver s call frames inner reply >>= drive s call fuel) l'

theorem drive_rounds {next : Send} {bound : Nat} (follows : Follows s call inner next bound)
    (budget : Nat) {reply : Reply} {l' : Ledger}
    (h : p.rounds s call start next budget made l = (some reply, l')) :
    ∃ used, used ≤ budget * (bound + 2) ∧ ∀ outer fuel,
      (descend s call (⟨p, start, made⟩ :: outer) inner >>=
        drive s call (fuel + used))
          (p.announce call made l).2 =
        (deliver s call outer (p :: inner) reply >>= drive s call fuel) l' := by
  induction budget generalizing made l with
  | zero => cases h
  | succ budget ih =>
    cases handed : next (p.announce call made l).2 with
    | mk sent l₁ =>
    cases sent with
    | none =>
      rw [Place.rounds, bind_apply, bind_apply, handed] at h
      cases h
    | some sent =>
      obtain ⟨used, few, begins⟩ := follows _ _ _ handed
      cases concluded : p.conclude s call start made sent l₁ with
      | mk verdict l₂ =>
      cases verdict with
      | finished ending =>
        have ends := congrArg Prod.fst concluded
        rw [Place.rounds_of_finished handed ends budget, concluded] at h
        cases h
        refine ⟨used, by rw [Nat.succ_mul]; omega, fun outer fuel => ?_⟩
        have delivered := deliver_of_finished (f := ⟨p, start, made⟩) ends outer inner
        rw [begins, bind_apply, delivered, concluded, bind_apply]
      | again attempt =>
        obtain ⟨waited, -, brief, waits⟩ := drive_wait s call p start made inner attempt l₂
        have goes : ∀ outer fuel,
            (descend s call (⟨p, start, made⟩ :: outer) inner >>=
              drive s call (fuel + waited + used)) (p.announce call made l).2 =
            (wait call ⟨p, start, made⟩ outer inner attempt >>=
              drive s call (fuel + waited)) l₂ := by
          intro outer fuel
          have delivered := deliver_of_again (f := ⟨p, start, made⟩) concluded outer inner
          rw [begins, bind_apply, delivered, bind_apply]
        rw [Place.rounds_of_again _ _ _ handed concluded] at h
        cases ended : p.waitBlocking s call attempt l₂ with
        | mk result l₃ =>
        rw [ended] at h waits
        cases result with
        | error e =>
          cases h
          refine ⟨waited + used, by rw [Nat.succ_mul]; omega, fun outer fuel => ?_⟩
          rw [← Nat.add_assoc, goes outer fuel]
          exact waits outer fuel
        | ok u =>
          obtain ⟨more, fewer, continues⟩ := ih h
          refine ⟨more + waited + used, by rw [Nat.succ_mul]; omega, fun outer fuel => ?_⟩
          rw [← Nat.add_assoc, ← Nat.add_assoc, goes outer (fuel + more)]
          exact (waits outer (fuel + more)).trans (continues outer fuel)

theorem descend_entered {l₁ : Ledger} (entered : p.enter s.mode call l = (.ok start, l₁))
    (frames : List Frame) :
    descend s call frames (p :: inner) l = descend s call (⟨p, start, 0⟩ :: frames) inner l₁ := by
  rw [descend, bind_apply, entered]

theorem descend_refused {l₁ : Ledger} {e : Failure}
    (entered : p.enter s.mode call l = (.error e, l₁)) (frames : List Frame) :
    descend s call frames (p :: inner) l = deliver s call frames (p :: inner) (.raised e) l₁ := by
  rw [descend, bind_apply, entered]

theorem descend_follows (budget : Nat) (places : List Place) :
    Follows s call places (sendThrough s call budget places)
      (stepsAllowed budget places.length) := by
  induction places with
  | nil =>
    intro l l' reply h
    refine ⟨1, Nat.le_refl 1, fun frames fuel => ?_⟩
    cases h
    rfl
  | cons p inner ih =>
    intro l l' reply h
    cases entered : p.enter s.mode call l with
    | mk result l₁ =>
    cases result with
    | error e =>
      refine ⟨0, Nat.zero_le _, fun frames fuel => ?_⟩
      rw [sendThrough_refused entered] at h
      cases h
      rw [bind_apply, descend_refused entered, bind_apply]
      rfl
    | ok start =>
      rw [sendThrough_cons entered budget inner] at h
      obtain ⟨used, few, drives⟩ := drive_rounds ih budget h
      refine ⟨used, few, fun frames fuel => ?_⟩
      rw [← drives frames fuel, bind_apply, descend_entered entered]
      rfl

end Suspended

/-- What comes to an end while the caller waits comes to the same end step by step. -/
theorem sendStepwise_eq_sendThrough {s : Setting} {budget : Nat} {places : List Place}
    {reply : Reply} {l' : Ledger} (h : sendThrough s call budget places l = (some reply, l'))
    {fuel : Nat} (enough : Suspended.stepsAllowed budget places.length ≤ fuel) :
    sendStepwise s call fuel places l = (some reply, l') := by
  obtain ⟨used, few, drives⟩ := Suspended.descend_follows budget places l l' reply h
  obtain ⟨rest, rfl⟩ : ∃ rest, fuel = rest + used := ⟨fuel - used, by omega⟩
  exact (drives [] rest).trans (Suspended.drive_finished rest reply)

end HttpRetry
