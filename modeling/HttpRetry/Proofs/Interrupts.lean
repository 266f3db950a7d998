import HttpRetry.Proofs.Change.Layer
import HttpRetry.Proofs.Round
set_option autoImplicit false

namespace HttpRetry

open Work

section
variable {p : Place} {call : Call} {mode : Mode} {l : Ledger} {e : Failure}

theorem Failure.not_isSwallowed_of_isInterrupt (interrupt : e.isInterrupt = true) :
    e.isSwallowed = false := FailureKind.isSwallowed_eq_false_of_isInterrupt interrupt

/-- The ledger after an interrupt has passed through layers that wait for others. -/
def Ledger.passed (call : Call) (e : Failure) : List Frame → Ledger → Ledger
  | [], l => l
  | f :: outer, l => passed call e outer
    ((l.note (.received call.id f.place.index (.raised e))).note
      (.left call.id f.place.index (.raised e)))

theorem Suspended.deliver_interrupt (s : Setting) (frames : List Frame) (inner : List Place)
    (interrupt : e.isInterrupt = true) :
    Suspended.deliver s call frames inner (.raised e) l =
      (.finished (.raised e), l.passed call e frames) := by
  induction frames generalizing inner l with
  | nil => rfl
  | cons f outer ih =>
    unfold Suspended.deliver
    rw [bind_apply, Place.conclude_interrupt _ _ _ interrupt]
    exact ih (f.place :: inner)

theorem Suspended.deliver_interrupted {s : Setting} {start : Option Timestamp} {made : Nat}
    {reply : Reply} (interrupt : e.isInterrupt = true)
    (ended : (p.conclude s call start made reply l).1 = .finished (.raised e)) (outer : List Frame)
    (inner : List Place) :
    Suspended.deliver s call (⟨p, start, made⟩ :: outer) inner reply l =
      (.finished (.raised e), (p.conclude s call start made reply l).2.passed call e outer) := by
  have delivered := Suspended.deliver_of_finished (f := ⟨p, start, made⟩) ended outer inner
  rw [delivered]
  exact Suspended.deliver_interrupt s outer (p :: inner) interrupt

theorem Reply.outOf_eq_interrupt (routine : Routine) {reply : Reply} (interrupt : e.isInterrupt = true) :
    reply.outOf routine = .raised e ↔ reply = .raised e := by
  cases reply with
  | response r => simp [Reply.outOf]
  | nothing => simp [Reply.outOf]
  | raised e' =>
    simp only [Reply.outOf, Reply.raised.injEq]
    constructor
    · intro left
      have still : e'.isInterrupt = true := by
        rw [← Failure.isInterrupt_outOf routine, left]
        exact interrupt
      rwa [Failure.outOf_of_isInterrupt routine still] at left
    · rintro rfl
      exact Failure.outOf_of_isInterrupt routine interrupt

namespace Place

/-- An interrupt leaves the release exactly if the response's close raises it, or reading raises it
and the close succeeds. -/
theorem release_interrupt {attempt : Attempt} {r : ResponseRef} (hr : attempt.response = some r)
    (interrupt : e.isInterrupt = true) :
    let drained := p.drain mode call r (l.note (.releasing call.id p.index r.id))
    let closed := close mode call.id r.id drained.2
    (p.release mode call attempt l).1 = .error e ↔
      closed.1 = .error e ∨ drained.1 = .error e ∧ closed.1 = .ok () := by
  intro drained closed
  rw [release_of_some hr, tolerate_fst,
    tolerated_eq_error (Failure.not_isSwallowed_of_isInterrupt interrupt), discard_apply]
  exact discarded_eq_error

/-- An interrupt that leaves the release ends the round, and nothing is reported. -/
theorem follow_interrupt {attempt : Attempt} {answer : Except Failure (Decision × Option Failure)}
    {r : ResponseRef} (hr : attempt.response = some r) (rejected : attempt.passes answer = false)
    (interrupt : e.isInterrupt = true) (released : (p.release mode call attempt l).1 = .error e) :
    let drained := p.drain mode call r (l.note (.releasing call.id p.index r.id))
    p.follow mode call attempt answer l =
      (.finished (.raised e), (close mode call.id r.id drained.2).2) := by
  intro drained
  have kept := Failure.not_isSwallowed_of_isInterrupt interrupt
  rw [follow_of_rejected rejected, released]
  rw [release_of_some hr, tolerate_fst, tolerated_eq_error kept] at released
  rw [release_of_some hr, released]
  refine Prod.ext rfl ?_
  show (p.tolerate call attempt (.error e) _).2 = _
  rw [tolerate_snd kept, discard_apply]

theorem follow_raised {attempt : Attempt} :
    (p.follow mode call attempt (.error e) l).1 = .finished (.raised e) ↔
      (p.release mode call attempt l).1 = .ok () ∨
        (p.release mode call attempt l).1 = .error e := by
  rw [follow_of_rejected rfl]
  cases (p.release mode call attempt l).1 with
  | ok u => simp [resolve, pure_apply]
  | error e' => simp

end Place

end

/-- An interrupt raised while a layer handles a response that it does not hand on, by the retryer or
while the response is read or closed. The first three parts say exactly when it is the result of the
round: what a close raises always is; what reading raises is if the close then succeeds or raises
the same; what the retryer raises is if the release comes to nothing else. The last two say that it
then ends the call: the layer's loop is left, and all layers further out only hand the interrupt on.
-/
theorem interrupts_end_call (p : Place) (s : Setting) (call : Call) (start : Option Timestamp)
    (made : Nat) (r : ResponseRef) (l : Ledger) (e : Failure) (interrupt : e.isInterrupt = true)
    (rejected : (p.weighed call start made (.response r) l).1.1.passes
      (p.weighed call start made (.response r) l).1.2 = false) :
    let weighed := p.weighed call start made (.response r) l
    let released := p.release s.mode call weighed.1.1 weighed.2
    let drained := p.drain s.mode call r (weighed.2.note (.releasing call.id p.index r.id))
    let closed := close s.mode call.id r.id drained.2
    let concluded := p.conclude s call start made (.response r) l
    (released.1 = .error e ↔ closed.1 = .error e ∨ drained.1 = .error e ∧ closed.1 = .ok ()) ∧
    (released.1 = .error e → concluded =
      (.finished (.raised e), closed.2.note (.left call.id p.index (.raised e)))) ∧
    (weighed.1.2 = .error e → (concluded.1 = .finished (.raised e) ↔
      released.1 = .ok () ∨ released.1 = .error e)) ∧
    (concluded.1 = .finished (.raised e) → ∀ next budget l₀,
      (do p.announce call made; next : Send) l₀ = (some (.response r), l) →
        p.rounds s call start next (budget + 1) made l₀ = (some (.raised e), concluded.2)) ∧
    (concluded.1 = .finished (.raised e) → ∀ outer inner,
      Suspended.deliver s call (⟨p, start, made⟩ :: outer) inner (.response r) l =
        (.finished (.raised e), concluded.2.passed call e outer)) := by
  intro weighed released drained closed concluded
  have weighs :
    (p.weigh call start made (.response r)).Brings call (fun _ => True) (.round false)
      (l.note (.received call.id p.index (.response r))) _ :=
    Place.weigh_brings start made (.response r)
  have fits : weighed.1.1.response = some r := weighs.2.response
  have course : concluded =
    (p.follow s.mode call weighed.1.1 weighed.1.2 >>= p.finish s.mode call) weighed.2 :=
    p.conclude_apply s start made rfl
  refine ⟨Place.release_interrupt fits interrupt, fun h => ?_, fun h => ?_, fun h => ?_,
    fun h => ?_⟩
  · rw [course, bind_apply, Place.follow_interrupt fits rejected interrupt h]
    show (Verdict.finished ((Reply.raised e).outOf s.mode.routine), _) = _
    rw [(Reply.outOf_eq_interrupt _ interrupt).mpr rfl]
  · have ends : concluded.1 = .finished (.raised e) ↔
        (p.follow s.mode call weighed.1.1 (.error e) weighed.2).1 = .finished (.raised e) := by
      rw [course, h, bind_apply]
      generalize p.follow s.mode call weighed.1.1 (.error e) weighed.2 = followed
      obtain ⟨verdict, l'⟩ := followed
      cases verdict with
      | finished reply =>
        show Verdict.finished (reply.outOf s.mode.routine) = _ ↔ Verdict.finished reply = _
        rw [Verdict.finished.injEq, Verdict.finished.injEq]
        exact Reply.outOf_eq_interrupt s.mode.routine interrupt
      | again attempt =>
        show Verdict.again attempt = _ ↔ Verdict.again attempt = _
        exact Iff.rfl
    exact ends.trans Place.follow_raised
  · intro next budget l₀ handed
    exact Place.rounds_of_finished handed h budget
  · intro outer inner
    exact Suspended.deliver_interrupted interrupt h outer inner

def oneRetry : Place where
  index := 0
  layer :=
    { retryer := .scripted (.listed [.decided .retry .nothing, .decided .ignore .nothing])
      clock := .wall, delay := none
      drainLimit := 4096, shownLimit := .int 4096, settings := {}, sink := .standard, forced := none
      one_le_drainLimit := by decide }

def interruptedCall (closeFailure : Option FailureSpec) : Call where
  id := 0
  request := { method := "GET", url := "http://example.test/" }
  feed := fun sent =>
    { act :=
        if sent = 0 then
          .respond 503
            ⟨.suspending, [], some (.of .cancelled (some "stop")), closeFailure⟩ .fresh
        else .respondText 200 "ok" }

theorem interrupts_end_call_of_closed :
    let call := interruptedCall none
    let sent := call.transmit .suspending {}
    let e : Failure := .raised (.fresh 0 0) .cancelled "stop"
    e.isInterrupt = true ∧
    (oneRetry.conclude ⟨.suspending, .binary⟩ call none 0 (.response ⟨⟨0, 0⟩, 503⟩) sent.2).1 =
      .finished (.raised e) := by
  intro call sent e
  have fate := interrupts_end_call oneRetry ⟨.suspending, .binary⟩ call none 0
    ⟨⟨0, 0⟩, 503⟩ sent.2 e rfl rfl
  exact ⟨rfl, congrArg Prod.fst (fate.2.1 (fate.1.mpr (.inr ⟨rfl, rfl⟩)))⟩

/-- Where the close fails in a way that is swallowed, the interrupt is lost: the request is sent
again and the caller is given the second response. -/
theorem interrupt_lost_in_close :
    let call := interruptedCall (some (.of .osError (some "reset")))
    let sent := call.transmit .suspending {}
    let weighed :=
      oneRetry.weighed call none 0 (.response ⟨⟨0, 0⟩, 503⟩) sent.2
    let drained :=
      oneRetry.drain .suspending call ⟨⟨0, 0⟩, 503⟩ (weighed.2.note (.releasing 0 0 ⟨0, 0⟩))
    let run := sendStepwise ⟨.suspending, .binary⟩ call 3 [oneRetry] {}
    (∃ e, drained.1 = .error e ∧ e.isInterrupt = true) ∧
    run.1.bind Reply.response? = some ⟨⟨0, 1⟩, 200⟩ ∧ (run.2.calls 0).sends = 2 := by
  intro call sent weighed drained run
  exact ⟨⟨_, rfl, rfl⟩, by decide +kernel, by decide +kernel⟩

end HttpRetry
