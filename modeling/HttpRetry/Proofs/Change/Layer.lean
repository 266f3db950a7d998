import HttpRetry.Proofs.Change
import HttpRetry.Schedule
set_option autoImplicit false

namespace HttpRetry

variable {call : Call} {reach : ResponseId → Prop} {scope : Scope} {marks : Bool} {l : Ledger}

def Verdict.Within (reach : ResponseId → Prop) : Verdict → Prop
  | .finished reply => reply.Within reach
  | .again _ => True

namespace Place

open Work

variable {p : Place}

/-- All reports but that of a drain failure come without a count. -/
def Plain (n : Notice) : Prop :=
  ∀ call layer sink request, (Event.logged call layer ⟨sink, request, n⟩).isPlain = true

theorem report_makes {n : Notice} (hn : Plain n) : (p.report call n).Makes call reach scope l := by
  unfold report
  split
  · exact note_makes rfl (hn ..)
  · exact note_makes rfl (hn ..)

theorem bind_makes : (p.bind call).Makes call reach scope l := by
  unfold Place.bind
  split
  · exact note_makes rfl rfl
  · exact makes_pure _

theorem leave_makes (reply : Reply) :
    (p.leave call reply).Makes call reach (.round true) l := mark_makes rfl rfl

theorem leaveWith_makes (mode : Mode) (spec : FailureSpec) :
    (p.leaveWith mode call spec).Makes call reach (.round true) l :=
  makes_bind (fail_makes spec) fun _ _ => makes_bind (leave_makes _) fun _ _ => makes_pure _

theorem useClock_makes (f : ClockUse → ClockUse) : (p.useClock f).Makes call reach scope l :=
  makes_modify (.useClock _ f)

theorem refuse_makes (mode : Mode) (spec : FailureSpec) :
    (p.refuse mode call spec).Makes call reach (.round true) l :=
  makes_bind (useClock_makes _) fun _ _ => makes_bind (note_makes rfl rfl) fun _ _ =>
    leaveWith_makes mode spec

theorem enter_makes (mode : Mode) : (p.enter mode call).Makes call reach (.round true) l := by
  refine makes_bind bind_makes fun _ _ => yields_get ?_
  split
  · exact makes_bind (refuse_makes mode _) fun _ _ => makes_pure _
  · exact makes_bind (useClock_makes _) fun _ _ => makes_bind (mark_makes rfl rfl) fun _ _ =>
      makes_pure _

theorem errorOf_makes (reply : Reply) : (p.errorOf call reply).Makes call reach scope l := by
  cases reply with
  | raised e => exact makes_pure _
  | nothing => exact makes_pure _
  | response r =>
    simp only [errorOf]
    split
    · exact makes_map (fail_makes _)
    · exact makes_pure _

structure Fits (call : Call) (start : Option Timestamp) (made : Nat) (reply : Reply) (a : Attempt) :
    Prop where
  start : a.start = start
  count : a.count = made + 1
  request : a.request = call.request
  response : a.response = reply.response?

theorem attemptOf_brings (start : Option Timestamp) (made : Nat) (reply : Reply) :
    (p.attemptOf call start made reply).Brings call reach scope l (Fits call start made reply) :=
  Makes.then (errorOf_makes reply) fun _ _ => brings_pure ⟨rfl, rfl, rfl, rfl⟩

theorem take_makes (attempt : Attempt) (answer : Answer) :
    (take call attempt answer).Makes call reach scope l := by
  rcases answer with ⟨decision, source⟩ | spec | shown
  · cases source with
    | nothing => exact makes_pure _
    | own => exact makes_pure _
    | given spec => exact makes_bind (fail_makes spec) fun _ _ => makes_pure _
  · exact makes_bind (fail_makes spec) fun _ _ => makes_pure _
  · exact makes_bind (fail_makes _) fun _ _ => makes_pure _

theorem consult_makes (attempt : Attempt) (elapsed : Option Int) (answers : Nat → Answer) :
    (p.consult call attempt elapsed answers).Makes call reach (.round marks) l :=
  yields_get (makes_bind (step_makes rfl rfl) fun _ _ =>
    makes_bind (makes_modify (.ask p.index)) fun _ _ => take_makes attempt _)

theorem ask_makes (attempt : Attempt) :
    (p.ask call attempt).Makes call reach (.round marks) l := by
  unfold ask
  split
  · refine makes_bind (step_makes rfl rfl) fun _ _ => ?_
    split
    · exact makes_bind (report_makes fun _ _ _ _ => rfl) fun _ _ =>
        makes_bind freshFailure_makes fun _ _ => makes_pure _
    · exact makes_pure _
  · exact consult_makes attempt none _
  · refine yields_get ?_
    split
    · exact makes_bind (fail_makes _) fun _ _ => makes_pure _
    · exact consult_makes attempt _ _

theorem mention_makes (attempt : Attempt) (decision : Decision) (error : Option Failure) :
    (p.mention call attempt decision error).Makes call reach scope l := by
  cases error with
  | some e => exact report_makes fun _ _ _ _ => rfl
  | none => exact makes_pure _

theorem decide_makes {attempt : Attempt} (own : attempt.request = call.request) :
    (p.decide call attempt).Makes call reach (.round marks) l := by
  refine makes_bind (ask_makes attempt) fun answer _ => ?_
  rcases answer with e | ⟨decision, error⟩
  · exact makes_pure _
  · exact makes_bind (mention_makes attempt decision error) fun _ _ =>
      .single (.answer p attempt decision own)

theorem drain_makes {r : ResponseRef} (within : reach r.id) (mode : Mode) :
    (p.drain mode call r).Makes call reach scope l := by
  refine yields_get ?_
  split
  · exact makes_pure _
  · split
    · exact makes_pure _
    · exact iterate_makes within mode _ _

theorem discard_makes {r : ResponseRef} (within : reach r.id) (mode : Mode) :
    (p.discard mode call r).Makes call reach scope l := by
  refine makes_bind (drain_makes within mode) fun drained _ => ?_
  refine makes_bind (close_makes within mode) fun closed _ => ?_
  cases closed with
  | error e => exact makes_pure _
  | ok u => exact makes_pure _

theorem tolerate_makes (attempt : Attempt) (result : Except Failure Unit) :
    (p.tolerate call attempt result).Makes call reach scope l := by
  unfold tolerate
  split
  · exact makes_pure _
  · rename_i e
    split
    · exact .single (.drainFailure p attempt.count e)
    · exact makes_pure _

theorem release_makes {attempt : Attempt} (within : ∀ r, attempt.response = some r → reach r.id)
    (mode : Mode) : (p.release mode call attempt).Makes call reach (.round marks) l := by
  unfold release
  split
  · exact makes_pure _
  · rename_i r hr
    exact makes_bind (step_makes rfl rfl) fun _ _ =>
      makes_bind (discard_makes (within r hr) mode) fun result _ => tolerate_makes attempt result

theorem settle_brings {attempt : Attempt} (within : ∀ r, attempt.response = some r → reach r.id) :
    (settle call attempt).Brings call reach scope l (·.Within reach) := by
  unfold settle
  split
  · exact brings_pure (Reply.within_raised _)
  · rename_i r _ hr
    exact brings_pure (Reply.within_response (within r hr))
  · exact fail_raised _

theorem chain_makes (attempt : Attempt) (error : Failure) :
    (chain attempt error).Makes call reach scope l := by
  unfold chain
  split
  · split
    · exact makes_pure _
    · exact setCause_makes _ _
  · exact makes_pure _

theorem abort_makes (attempt : Attempt) (error : Option Failure) :
    (p.abort call attempt error).Makes call reach scope l := by
  have chosen : (abortError call attempt error).Makes call reach scope l := by
    cases error with
    | some e => exact makes_pure _
    | none => exact makes_bind freshFailure_makes fun _ _ => makes_pure _
  exact makes_bind chosen fun _ _ => makes_bind (report_makes fun _ _ _ _ => rfl) fun _ _ =>
    makes_bind (chain_makes attempt _) fun _ _ => makes_pure _

theorem resolve_brings {attempt : Attempt} (within : ∀ r, attempt.response = some r → reach r.id)
    (answer : Except Failure (Decision × Option Failure)) :
    (p.resolve call attempt answer).Brings call reach scope l (·.Within reach) := by
  rcases answer with e | ⟨decision, error⟩
  · exact brings_pure (Reply.within_raised e)
  · cases decision with
    | ignore => exact brings_bind (settle_brings within) fun _ _ h => brings_pure h
    | abort => exact Makes.then (abort_makes attempt error) fun e _ =>
      brings_pure (Reply.within_raised e)
    | retry => exact brings_pure trivial

theorem follow_brings {attempt : Attempt} (within : ∀ r, attempt.response = some r → reach r.id)
    (mode : Mode) (answer : Except Failure (Decision × Option Failure)) :
    (p.follow mode call attempt answer).Brings call reach (.round marks) l (·.Within reach) := by
  unfold follow
  split
  · exact resolve_brings within answer
  · refine Makes.then (release_makes within mode) fun result _ => ?_
    cases result with
    | error e => exact brings_pure (Reply.within_raised e)
    | ok u => exact resolve_brings within answer

theorem reportError_makes (made : Nat) (reply : Reply) :
    (p.reportError call made reply).Makes call reach scope l := by
  cases reply with
  | raised e => exact report_makes fun _ _ _ _ => rfl
  | nothing => exact makes_pure _
  | response r => exact makes_pure _

theorem weigh_brings (start : Option Timestamp) (made : Nat) (reply : Reply) :
    (p.weigh call start made reply).Brings call reach (.round marks) l fun w =>
      Fits call start made reply w.1 := by
  refine Makes.then (reportError_makes made reply) fun _ _ => ?_
  refine brings_bind (attemptOf_brings start made reply) fun attempt _ fits => ?_
  exact Makes.then (decide_makes fits.request) fun answer _ => brings_pure fits

theorem judge_brings {reply : Reply} (within : reply.Within reach) (s : Setting)
    (start : Option Timestamp) (made : Nat) :
    (p.judge s call start made reply).Brings call reach (.round marks) l (·.Within reach) := by
  unfold judge
  split
  · exact brings_pure within
  · refine brings_bind (weigh_brings start made reply) fun weighed _ fits => ?_
    refine follow_brings (fun r hr => ?_) s.mode weighed.2
    exact within r (fits.response.symm.trans hr)

theorem conclude_brings {reply : Reply} (within : reply.Within reach) (s : Setting)
    (start : Option Timestamp) (made : Nat) :
    (p.conclude s call start made reply).Brings call reach (.round true) l (·.Within reach) := by
  refine Makes.then (mark_makes rfl rfl) fun _ _ => ?_
  refine brings_bind (judge_brings within s start made) fun verdict _ h => ?_
  cases verdict with
  | finished reply => exact Makes.then (leave_makes _) fun _ _ => brings_pure (h.outOf _)
  | again attempt => exact brings_pure h

theorem delayWork_makes (mode : Mode) (delay : Delayer) (attempt : Attempt) :
    (p.delayWork mode delay call attempt).Makes call reach (.round true) l := by
  refine makes_bind (mark_makes rfl rfl) fun _ l' => ?_
  refine yields_get ?_
  refine makes_bind (makes_modify (.delay p.index)) fun _ _ => ?_
  refine makes_bind (advance_makes _) fun _ _ => ?_
  split
  · exact makes_bind (leaveWith_makes mode _) fun _ _ => makes_pure _
  · exact makes_pure _

theorem delayDone_makes (timer : Timer) (attempt : Attempt) (began : Rat) :
    (p.delayDone timer call attempt began).Makes call reach (.round marks) l :=
  .single (.delayed p timer attempt began _)

theorem waitBlocking_makes (s : Setting) (attempt : Attempt) :
    (p.waitBlocking s call attempt).Makes call reach (.round true) l := by
  unfold waitBlocking
  split
  · exact makes_pure _
  · refine makes_bind (report_makes fun _ _ _ _ => rfl) fun _ _ => ?_
    refine yields_get ?_
    refine makes_bind (delayWork_makes s.mode _ attempt) fun result _ => ?_
    cases result with
    | error e => exact makes_pure _
    | ok u => exact makes_bind (delayDone_makes s.timer attempt _) fun _ _ => makes_pure _

theorem announce_makes (made : Nat) : (p.announce call made).Makes call reach scope l := by
  unfold announce
  split
  · exact makes_pure _
  · exact report_makes fun _ _ _ _ => rfl

end Place

open Work

def WithinReach (reach : ResponseId → Prop) (reply : Option Reply) : Prop :=
  ∀ r, reply = some r → r.Within reach

theorem withinReach_some {reply : Reply} (h : reply.Within reach) :
    WithinReach reach (some reply) := by
  intro r hr
  cases hr
  exact h

theorem withinReach_none : WithinReach reach none := by
  intro r hr
  cases hr

theorem Place.rounds_brings {p : Place} {s : Setting} {start : Option Timestamp} {next : Send}
    (hnext : ∀ l, next.Brings call reach (.round true) l (WithinReach reach)) (budget made : Nat) :
    (p.rounds s call start next budget made).Brings call reach (.round true) l
      (WithinReach reach) := by
  induction budget generalizing made l with
  | zero => exact brings_pure withinReach_none
  | succ budget ih =>
    refine Makes.then (announce_makes made) fun _ l₁ => ?_
    refine brings_bind (hnext l₁) fun reply _ hreply => ?_
    cases reply with
    | none => exact brings_pure withinReach_none
    | some reply =>
      refine brings_bind (conclude_brings (hreply reply rfl) s start made) fun verdict _ hv => ?_
      cases verdict with
      | finished reply => exact brings_pure (withinReach_some hv)
      | again attempt =>
        refine Makes.then (waitBlocking_makes s attempt) fun result _ => ?_
        cases result with
        | error e => exact brings_pure (withinReach_some (Reply.within_raised e))
        | ok u => exact ih (made + 1)

theorem sendThrough_brings (hc : call.Confined reach) (s : Setting) (budget : Nat)
    (places : List Place) :
    (sendThrough s call budget places).Brings call reach (.round true) l (WithinReach reach) := by
  induction places generalizing l with
  | nil =>
    exact yields_map (call.transmit_brings hc s.mode) fun _ _ h => ⟨h.1, withinReach_some h.2⟩
  | cons p inner ih =>
    refine Makes.then (Place.enter_makes s.mode) fun entered _ => ?_
    cases entered with
    | error e => exact brings_pure (withinReach_some (Reply.within_raised e))
    | ok start => exact Place.rounds_brings (fun _ => ih) budget 0

def Progress.Within (reach : ResponseId → Prop) : Progress → Prop
  | .suspended _ => True
  | .finished reply => reply.Within reach

namespace Suspended

variable {s : Setting}

theorem deliver_brings (frames : List Frame) (inner : List Place) {reply : Reply}
    (within : reply.Within reach) :
    (deliver s call frames inner reply).Brings call reach (.round true) l
      (·.Within reach) := by
  induction frames generalizing inner reply l with
  | nil => exact brings_pure within
  | cons f outer ih =>
    refine brings_bind (Place.conclude_brings within _ _ _) fun verdict _ hv => ?_
    cases verdict with
    | finished reply => exact ih _ hv
    | again attempt =>
      simp only
      split
      · exact brings_pure trivial
      · exact Makes.then (Place.report_makes fun _ _ _ _ => rfl) fun _ _ =>
          yields_get (brings_pure trivial)

theorem descend_brings (frames : List Frame) (inner : List Place) :
    (descend s call frames inner).Brings call reach (.round true) l (·.Within reach) := by
  induction inner generalizing frames l with
  | nil => exact brings_pure trivial
  | cons p inner ih =>
    refine Makes.then (Place.enter_makes s.mode) fun entered _ => ?_
    cases entered with
    | error e => exact deliver_brings frames _ (Reply.within_raised e)
    | ok start => exact ih _

theorem nextRound_brings (f : Frame) (outer : List Frame) (inner : List Place) :
    (nextRound s call f outer inner).Brings call reach (.round true) l (·.Within reach) :=
  Makes.then (Place.report_makes fun _ _ _ _ => rfl) fun _ _ => descend_brings _ _

theorem resume_brings (hc : call.Confined reach) (point : Suspended) :
    (point.resume s call).Brings call reach (.round true) l (·.Within reach) := by
  cases point with
  | sending frames =>
    exact brings_bind (call.transmit_brings hc s.mode) fun _ _ h => deliver_brings frames [] h
  | beforeDelay delay attempt began f outer inner =>
    refine Makes.then (Place.delayWork_makes s.mode delay attempt) fun result _ => ?_
    cases result with
    | error e => exact deliver_brings _ _ (Reply.within_raised e)
    | ok u => exact brings_pure trivial
  | afterDelay attempt began f outer inner =>
    exact Makes.then (Place.delayDone_makes s.timer attempt began) fun _ _ =>
      nextRound_brings f outer inner
  | ready f outer inner => exact nextRound_brings f outer inner

theorem throw_brings (e : Failure) (point : Suspended) :
    (point.throw s call e).Brings call reach (.round true) l (·.Within reach) := by
  have from_layer (f : Frame) (outer : List Frame) (inner : List Place) (reply : Reply) :
      Brings (do f.place.leave call reply; deliver s call outer inner (.raised (e.outOf s.mode.routine)))
        call reach (.round true) l (·.Within reach) :=
    Makes.then (Place.leave_makes _) fun _ _ => deliver_brings _ _ (Reply.within_raised _)
  cases point with
  | sending frames => exact deliver_brings frames [] (Reply.within_raised _)
  | beforeDelay delay attempt began f outer inner => exact from_layer f outer _ _
  | afterDelay attempt began f outer inner => exact from_layer f outer _ _
  | ready f outer inner => exact from_layer f outer _ _

theorem drive_brings (hc : call.Confined reach) (fuel : Nat) {progress : Progress}
    (h : progress.Within reach) :
    (drive s call fuel progress).Brings call reach (.round true) l (WithinReach reach) := by
  induction fuel generalizing progress l with
  | zero =>
    cases progress with
    | suspended point => exact brings_pure withinReach_none
    | finished reply => exact brings_pure (withinReach_some h)
  | succ fuel ih =>
    cases progress with
    | suspended point => exact brings_bind (resume_brings hc point) fun _ _ h => ih h
    | finished reply => exact brings_pure (withinReach_some h)

end Suspended

theorem Call.begin_brings (s : Setting) (places : List Place) :
    (call.begin s places).Brings call reach (.round true) l (·.Within reach) :=
  Suspended.descend_brings [] places

theorem sendStepwise_brings (hc : call.Confined reach) (s : Setting) (fuel : Nat)
    (places : List Place) :
    (sendStepwise s call fuel places).Brings call reach (.round true) l (WithinReach reach) :=
  brings_bind (call.begin_brings s places) fun _ _ h => Suspended.drive_brings hc fuel h

theorem Setting.send_brings (hc : call.Confined reach) (s : Setting) (places : List Place)
    (budget : Nat) :
    (s.send places budget call).Brings call reach (.round true) l (WithinReach reach) := by
  unfold Setting.send
  split
  · exact sendThrough_brings hc s budget places
  · exact sendStepwise_brings hc s budget places

def Stage.Within (reach : ResponseId → Prop) : Stage → Prop
  | .ended reply => reply.Within reach
  | _ => True

theorem Progress.Within.stage {progress : Progress} (h : progress.Within reach) :
    progress.stage.Within reach := by
  cases progress with
  | suspended s => trivial
  | finished reply => exact h

namespace Task

variable {t : Task}

theorem advance_brings (hc : t.call.Confined reach) (h : t.stage.Within reach) (s : Setting)
    (places : List Place) :
    (t.advance s places).Brings t.call reach (.round true) l (·.Within reach) := by
  unfold Task.advance
  split
  · exact brings_bind (t.call.begin_brings s places) fun _ _ h => brings_pure h.stage
  · exact brings_bind (Suspended.resume_brings hc _) fun _ _ h => brings_pure h.stage
  · rename_i reply hr
    exact brings_pure (hr ▸ h)

theorem cancel_brings (h : t.stage.Within reach) (s : Setting) :
    (t.cancel s).Brings t.call reach (.round true) l (·.Within reach) := by
  unfold Task.cancel
  split
  · exact Makes.then (fail_makes _) fun e _ => brings_pure (Reply.within_raised e)
  · exact Makes.then (fail_makes _) fun e _ =>
      brings_bind (Suspended.throw_brings e _) fun _ _ h => brings_pure h.stage
  · rename_i reply hr
    exact brings_pure (hr ▸ h)

end Task

end HttpRetry
