import HttpRetry.Proofs.Closing
set_option autoImplicit false

namespace HttpRetry

open Work

section
variable {call : Call} {l : Ledger} {mode : Mode}

/-- Work of a call between two marks, started with no open response, ends with none. -/
theorem Work.Makes.ready {α : Type} {w : Work α}
    (hw : w.Makes call (fun _ => True) (.round false) l) (hm : call.Matches mode)
    (h : Ready mode call l) : w.Yields l fun _ l' => Ready mode call l' :=
  Yields.mono hw fun _ _ hc => h.changes hm hc

theorem Ready.change {l' : Ledger} (h : Ready mode call l) (hm : call.Matches mode)
    (hc : Change call (fun _ => True) (.round false) l l') :
    Ready mode call l' := h.changes hm (.single hc)

theorem Call.transmit_handed (hm : call.Matches mode) (h : Ready mode call l) :
    (call.transmit mode).Yields l fun reply l' => Handed mode call reply l' := by
  have sent : Ready mode call (l.note (.sent call.id call.request)) :=
    h.mark rfl rfl fun _ _ _ h => by cases h
  refine yields_note ?_
  refine yields_bind (nextSend_makes.ready hm sent) fun n l₂ h₂ => ?_
  refine yields_bind ((advance_makes _).ready hm h₂) fun _ l₃ h₃ => ?_
  have made : (perform mode call.id (call.feed n).act).Brings call (fun _ => True)
    (.round false) l₃ _ :=
    perform_brings call.confined_all mode n
  refine yields_bind (made.and (perform_known _)) fun reply l₄ h₄ => yields_pure ?_
  exact ((h₃.changes hm h₄.1.1).handed h₄.2).outOf _

def Verdict.Tidy (mode : Mode) (call : Call) : Verdict → Ledger → Prop
  | .finished reply, l => Handed mode call reply l
  | .again _, l => Ready mode call l

namespace Place

variable {p : Place}

theorem discard_shut (hm : call.Matches mode) (hs : l.Sound mode) {r : ResponseRef}
    (known : (l.response? r.id).isSome) :
    (p.discard mode call r).Yields l fun _ l' => l'.IsShut r.id := by
  have drained : (p.drain mode call r).Makes call (fun _ => True) (.round false) l :=
    drain_makes trivial mode
  refine yields_bind drained fun result l₁ h₁ => ?_
  refine yields_bind (close_shut (h₁.sound hm hs) (h₁.known known)) fun closed l₂ h₂ => ?_
  cases closed with
  | error e => exact h₂
  | ok u => exact h₂

/-- After a release, whatever it comes to, nothing is open any more. -/
theorem release_ready (hm : call.Matches mode) {attempt : Attempt} {reply : Reply}
    (hr : attempt.response = reply.response?) (h : Handed mode call reply l) :
    (p.release mode call attempt).Yields l fun _ l' => Ready mode call l' := by
  cases ha : attempt.response with
  | none =>
    unfold release
    rw [ha]
    exact yields_pure (h.ready (by simp [Reply.held, ← hr, ha]))
  | some r =>
    have held : reply.held = some r.id := by simp [Reply.held, ← hr, ha]
    have shut : (p.release mode call attempt).Yields l fun _ l' => l'.IsShut r.id := by
      unfold release
      rw [ha]
      have noted : Change call (fun _ => True) (.round false) l
          (l.note (.releasing call.id p.index r.id)) := .step rfl rfl
      have h' := h.changes hm (.single noted)
      refine yields_note ?_
      refine yields_bind (discard_shut hm h'.kept.sound (h'.known r.id held)) fun result l₂ h₂ => ?_
      have tolerated :
        (p.tolerate call attempt result).Makes call (fun _ => True) (.round false) l₂ :=
        tolerate_makes attempt result
      exact Yields.mono tolerated fun _ _ hc => hc.isShut h₂
    have made : (p.release mode call attempt).Makes call (fun _ => True) (.round false) l :=
      release_makes (fun _ _ => trivial) mode
    refine Yields.mono (shut.and made) fun _ l' h' => ?_
    have handed := h.changes hm h'.2
    refine ⟨handed.kept, fun id hid => ?_⟩
    rcases handed.holds id hid with e | shut'
    · rw [held] at e
      cases e
      exact .inr h'.1
    · exact .inr shut'

theorem resolve_passes (hm : call.Matches mode) {attempt : Attempt} {reply : Reply}
    (hr : attempt.response = reply.response?) {answer : Except Failure (Decision × Option Failure)}
    (passes : attempt.passes answer = true) (h : Handed mode call reply l) :
    (p.resolve call attempt answer).Yields l fun verdict l' => verdict.Tidy mode call l' := by
  rcases answer with e | ⟨decision, error⟩
  · simp [Attempt.passes] at passes
  · cases decision with
    | retry => simp [Attempt.passes] at passes
    | abort => simp [Attempt.passes] at passes
    | ignore =>
      have clean : attempt.error = none := by simpa [Attempt.passes] using passes
      refine yields_bind (P := fun reply' l' => Handed mode call reply' l') ?_ fun _ _ h => h
      unfold settle
      rw [clean]
      cases ha : attempt.response with
      | some r =>
        have same : Reply.held (.response r) = reply.held := by
          rw [Reply.held, Reply.held, ← hr, ha]
          rfl
        exact yields_pure ⟨h.kept, same ▸ h.holds, same ▸ h.known⟩
      | none =>
        have ready := h.ready (by simp [Reply.held, ← hr, ha])
        exact yields_bind ((fail_makes _).ready hm ready) fun e _ h => h.handed_raised e

theorem resolve_released (hm : call.Matches mode) {attempt : Attempt}
    {answer : Except Failure (Decision × Option Failure)} (passes : attempt.passes answer = false)
    (h : Ready mode call l) :
    (p.resolve call attempt answer).Yields l fun verdict l' => verdict.Tidy mode call l' := by
  rcases answer with e | ⟨decision, error⟩
  · exact yields_pure (h.handed_raised e)
  · cases decision with
    | retry => exact yields_pure h
    | abort => exact yields_bind ((abort_makes attempt error).ready hm h) fun e _ h =>
      h.handed_raised e
    | ignore =>
      obtain ⟨e, he⟩ : ∃ e, attempt.error = some e := by
        rw [← Option.isSome_iff_exists]
        simpa [Attempt.passes] using passes
      refine yields_bind (P := fun reply' l' => Handed mode call reply' l') ?_ fun _ _ h => h
      unfold settle
      rw [he]
      exact yields_pure (h.handed_raised e)

theorem follow_tidy (hm : call.Matches mode) {attempt : Attempt} {reply : Reply}
    (hr : attempt.response = reply.response?) (answer : Except Failure (Decision × Option Failure))
    (h : Handed mode call reply l) :
    (p.follow mode call attempt answer).Yields l fun verdict l' => verdict.Tidy mode call l' := by
  unfold follow
  split
  · rename_i passes
    exact resolve_passes hm hr passes h
  · rename_i passes
    refine yields_bind (release_ready hm hr h) fun result l₁ h₁ => ?_
    cases result with
    | error e => exact yields_pure (h₁.handed_raised e)
    | ok u => exact resolve_released hm (by simpa using passes) h₁

theorem judge_tidy {s : Setting} (hm : call.Matches s.mode) {reply : Reply}
    (h : Handed s.mode call reply l) (start : Option Timestamp) (made : Nat) :
    (p.judge s call start made reply).Yields l fun verdict l' => verdict.Tidy s.mode call l' := by
  unfold judge
  split
  · exact yields_pure h
  · have weighed :
      (p.weigh call start made reply).Brings call (fun _ => True) (.round false) l _ :=
      weigh_brings start made reply
    refine yields_bind weighed fun weighed l₁ h₁ => ?_
    obtain ⟨changes, fits⟩ := h₁
    exact follow_tidy hm fits.response weighed.2 (h.changes hm changes)

/-- A round ends with no open response but the one handed on. -/
theorem conclude_tidy {s : Setting} (hm : call.Matches s.mode) {reply : Reply}
    (h : Handed s.mode call reply l) (start : Option Timestamp) (made : Nat) :
    (p.conclude s call start made reply).Yields l fun verdict l' =>
      verdict.Tidy s.mode call l' := by
  refine yields_note ?_
  refine yields_bind (judge_tidy hm (h.receive p.index) start made) fun verdict l₂ h₂ => ?_
  cases verdict with
  | finished reply => exact yields_note (yields_pure ((h₂.outOf _).leave p.index))
  | again attempt => exact yields_pure h₂

theorem leave_ready (h : Ready mode call l) (e : Failure) :
    (p.leave call (.raised e)).Yields l fun _ l' => Ready mode call l' :=
  ((h.handed_raised e).leave p.index).ready rfl

theorem leaveWith_ready (hm : call.Matches mode) (h : Ready mode call l) (spec : FailureSpec) :
    (p.leaveWith mode call spec).Yields l fun _ l' => Ready mode call l' :=
  yields_bind ((fail_makes spec).ready hm h) fun _ _ h₁ =>
    yields_bind (leave_ready h₁ _) fun _ _ h => yields_pure h

theorem refuse_ready (hm : call.Matches mode) (h : Ready mode call l) (spec : FailureSpec) :
    (p.refuse mode call spec).Yields l fun _ l' => Ready mode call l' := by
  refine yields_bind ((useClock_makes .failed).ready hm h) fun _ _ h₁ => ?_
  refine yields_note ?_
  exact leaveWith_ready hm (h₁.change hm (.note (e := .refused call.id p.index) rfl rfl)) spec

theorem enter_ready (hm : call.Matches mode) (h : Ready mode call l) :
    (p.enter mode call).Yields l fun _ l' => Ready mode call l' := by
  refine yields_bind (bind_makes.ready hm h) fun _ _ h₁ => yields_get ?_
  split
  · exact yields_bind (refuse_ready hm h₁ _) fun _ _ h => yields_pure h
  · refine yields_bind ((useClock_makes .read).ready hm h₁) fun _ _ h₂ => ?_
    exact yields_note (yields_pure (h₂.mark rfl rfl fun _ _ _ h => by cases h))

theorem delayWork_ready (hm : call.Matches mode) (h : Ready mode call l) (delay : Delayer)
    (attempt : Attempt) :
    (p.delayWork mode delay call attempt).Yields l fun _ l' => Ready mode call l' := by
  have h₁ : Ready mode call (l.note (.delaying call.id p.index attempt)) :=
    h.mark rfl rfl fun _ _ _ h => by cases h
  have h₂ := h₁.change hm (.delay p.index)
  refine yields_note (yields_get (yields_modify ?_))
  refine yields_bind ((advance_makes _).ready hm h₂) fun _ _ h₃ => ?_
  split
  · exact yields_bind (leaveWith_ready hm h₃ _) fun _ _ h => yields_pure h
  · exact yields_pure h₃

theorem waitBlocking_ready {s : Setting} (hm : call.Matches s.mode) (h : Ready s.mode call l)
    (attempt : Attempt) :
    (p.waitBlocking s call attempt).Yields l fun _ l' => Ready s.mode call l' := by
  unfold waitBlocking
  split
  · exact yields_pure h
  · refine yields_bind ((report_makes fun _ _ _ _ => rfl).ready hm h) fun _ _ h₁ => ?_
    refine yields_get ?_
    refine yields_bind (delayWork_ready hm h₁ _ attempt) fun result _ h₂ => ?_
    cases result with
    | error e => exact yields_pure h₂
    | ok u => 
      exact yields_bind ((delayDone_makes s.timer attempt _).ready hm h₂) fun _ _ h => yields_pure h

end Place

def Sent (mode : Mode) (call : Call) : Option Reply → Ledger → Prop
  | some reply, l => Handed mode call reply l
  | none, l => Ready mode call l

theorem Place.rounds_sent {p : Place} {s : Setting} (hm : call.Matches s.mode)
    {start : Option Timestamp} {next : Send}
    (hnext : ∀ l, Ready s.mode call l → next.Yields l fun reply l' => Sent s.mode call reply l')
    (budget made : Nat) (h : Ready s.mode call l) :
    (p.rounds s call start next budget made).Yields l fun reply l' =>
      Sent s.mode call reply l' := by
  induction budget generalizing made l with
  | zero => exact yields_pure h
  | succ budget ih =>
    refine yields_bind ((announce_makes made).ready hm h) fun _ l₁ h₁ => ?_
    refine yields_bind (hnext l₁ h₁) fun reply l₂ h₂ => ?_
    cases reply with
    | none => exact yields_pure h₂
    | some reply =>
      refine yields_bind (conclude_tidy hm h₂ start made) fun verdict l₃ h₃ => ?_
      cases verdict with
      | finished reply => exact yields_pure h₃
      | again attempt =>
        refine yields_bind (waitBlocking_ready hm h₃ attempt) fun result l₄ h₄ => ?_
        cases result with
        | error e => exact yields_pure (h₄.handed_raised e)
        | ok u => exact ih (made + 1) h₄

theorem sendThrough_sent {s : Setting} (hm : call.Matches s.mode) (budget : Nat)
    (places : List Place) (h : Ready s.mode call l) :
    (sendThrough s call budget places).Yields l fun reply l' => Sent s.mode call reply l' := by
  induction places generalizing l with
  | nil => exact yields_map (call.transmit_handed hm h) fun _ _ h => h
  | cons p inner ih =>
    refine yields_bind (Place.enter_ready hm h) fun entered l₁ h₁ => ?_
    cases entered with
    | error e => exact yields_pure (h₁.handed_raised e)
    | ok start => exact Place.rounds_sent hm (fun _ h => ih h) budget 0 h₁

def Progress.Tidy (mode : Mode) (call : Call) : Progress → Ledger → Prop
  | .suspended _, l => Ready mode call l
  | .finished reply, l => Handed mode call reply l

namespace Suspended

variable {s : Setting}

theorem deliver_tidy (hm : call.Matches s.mode) (frames : List Frame) (inner : List Place)
    {reply : Reply} (h : Handed s.mode call reply l) :
    (deliver s call frames inner reply).Yields l fun progress l' => progress.Tidy s.mode call l' := by
  induction frames generalizing inner reply l with
  | nil => exact yields_pure h
  | cons f outer ih =>
    have concluded :=
      Place.conclude_tidy (p := f.place) (s := s) hm h f.start f.made
    refine yields_bind concluded fun verdict l₁ h₁ => ?_
    cases verdict with
    | finished reply => exact ih _ h₁
    | again attempt =>
      simp only
      split
      · exact yields_pure h₁
      · exact yields_bind ((Place.report_makes fun _ _ _ _ => rfl).ready hm h₁) fun _ _ h₂ =>
          yields_get (yields_pure h₂)

theorem descend_tidy (hm : call.Matches s.mode) (frames : List Frame) (inner : List Place)
    (h : Ready s.mode call l) :
    (descend s call frames inner).Yields l fun progress l' => progress.Tidy s.mode call l' := by
  induction inner generalizing frames l with
  | nil => exact yields_pure h
  | cons p inner ih =>
    refine yields_bind (Place.enter_ready hm h) fun entered l₁ h₁ => ?_
    cases entered with
    | error e => exact deliver_tidy hm frames _ (h₁.handed_raised e)
    | ok start => exact ih _ h₁

theorem nextRound_tidy (hm : call.Matches s.mode) (f : Frame) (outer : List Frame)
    (inner : List Place) (h : Ready s.mode call l) :
    (nextRound s call f outer inner).Yields l fun progress l' => progress.Tidy s.mode call l' :=
  yields_bind ((Place.report_makes fun _ _ _ _ => rfl).ready hm h) fun _ _ h₁ =>
    descend_tidy hm _ _ h₁

theorem resume_tidy (hm : call.Matches s.mode) (point : Suspended) (h : Ready s.mode call l) :
    (point.resume s call).Yields l fun progress l' => progress.Tidy s.mode call l' := by
  cases point with
  | sending frames =>
    exact yields_bind (call.transmit_handed hm h) fun _ _ h₁ => deliver_tidy hm frames [] h₁
  | beforeDelay delay attempt began f outer inner =>
    refine yields_bind (Place.delayWork_ready hm h delay attempt) fun result _ h₁ => ?_
    cases result with
    | error e => exact deliver_tidy hm _ _ (h₁.handed_raised e)
    | ok u => exact yields_pure h₁
  | afterDelay attempt began f outer inner =>
    exact yields_bind ((Place.delayDone_makes s.timer attempt began).ready hm h) fun _ _ h₁ =>
      nextRound_tidy hm f outer inner h₁
  | ready f outer inner => exact nextRound_tidy hm f outer inner h

theorem throw_tidy (hm : call.Matches s.mode) (e : Failure) (point : Suspended)
    (h : Ready s.mode call l) :
    (point.throw s call e).Yields l fun progress l' => progress.Tidy s.mode call l' := by
  have from_layer (f : Frame) (outer : List Frame) (inner : List Place) (e : Failure) :
      Yields (do f.place.leave call (.raised e); deliver s call outer inner (.raised e)) l
        fun progress l' => progress.Tidy s.mode call l' :=
    yields_bind (Place.leave_ready h e) fun _ _ h₁ => deliver_tidy hm _ _ (h₁.handed_raised e)
  cases point with
  | sending frames => exact deliver_tidy hm frames [] (h.handed_raised _)
  | beforeDelay delay attempt began f outer inner => exact from_layer f outer _ _
  | afterDelay attempt began f outer inner => exact from_layer f outer _ _
  | ready f outer inner => exact from_layer f outer _ _

theorem drive_sent (hm : call.Matches s.mode) (fuel : Nat) {progress : Progress}
    (h : progress.Tidy s.mode call l) :
    (drive s call fuel progress).Yields l fun reply l' => Sent s.mode call reply l' := by
  induction fuel generalizing progress l with
  | zero =>
    cases progress with
    | suspended point => exact yields_pure h
    | finished reply => exact yields_pure h
  | succ fuel ih =>
    cases progress with
    | suspended point => exact yields_bind (resume_tidy hm point h) fun _ _ h₁ => ih h₁
    | finished reply => exact yields_pure h

end Suspended

theorem Call.begin_tidy {s : Setting} (hm : call.Matches s.mode) (places : List Place)
    (h : Ready s.mode call l) :
    (call.begin s places).Yields l fun progress l' => progress.Tidy s.mode call l' :=
  Suspended.descend_tidy hm [] places h

theorem sendStepwise_sent {s : Setting} (hm : call.Matches s.mode) (fuel : Nat)
    (places : List Place) (h : Ready s.mode call l) :
    (sendStepwise s call fuel places).Yields l fun reply l' => Sent s.mode call reply l' :=
  yields_bind (call.begin_tidy hm places h) fun _ _ h₁ => Suspended.drive_sent hm fuel h₁

end

end HttpRetry
