import HttpRetry.Proofs.Passage.Pieces
set_option autoImplicit false

namespace HttpRetry

open Work

/-- From where a layer sends, a send that comes to a reply proceeds to where the layer takes it up; one
that is given up has proceeded to somewhere. -/
def Send.Passes (s : Setting) (call : Call) (inner : List Place) (send : Send) : Prop :=
  ∀ frames l, send.Yields l fun result l' => ∃ pt,
    Proceeds s call (⟨frames, inner, .down⟩, l) (pt, l') ∧
      ∀ reply, result = some reply → pt = ⟨frames, inner, .up reply⟩

def Point.turn (p : Place) (start : Option Timestamp) (outer : List Frame) (inner : List Place) :
    (made : Nat) → Point
  | 0 => ⟨⟨p, start, 0⟩ :: outer, inner, .down⟩
  | made + 1 => ⟨⟨p, start, made⟩ :: outer, inner, .ready⟩

section
variable {s : Setting} {call : Call} {p : Place} {start : Option Timestamp} {inner : List Place}
  {l : Ledger}

theorem announce_proceeds (start : Option Timestamp) (outer : List Frame) (inner : List Place)
    (made : Nat) :
    (p.announce call made).Yields l fun _ l' =>
      Proceeds s call (.turn p start outer inner made, l)
        (⟨⟨p, start, made⟩ :: outer, inner, .down⟩, l') := by
  unfold Place.announce
  cases made with
  | zero => exact .refl
  | succ made =>
    simp only [Nat.succ_ne_zero, if_false]
    refine (Place.report_logged (.retrying (made + 2))).mono fun _ l' logged => ?_
    subst logged
    exact .single .announce

theorem rounds_proceeds {next : Send} (passes : next.Passes s call inner) (outer : List Frame)
    (budget made : Nat) :
    (p.rounds s call start next budget made).Yields l fun result l' => ∃ pt,
      Proceeds s call (.turn p start outer inner made, l) (pt, l') ∧
        ∀ reply, result = some reply → pt = ⟨outer, p :: inner, .up reply⟩ := by
  induction budget generalizing made l with
  | zero => exact ⟨_, .refl, fun reply ends => by cases ends⟩
  | succ budget ih =>
    refine yields_bind (announce_proceeds (s := s) start outer inner made) fun _ l₁ announced => ?_
    refine yields_bind (passes (⟨p, start, made⟩ :: outer) l₁) fun result l₂ sent => ?_
    obtain ⟨pt, sent, ends⟩ := sent
    cases result with
    | none => exact ⟨pt, announced.trans sent, fun reply ends => by cases ends⟩
    | some reply =>
      obtain rfl := ends reply rfl
      have concludes : (p.conclude s call start made reply).Yields l₂ _ :=
        conclude_proceeds (f := ⟨p, start, made⟩) outer inner reply
      refine yields_bind concludes fun verdict l₃ concluded => ?_
      have judged := (announced.trans sent).trans concluded
      cases verdict with
      | finished ending =>
        exact ⟨_, judged, fun reply ends => by cases ends; rfl⟩
      | again attempt =>
        have waits : (p.waitBlocking s call attempt).Yields l₃ _ :=
          waitBlocking_proceeds (s := s) (f := ⟨p, start, made⟩) outer inner attempt
        refine yields_bind waits fun result l₄ waited => ?_
        have waited := judged.trans waited
        cases result with
        | error e => exact ⟨_, waited, fun reply ends => by cases ends; rfl⟩
        | ok u =>
          refine (ih (made + 1)).mono fun result l' goes => ?_
          obtain ⟨pt, goes, ends⟩ := goes
          exact ⟨pt, waited.trans goes, ends⟩

theorem sendThrough_passes (budget : Nat) (places : List Place) :
    (sendThrough s call budget places).Passes s call places := by
  induction places with
  | nil =>
    intro frames l
    refine yields_map (transmit_proceeds frames) fun reply l' sent => ⟨_, sent, fun reply ends => ?_⟩
    cases ends
    rfl
  | cons p inner ih =>
    intro frames l
    refine yields_bind (enter_proceeds frames inner) fun entered l₁ h => ?_
    cases entered with
    | error e => exact ⟨_, h, fun reply ends => by cases ends; rfl⟩
    | ok start =>
      refine (rounds_proceeds ih frames budget 0).mono fun result l' goes => ?_
      obtain ⟨pt, goes, ends⟩ := goes
      exact ⟨pt, h.trans goes, ends⟩

end

def Suspended.point : Suspended → Point
  | .sending frames => ⟨frames, [], .down⟩
  | .beforeDelay delay attempt began f outer inner =>
    ⟨f :: outer, inner, .waiting delay attempt began⟩
  | .afterDelay attempt began f outer inner => ⟨f :: outer, inner, .worked attempt began⟩
  | .ready f outer inner => ⟨f :: outer, inner, .ready⟩

def Progress.At : Progress → Point → Prop
  | .suspended s, pt => pt = s.point
  | .finished reply, pt => pt.frames = [] ∧ pt.phase = .up reply

/-- From a point, some work on a call proceeds to where the call stands then. -/
def Work.Leads (s : Setting) (call : Call) (pt : Point) (work : Work Progress) : Prop :=
  ∀ l, work.Yields l fun progress l' => ∃ pt', Proceeds s call (pt, l) (pt', l') ∧ progress.At pt'

namespace Suspended

section
variable {s : Setting} {call : Call} {l : Ledger}

theorem deliver_leads (frames : List Frame) (inner : List Place) (reply : Reply) :
    (deliver s call frames inner reply).Leads s call ⟨frames, inner, .up reply⟩ := by
  induction frames generalizing inner reply with
  | nil => exact fun l => ⟨_, .refl, rfl, rfl⟩
  | cons f outer ih =>
    intro l
    refine yields_bind (conclude_proceeds (s := s) outer inner reply)
      fun verdict l₁ concluded => ?_
    cases verdict with
    | finished ending =>
      obtain ⟨pt, delivers, at_⟩ := ih (f.place :: inner) ending l₁
      exact ⟨pt, concluded.trans delivers, at_⟩
    | again attempt =>
      cases delays : f.place.layer.delay with
      | none => exact ⟨_, concluded.tail (.skip delays), rfl⟩
      | some delay =>
        refine yields_bind (Place.report_logged (.delaying attempt.count)) fun _ l₂ logged => ?_
        subst logged
        exact ⟨_, concluded.tail (.delay delays), rfl⟩

theorem descend_leads (frames : List Frame) (inner : List Place) :
    (descend s call frames inner).Leads s call ⟨frames, inner, .down⟩ := by
  induction inner generalizing frames with
  | nil => exact fun l => ⟨_, .refl, rfl⟩
  | cons p inner ih =>
    intro l
    refine yields_bind (enter_proceeds (s := s) frames inner) fun entered l₁ enters => ?_
    cases entered with
    | error e =>
      obtain ⟨pt, delivers, at_⟩ := deliver_leads frames (p :: inner) (.raised e) l₁
      exact ⟨pt, enters.trans delivers, at_⟩
    | ok start =>
      obtain ⟨pt, descends, at_⟩ := ih (⟨p, start, 0⟩ :: frames) l₁
      exact ⟨pt, enters.trans descends, at_⟩

theorem nextRound_leads (f : Frame) (outer : List Frame) (inner : List Place) :
    (nextRound s call f outer inner).Leads s call ⟨f :: outer, inner, .ready⟩ := by
  intro l
  refine yields_bind (Place.report_logged (.retrying (f.made + 2))) fun _ l₁ logged => ?_
  subst logged
  obtain ⟨pt, descends, at_⟩ := descend_leads ({ f with made := f.made + 1 } :: outer) inner _
  exact ⟨pt, (Proceeds.step .announce).trans descends, at_⟩

theorem resume_leads (point : Suspended) :
    (point.resume s call).Leads s call point.point := by
  intro l
  cases point with
  | sending frames =>
    refine yields_bind (transmit_proceeds (s := s) frames) fun reply l₁ sent => ?_
    obtain ⟨pt, delivers, at_⟩ := deliver_leads frames [] reply l₁
    exact ⟨pt, sent.trans delivers, at_⟩
  | beforeDelay delay attempt began f outer inner =>
    refine yields_bind (delayWork_proceeds (s := s) outer inner delay attempt began)
      fun result l₁ works => ?_
    cases result with
    | ok u => exact ⟨_, works, rfl⟩
    | error e =>
      obtain ⟨pt, delivers, at_⟩ := deliver_leads outer (f.place :: inner) (.raised e) l₁
      exact ⟨pt, works.trans delivers, at_⟩
  | afterDelay attempt began f outer inner =>
    refine yields_bind (P := fun _ l' => l' = f.place.delayed call s.timer attempt began l) rfl
      fun _ l₁ done => ?_
    subst done
    obtain ⟨pt, goes, at_⟩ := nextRound_leads f outer inner _
    exact ⟨pt, (Proceeds.step .done).trans goes, at_⟩
  | ready f outer inner => exact nextRound_leads f outer inner l

theorem throw_leads {e : Failure} (interrupt : e.isInterrupt = true) (point : Suspended) :
    (point.throw s call e).Leads s call point.point := by
  intro l
  have same := e.outOf_of_isInterrupt s.mode.routine interrupt
  have unwinds (f : Frame) (outer : List Frame) (inner : List Place) (phase : Phase)
      (rests : phase.rests = true) (l : Ledger) :
      (do f.place.leave call (.raised e); deliver s call outer (f.place :: inner) (.raised e)).Yields l
        fun progress l' => ∃ pt', Proceeds s call (⟨f :: outer, inner, phase⟩, l) (pt', l') ∧
          progress.At pt' := by
    obtain ⟨pt, delivers, at_⟩ := deliver_leads outer (f.place :: inner) (.raised e)
      (f.place.leaving call (.raised e) l)
    exact ⟨pt, (Proceeds.step (.thrown rests interrupt)).trans delivers, at_⟩
  cases point with
  | sending frames =>
    obtain ⟨pt, delivers, at_⟩ := deliver_leads frames [] (.raised e) l
    rw [throw, same]
    exact ⟨pt, (Proceeds.step (.cancel (.inr rfl) interrupt)).trans delivers, at_⟩
  | beforeDelay delay attempt began f outer inner =>
    simp only [throw, same]
    exact unwinds f outer inner _ rfl l
  | afterDelay attempt began f outer inner =>
    simp only [throw, same]
    exact unwinds f outer inner _ rfl l
  | ready f outer inner =>
    simp only [throw, same]
    exact unwinds f outer inner _ rfl l

/-- A call that stands somewhere is resumed until it ends, or until that is given up. -/
theorem drive_proceeds {progress : Progress} {pt : Point} (at_ : progress.At pt) (fuel : Nat) :
    (drive s call fuel progress).Yields l fun result l' => ∃ pt',
      Proceeds s call (pt, l) (pt', l') ∧
        ∀ reply, result = some reply → pt'.frames = [] ∧ pt'.phase = .up reply := by
  induction fuel generalizing progress pt l with
  | zero =>
    cases progress with
    | finished reply => exact ⟨pt, .refl, fun reply ends => by cases ends; exact at_⟩
    | suspended point => exact ⟨pt, .refl, fun reply ends => by cases ends⟩
  | succ fuel ih =>
    cases progress with
    | finished reply => exact ⟨pt, .refl, fun reply ends => by cases ends; exact at_⟩
    | suspended point =>
      obtain rfl : pt = point.point := at_
      refine yields_bind (resume_leads point l) fun progress l₁ resumed => ?_
      obtain ⟨pt₁, resumed, at₁⟩ := resumed
      refine (ih at₁).mono fun result l' driven => ?_
      obtain ⟨pt', driven, ends⟩ := driven
      exact ⟨pt', resumed.trans driven, ends⟩

end

end Suspended

section
variable {s : Setting} {call : Call} {pt pt' : Point} {l l' : Ledger}

theorem Call.begin_leads (s : Setting) (call : Call) (places : List Place) :
    (call.begin s places).Leads s call ⟨[], places, .down⟩ := Suspended.descend_leads [] places

theorem sendThrough_proceeds (s : Setting) (call : Call) (budget : Nat) (places : List Place) :
    (sendThrough s call budget places).Yields l fun result l' => ∃ pt,
      Proceeds s call (⟨[], places, .down⟩, l) (pt, l') ∧
        ∀ reply, result = some reply → pt.frames = [] ∧ pt.phase = .up reply := by
  refine (sendThrough_passes budget places [] l).mono fun result l' sent => ?_
  obtain ⟨pt, proceeds, ends⟩ := sent
  exact ⟨pt, proceeds, fun reply came => by simp [ends reply came]⟩

theorem sendStepwise_proceeds (s : Setting) (call : Call) (fuel : Nat) (places : List Place) :
    (sendStepwise s call fuel places).Yields l fun result l' => ∃ pt,
      Proceeds s call (⟨[], places, .down⟩, l) (pt, l') ∧
        ∀ reply, result = some reply → pt.frames = [] ∧ pt.phase = .up reply := by
  refine yields_bind (call.begin_leads s places l) fun progress l₁ begun => ?_
  obtain ⟨pt₁, begun, at₁⟩ := begun
  refine (Suspended.drive_proceeds at₁ fuel).mono fun result l' driven => ?_
  obtain ⟨pt, driven, ends⟩ := driven
  exact ⟨pt, begun.trans driven, ends⟩

theorem Setting.send_proceeds (s : Setting) (places : List Place) (budget : Nat) (call : Call) :
    (s.send places budget call).Yields l fun result l' => ∃ pt,
      Proceeds s call (⟨[], places, .down⟩, l) (pt, l') ∧
        ∀ reply, result = some reply → pt.frames = [] ∧ pt.phase = .up reply := by
  unfold Setting.send
  cases s.mode with
  | suspending => exact sendStepwise_proceeds s call budget places
  | blocking => exact sendThrough_proceeds s call budget places

def Stage.At (places : List Place) : Stage → Point → Prop
  | .waiting, pt => pt = ⟨[], places, .down⟩
  | .running s, pt => pt = s.point
  | .ended reply, pt => pt.frames = [] ∧ pt.phase = .up reply

theorem Progress.At.stage {progress : Progress} (at_ : progress.At pt) (places : List Place) :
    progress.stage.At places pt := by
  cases progress with
  | suspended s => exact at_
  | finished reply => exact at_

namespace Task

variable {t : Task} {places : List Place}

theorem advance_proceeds (at_ : t.stage.At places pt) :
    (t.advance s places).Yields l fun stage l' => ∃ pt',
      Proceeds s t.call (pt, l) (pt', l') ∧ stage.At places pt' := by
  unfold advance
  cases stage : t.stage with
  | waiting =>
    rw [stage] at at_
    obtain rfl : pt = _ := at_
    refine yields_bind (t.call.begin_leads s places l) fun progress l₁ begun => ?_
    obtain ⟨pt', begun, at'⟩ := begun
    exact ⟨pt', begun, at'.stage places⟩
  | running point =>
    rw [stage] at at_
    obtain rfl : pt = _ := at_
    refine yields_bind (Suspended.resume_leads point l) fun progress l₁ resumed => ?_
    obtain ⟨pt', resumed, at'⟩ := resumed
    exact ⟨pt', resumed, at'.stage places⟩
  | ended reply =>
    rw [stage] at at_
    exact ⟨pt, .refl, at_⟩

theorem cancel_proceeds (at_ : t.stage.At places pt) :
    (t.cancel s).Yields l fun stage l' => ∃ pt',
      Proceeds s t.call (pt, l) (pt', l') ∧ stage.At places pt' := by
  have made : (fail t.call.id cancellation).Yields l fun e l' =>
      e.isInterrupt = true ∧ Proceeds s t.call (pt, l) (pt, l') := ⟨rfl, .single .fail⟩
  unfold cancel
  cases stage : t.stage with
  | waiting =>
    rw [stage] at at_
    obtain rfl : pt = _ := at_
    refine yields_bind made fun e l₁ made => ?_
    exact ⟨_, made.2.tail (.cancel (.inl rfl) made.1), rfl, rfl⟩
  | running point =>
    rw [stage] at at_
    obtain rfl : pt = _ := at_
    refine yields_bind made fun e l₁ made => ?_
    refine yields_bind (Suspended.throw_leads made.1 point l₁) fun progress l₂ thrown => ?_
    obtain ⟨pt', thrown, at'⟩ := thrown
    exact ⟨pt', made.2.trans thrown, at'.stage places⟩
  | ended reply =>
    rw [stage] at at_
    exact ⟨pt, .refl, at_⟩

end Task

end

end HttpRetry
