import HttpRetry.Schedule
import HttpRetry.Proofs.Likeness.Run
set_option autoImplicit false

namespace HttpRetry

open Work

section
variable (k : Likeness) (T : Place → Place → Prop)

inductive Frame.Alike : Frame → Frame → Prop
  | entered {p p' : Place} (related : T p p') {start start' : Option Timestamp}
    (dated : k.dated → start = start') (made : Nat) :
    Frame.Alike ⟨p, start, made⟩ ⟨p', start', made⟩

inductive Suspended.Alike (ids : Naming) : Suspended → Suspended → Prop
  | sending {frames frames' : List Frame} (outer : List.Forall₂ (Frame.Alike k T) frames frames') :
    Suspended.Alike ids (.sending frames) (.sending frames')
  | beforeDelay {delay : Delayer} {attempt attempt' : Attempt}
    (alike : attempt.Alike k ids attempt') {began began' : Rat} (timed : k.timed → began' = began)
    {f f' : Frame} (own : f.place.layer.delay = some delay) (waiting : f.Alike k T f')
    {outer outer' : List Frame} (frames : List.Forall₂ (Frame.Alike k T) outer outer')
    {inner inner' : List Place} (places : List.Forall₂ T inner inner') :
    Suspended.Alike ids (.beforeDelay delay attempt began f outer inner)
      (.beforeDelay delay attempt' began' f' outer' inner')
  | afterDelay {attempt attempt' : Attempt} (alike : attempt.Alike k ids attempt')
    {began began' : Rat} (timed : k.timed → began' = began) {f f' : Frame}
    (waiting : f.Alike k T f') {outer outer' : List Frame}
    (frames : List.Forall₂ (Frame.Alike k T) outer outer') {inner inner' : List Place}
    (places : List.Forall₂ T inner inner') :
    Suspended.Alike ids (.afterDelay attempt began f outer inner)
      (.afterDelay attempt' began' f' outer' inner')
  | ready {f f' : Frame} (next : f.Alike k T f') {outer outer' : List Frame}
    (frames : List.Forall₂ (Frame.Alike k T) outer outer') {inner inner' : List Place}
    (places : List.Forall₂ T inner inner') :
    Suspended.Alike ids (.ready f outer inner) (.ready f' outer' inner')

inductive Progress.Alike (ids : Naming) : Progress → Progress → Prop
  | suspended {point point' : Suspended} (alike : point.Alike k T ids point') :
    Progress.Alike ids (.suspended point) (.suspended point')
  | finished {reply reply' : Reply} (alike : reply.Alike k ids reply') :
    Progress.Alike ids (.finished reply) (.finished reply')

end

theorem Suspended.Alike.mono {k : Likeness} {T : Place → Place → Prop} {ids ids' : Naming}
    (le : Subrelation ids ids') {point point' : Suspended} (h : point.Alike k T ids point') :
    point.Alike k T ids' point' := by
  cases h with
  | sending outer => exact .sending outer
  | beforeDelay alike timed own waiting outer inner =>
    exact .beforeDelay (alike.mono le) timed own waiting outer inner
  | afterDelay alike timed waiting outer inner =>
    exact .afterDelay (alike.mono le) timed waiting outer inner
  | ready next outer inner => exact .ready next outer inner

namespace Suspended

section
variable {s : Setting} {call : Call}

theorem deliver_acts (frames : List Frame) (inner : List Place) (reply : Reply) :
    Acts call (deliver s call frames inner reply) := fun l => by
  have brings : (deliver s call frames inner reply).Brings call (fun _ => True) (.round true) l
      (·.Within fun _ => True) := deliver_brings frames inner fun _ _ => trivial
  exact brings.1

theorem descend_acts (frames : List Frame) (inner : List Place) :
    Acts call (descend s call frames inner) := fun _ => (descend_brings frames inner).1

theorem drive_acts (fuel : Nat) (progress : Progress) : Acts call (drive s call fuel progress) := by
  intro l
  have within : progress.Within fun _ => True := by
    cases progress with
    | suspended point => trivial
    | finished reply => exact fun _ _ => trivial
  exact (drive_brings call.confined_all fuel within).1

end

variable {k : Likeness} {R : Tie} {lost : Loss} {s s' : Setting} {call : Call} {feed : Feed}
  {T : Place → Place → Prop} (c : Course k R lost s s' call feed T) {frames frames' : List Frame}
  (outer : List.Forall₂ (Frame.Alike k T) frames frames') {places places' : List Place}
  (inner : List.Forall₂ T places places') {ids : Naming} {l l' : Ledger}

include c

section
include outer inner

theorem likens_deliver {reply reply' : Reply} (alike : reply.Alike k ids reply')
    (tied : R ids l l') :
    Likens R (Progress.Alike k T) (deliver s call frames places reply)
      (deliver s' (call.fed feed) frames' places' reply') ids l l' := by
  induction outer generalizing places places' reply reply' ids l l' with
  | nil => exact likens_pure (.finished alike) tied
  | @cons f f' outer outer' frame rest ih =>
    have frame' := frame
    cases frame with
    | @entered p p' related start start' dated made =>
      have place := c.layers related
      refine likens_bind (place.likens_conclude c.parallel tied c.modes dated made alike)
        fun _ _ _ _ _ _ verdict tied => ?_
      cases verdict with
      | finished alike => exact ih (.cons related inner) alike tied
      | again attempt =>
        simp only [place.delay]
        cases own : p.layer.delay with
        | none => exact likens_pure (.suspended (.ready frame' rest inner)) tied
        | some delay =>
          simp only [attempt.count]
          refine likens_bind (place.report tied (.delaying _)) fun _ _ _ _ _ le _ tied => ?_
          refine likens_get (likens_pure (.suspended ?_) tied)
          exact .beforeDelay (attempt.mono le) (fun timed => c.parallel.now timed tied) own frame'
            rest inner

theorem tracks_descend (tied : R ids l l') :
    Tracks R lost (Progress.Alike k T) (descend s call frames places)
      (descend s' (call.fed feed) frames' places') ids l l' := by
  induction inner generalizing frames frames' ids l l' with
  | nil => exact tracks_pure (.suspended (.sending outer)) tied
  | @cons p p' _ _ related rest ih =>
    refine c.bind (c.enters related tied) (fun _ _ _ _ _ _ entered tied => ?_) ?_ ?_
    · cases entered with
      | error error =>
        exact (likens_deliver c outer (.cons related rest) (.raised error) tied).tracks
      | ok dated => exact ih (.cons (.entered related dated 0) outer) tied
    · intro entered l
      cases entered with
      | error e => exact deliver_acts frames (p :: _) _ l
      | ok start => exact descend_acts (⟨p, start, 0⟩ :: frames) _ l
    · intro entered l
      cases entered with
      | error e => exact deliver_acts frames' (p' :: _) _ l
      | ok start => exact descend_acts (⟨p', start, 0⟩ :: frames') _ l

theorem tracks_nextRound {f f' : Frame} (frame : f.Alike k T f') (tied : R ids l l') :
    Tracks R lost (Progress.Alike k T) (nextRound s call f frames places)
      (nextRound s' (call.fed feed) f' frames' places') ids l l' := by
  cases frame with
  | entered related dated made =>
    refine ((c.layers related).report tied (.retrying _)).before fun _ _ _ _ _ _ _ tied => ?_
    exact tracks_descend c (.cons (.entered related dated (made + 1)) outer) inner tied

end

theorem tracks_resume (transmits : Transmits k R s s' call feed) {point point' : Suspended}
    (alike : point.Alike k T ids point') (tied : R ids l l') :
    Tracks R lost (Progress.Alike k T) (point.resume s call)
      (point'.resume s' (call.fed feed)) ids l l' := by
  cases alike with
  | sending outer =>
    exact (transmits tied).before fun _ _ _ _ _ _ reply tied =>
      (likens_deliver c outer .nil reply tied).tracks
  | beforeDelay attempt timed own waiting outer inner =>
    have waiting' := waiting
    cases waiting with
    | entered related dated made =>
      refine ((c.layers related).likens_delayWork c.parallel tied c.modes own attempt).before
        fun _ _ _ _ _ le worked tied => ?_
      cases worked with
      | error error =>
        exact (likens_deliver c outer (.cons related inner) (.raised error) tied).tracks
      | ok _ =>
        exact tracks_pure (.suspended (.afterDelay (attempt.mono le) timed waiting' outer inner)) tied
  | afterDelay attempt timed waiting outer inner =>
    have waiting' := waiting
    cases waiting with
    | entered related dated made =>
      refine ((c.layers related).likens_delayDone c.parallel tied attempt timed).before
        fun _ _ _ _ _ _ _ tied => ?_
      exact tracks_nextRound c outer inner waiting' tied
  | ready next outer inner => exact tracks_nextRound c outer inner next tied

theorem likens_throw {e e' : Failure} (error : e.Alike k ids e') {point point' : Suspended}
    (alike : point.Alike k T ids point') (tied : R ids l l') :
    Likens R (Progress.Alike k T) (point.throw s call e)
      (point'.throw s' (call.fed feed) e') ids l l' := by
  have error := error.outOf_routine c.modes
  have unwinds {f f' : Frame} (waiting : f.Alike k T f') {outer outer' : List Frame}
      (frames : List.Forall₂ (Frame.Alike k T) outer outer') {inner inner' : List Place}
      (places : List.Forall₂ T inner inner') :
      Likens R (Progress.Alike k T)
        (do
          f.place.leave call (.raised (e.outOf s.mode.routine))
          deliver s call outer (f.place :: inner) (.raised (e.outOf s.mode.routine)))
        (do
          f'.place.leave (call.fed feed) (.raised (e'.outOf s'.mode.routine))
          deliver s' (call.fed feed) outer' (f'.place :: inner')
            (.raised (e'.outOf s'.mode.routine)))
        ids l l' := by
    cases waiting with
    | entered related dated made =>
      refine likens_bind (Place.likens_leave c.parallel (c.layers related).index tied (.raised error))
        fun _ _ _ _ _ le _ tied => ?_
      exact likens_deliver c frames (.cons related places) (.raised (error.mono le)) tied
  cases alike with
  | sending outer => exact likens_deliver c outer .nil (.raised error) tied
  | beforeDelay attempt timed own waiting outer inner => exact unwinds waiting outer inner
  | afterDelay attempt timed waiting outer inner => exact unwinds waiting outer inner
  | ready next outer inner => exact unwinds next outer inner

theorem tracks_drive (transmits : Transmits k R s s' call feed) (fuel : Nat)
    {progress progress' : Progress} (alike : progress.Alike k T ids progress') (tied : R ids l l') :
    Tracks R lost (Sent.Alike k) (drive s call fuel progress)
      (drive s' (call.fed feed) fuel progress') ids l l' := by
  induction fuel generalizing progress progress' ids l l' with
  | zero =>
    cases alike with
    | suspended point => exact tracks_pure .none tied
    | finished reply => exact tracks_pure (.some reply) tied
  | succ fuel ih =>
    cases alike with
    | suspended point =>
      exact c.bind (tracks_resume c transmits point tied)
        (fun _ _ _ _ _ _ progress tied => ih progress tied)
        (drive_acts fuel) (drive_acts fuel)
    | finished reply => exact tracks_pure (.some reply) tied

end Suspended

section
variable {α β : Type} {r : α → β → Prop} {xs : List α} {ys : List β}

theorem forall₂_getElem? (h : List.Forall₂ r xs ys) (i : Nat) : Option.Rel r xs[i]? ys[i]? := by
  induction h generalizing i with
  | nil => exact .none
  | cons first _ ih =>
    cases i with
    | zero => exact .some first
    | succ i => exact ih i

theorem forall₂_set (h : List.Forall₂ r xs ys) {x : α} {y : β} (new : r x y) (i : Nat) :
    List.Forall₂ r (xs.set i x) (ys.set i y) := by
  induction h generalizing i with
  | nil => exact .nil
  | cons first rest ih =>
    cases i with
    | zero => exact .cons new rest
    | succ i => exact .cons first (ih i)

end

inductive Stage.Alike (k : Likeness) (T : Place → Place → Prop) (ids : Naming) : Stage → Stage → Prop
  | waiting : Stage.Alike k T ids .waiting .waiting
  | running {point point' : Suspended} (alike : point.Alike k T ids point') :
    Stage.Alike k T ids (.running point) (.running point')
  | ended {reply reply' : Reply} (alike : reply.Alike k ids reply') :
    Stage.Alike k T ids (.ended reply) (.ended reply')

theorem Stage.Alike.mono {k : Likeness} {T : Place → Place → Prop} {ids ids' : Naming}
    (le : Subrelation ids ids') {stage stage' : Stage} (h : stage.Alike k T ids stage') :
    stage.Alike k T ids' stage' := by
  cases h with
  | waiting => exact .waiting
  | running point => exact .running (point.mono le)
  | ended alike => exact .ended (alike.mono le)

theorem Progress.Alike.stage {k : Likeness} {T : Place → Place → Prop} {ids : Naming}
    {progress progress' : Progress} (h : progress.Alike k T ids progress') :
    progress.stage.Alike k T ids progress'.stage := by
  cases h with
  | suspended point => exact .running point
  | finished alike => exact .ended alike

section
variable {k : Likeness} {R : Tie} {lost : Loss} {s s' : Setting} {call : Call} {feed : Feed}
  {T : Place → Place → Prop} (c : Course k R lost s s' call feed T)
  (transmits : Transmits k R s s' call feed) {places places' : List Place}
  (layers : List.Forall₂ T places places') {ids : Naming} {l l' : Ledger}

include c

namespace Task

include transmits layers in
theorem tracks_advance (cancelAt : Option Nat) {stage stage' : Stage}
    (alike : stage.Alike k T ids stage') (tied : R ids l l') :
    Tracks R lost (Stage.Alike k T) (advance s places ⟨call, cancelAt, stage⟩)
      (advance s' places' ⟨call.fed feed, cancelAt, stage'⟩) ids l l' := by
  cases alike with
  | waiting =>
    exact (Suspended.tracks_descend c .nil layers tied).map fun _ _ _ begun => begun.stage
  | running point =>
    exact (Suspended.tracks_resume c transmits point tied).map fun _ _ _ resumed => resumed.stage
  | ended alike => exact tracks_pure (.ended alike) tied

theorem likens_cancel (cancelAt : Option Nat) {stage stage' : Stage}
    (alike : stage.Alike k T ids stage') (tied : R ids l l') :
    Likens R (Stage.Alike k T) (cancel s ⟨call, cancelAt, stage⟩)
      (cancel s' ⟨call.fed feed, cancelAt, stage'⟩) ids l l' := by
  have fails := c.parallel.likens_fail tied cancellation (k.admits Family.noConfusion)
  cases alike with
  | waiting =>
    exact likens_bind fails fun _ _ _ _ _ _ error tied => likens_pure (.ended (.raised error)) tied
  | running point =>
    refine likens_bind fails fun _ _ _ _ _ le error tied => ?_
    exact likens_map (Suspended.likens_throw c error (point.mono le) tied)
      fun _ _ _ thrown => thrown.stage
  | ended alike => exact likens_pure (.ended alike) tied

end Task

include transmits layers in
theorem tracks_sendStepwise (fuel : Nat) (tied : R ids l l') :
    Tracks R lost (Sent.Alike k) (sendStepwise s call fuel places)
      (sendStepwise s' (call.fed feed) fuel places') ids l l' :=
  c.bind (Suspended.tracks_descend c .nil layers tied)
    (fun _ _ _ _ _ _ begun tied => Suspended.tracks_drive c transmits fuel begun tied)
    (Suspended.drive_acts fuel) (Suspended.drive_acts fuel)

include transmits layers in
theorem tracks_sendThrough (budget : Nat) (tied : R ids l l') :
    Tracks R lost (Sent.Alike k) (sendThrough s call budget places)
      (sendThrough s' (call.fed feed) budget places') ids l l' := by
  have sends := c.sendThrough budget layers (sendThrough_nil_alike budget transmits)
  rw [List.append_nil, List.append_nil] at sends
  exact sends.tracks tied

end

inductive Task.Alike (k : Likeness) (T : Place → Place → Prop) (fits : Call → Feed → Prop)
    (ids : Naming) : Task → Task → Prop
  | fed {call : Call} {feed : Feed} (fit : fits call feed) (cancelAt : Option Nat)
    {stage stage' : Stage} (alike : stage.Alike k T ids stage') :
    Task.Alike k T fits ids ⟨call, cancelAt, stage⟩ ⟨call.fed feed, cancelAt, stage'⟩

inductive Move.Alike (fits : Call → Feed → Prop) : Move → Move → Prop
  | resume (i : Nat) : Move.Alike fits (.resume i) (.resume i)
  | cancel (i : Nat) : Move.Alike fits (.cancel i) (.cancel i)
  | send {call : Call} {feed : Feed} (fit : fits call feed) (budget : Nat) :
    Move.Alike fits (.send call budget) (.send (call.fed feed) budget)
  | read (call : Nat) (id : ResponseId) : Move.Alike fits (.read call id) (.read call id)
  | close (call : Nat) (id : ResponseId) : Move.Alike fits (.close call id) (.close call id)

theorem Task.Alike.mono {k : Likeness} {T : Place → Place → Prop} {fits : Call → Feed → Prop}
    {ids ids' : Naming} (le : Subrelation ids ids') {t t' : Task} (h : t.Alike k T fits ids t') :
    t.Alike k T fits ids' t' := by
  cases h with
  | fed fit cancelAt alike => exact .fed fit cancelAt (alike.mono le)

/-- What all calls that are fed in two ways need to do alike and never be lost: layers that do,
innermost transports that do, and callers who read and close responses. -/
structure Concerted (k : Likeness) (R : Tie) (s : Setting) (fits : Call → Feed → Prop)
    (T : Place → Place → Prop) (places places' : List Place) : Prop where
  courses : ∀ {call feed}, fits call feed → Course k R .never s s call feed T
  transmits : ∀ {call feed}, fits call feed → Transmits k R s s call feed
  layers : List.Forall₂ T places places'
  read : ∀ {ids l l'}, R ids l l' → ∀ call id, Likens R (fun _ _ _ => True)
    (Work.read s.mode call id) (Work.read s.mode call id) ids l l'
  close : ∀ {ids l l'}, R ids l l' → ∀ call id, Likens R (fun _ _ _ => True)
    (Work.close s.mode call id) (Work.close s.mode call id) ids l l'

namespace Concerted

variable {k : Likeness} {R : Tie} {s : Setting} {fits : Call → Feed → Prop}
  {T : Place → Place → Prop} {places places' : List Place} {ids : Naming} {l l' : Ledger}
  (c : Concerted k R s fits T places places')

include c

theorem likens_send {call : Call} {feed : Feed} (fit : fits call feed) (budget : Nat)
    (tied : R ids l l') :
    Likens R (Sent.Alike k) (s.send places budget call) (s.send places' budget (call.fed feed))
      ids l l' := by
  unfold Setting.send
  cases s.mode with
  | blocking =>
    exact (tracks_sendThrough (c.courses fit) (c.transmits fit) c.layers budget tied).likens
  | suspending =>
    exact (tracks_sendStepwise (c.courses fit) (c.transmits fit) c.layers budget tied).likens

omit c in
theorem likens_moveAt {f f' : Task → Work Stage}
    (moves : ∀ {ids l l'} {call : Call} {feed : Feed}, fits call feed → ∀ cancelAt {stage stage'},
      stage.Alike k T ids stage' → R ids l l' →
      Likens R (Stage.Alike k T) (f ⟨call, cancelAt, stage⟩)
        (f' ⟨call.fed feed, cancelAt, stage'⟩) ids l l')
    {tasks tasks' : List Task} (i : Nat)
    (alike : List.Forall₂ (Task.Alike k T fits ids) tasks tasks') (tied : R ids l l') :
    Likens R (fun ids => List.Forall₂ (Task.Alike k T fits ids)) (moveAt f tasks i)
      (moveAt f' tasks' i) ids l l' := by
  have found := forall₂_getElem? alike i
  unfold moveAt
  cases here : tasks[i]? with
  | none =>
    rw [here] at found
    cases here' : tasks'[i]? with
    | none => exact likens_pure alike tied
    | some t' =>
      rw [here'] at found
      cases found
  | some t =>
    rw [here] at found
    cases here' : tasks'[i]? with
    | none =>
      rw [here'] at found
      cases found
    | some t' =>
      rw [here'] at found
      cases found with
      | some task =>
        cases task with
        | fed fit cancelAt stages =>
          refine likens_bind (moves fit cancelAt stages tied) fun _ _ _ _ _ le moved tied => ?_
          have later := alike.imp fun _ _ (task : Task.Alike k T fits ids _ _) => task.mono le
          exact likens_pure (forall₂_set later (.fed fit cancelAt moved) i) tied

theorem likens_apply {m m' : Move} {tasks tasks' : List Task} (same : m.Alike fits m')
    (alike : List.Forall₂ (Task.Alike k T fits ids) tasks tasks') (tied : R ids l l') :
    Likens R (fun ids => List.Forall₂ (Task.Alike k T fits ids)) (m.apply s places tasks)
      (m'.apply s places' tasks') ids l l' := by
  have later {ids'} (le : Subrelation ids ids') :
      List.Forall₂ (Task.Alike k T fits ids') tasks tasks' :=
    alike.imp fun _ _ (task : Task.Alike k T fits ids _ _) => task.mono le
  cases same with
  | resume i =>
    refine likens_moveAt (fun fit cancelAt _ _ alike tied => ?_) i alike tied
    exact (Task.tracks_advance (c.courses fit) (c.transmits fit) c.layers cancelAt alike tied).likens
  | cancel i =>
    exact likens_moveAt (fun fit cancelAt _ _ alike tied =>
      Task.likens_cancel (c.courses fit) cancelAt alike tied) i alike tied
  | send fit budget =>
    exact likens_bind (c.likens_send fit budget tied) fun _ _ _ _ _ le _ tied =>
      likens_pure (later le) tied
  | read call id =>
    exact likens_bind (c.read tied call id) fun _ _ _ _ _ le _ tied => likens_pure (later le) tied
  | close call id =>
    exact likens_bind (c.close tied call id) fun _ _ _ _ _ le _ tied => likens_pure (later le) tied

theorem likens_runMoves {moves moves' : List Move} {tasks tasks' : List Task}
    (same : List.Forall₂ (Move.Alike fits) moves moves')
    (alike : List.Forall₂ (Task.Alike k T fits ids) tasks tasks') (tied : R ids l l') :
    Likens R (fun ids => List.Forall₂ (Task.Alike k T fits ids)) (runMoves s places moves tasks)
      (runMoves s places' moves' tasks') ids l l' := by
  induction same generalizing tasks tasks' ids l l' with
  | nil => exact likens_pure alike tied
  | cons move _ ih =>
    exact likens_bind (c.likens_apply move alike tied) fun _ _ _ _ _ _ alike tied => ih alike tied

end Concerted

end HttpRetry
