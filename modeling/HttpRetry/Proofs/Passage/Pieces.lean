import HttpRetry.Proofs.Passage.Layer
/-!
A call's passage in the pieces of work that are done without a pause. A piece makes of the ledger what
the program makes of it, bodies and failures included; said in smaller steps, each piece is a walk.
-/
set_option autoImplicit false

namespace HttpRetry

open Work

def Point.worked (f : Frame) (outer : List Frame) (inner : List Place) (attempt : Attempt)
    (began : Rat) : Except Failure Unit → Point
  | .ok () => ⟨f :: outer, inner, .worked attempt began⟩
  | .error e => ⟨outer, f.place :: inner, .up (.raised e)⟩

def Point.waited (f : Frame) (outer : List Frame) (inner : List Place) :
    Except Failure Unit → Point
  | .ok () => ⟨f :: outer, inner, .ready⟩
  | .error e => ⟨outer, f.place :: inner, .up (.raised e)⟩

section
variable (s : Setting) (call : Call)

/-- The pieces of work on a call: the point and the ledger before and after. -/
inductive Does : Point → Ledger → Point → Ledger → Prop
  | enter {frames : List Frame} {p : Place} {inner : List Place}
      {entered : Except Failure (Option Timestamp)} {l l' : Ledger}
      (enters : p.enter s.mode call l = (entered, l')) :
      Does ⟨frames, p :: inner, .down⟩ l (.entered frames p inner entered) l'
  | transmit {frames : List Frame} {reply : Reply} {l l' : Ledger}
      (sends : call.transmit s.mode l = (reply, l')) :
      Does ⟨frames, [], .down⟩ l ⟨frames, [], .up reply⟩ l'
  | conclude {f : Frame} {outer : List Frame} {inner : List Place} {reply : Reply}
      {verdict : Verdict} {l l' : Ledger}
      (concludes : f.place.conclude s call f.start f.made reply l = (verdict, l')) :
      Does ⟨f :: outer, inner, .up reply⟩ l (verdict.point f outer inner) l'
  | skip {f : Frame} {outer : List Frame} {inner : List Place} {attempt : Attempt} {l : Ledger}
      (undelayed : f.place.layer.delay = none) :
      Does ⟨f :: outer, inner, .again attempt⟩ l ⟨f :: outer, inner, .ready⟩ l
  | delay {f : Frame} {outer : List Frame} {inner : List Place} {attempt : Attempt}
      {delay : Delayer} {l : Ledger} (delays : f.place.layer.delay = some delay) :
      Does ⟨f :: outer, inner, .again attempt⟩ l ⟨f :: outer, inner, .waiting delay attempt l.now⟩
        (f.place.logged call (.delaying attempt.count) l)
  | work {f : Frame} {outer : List Frame} {inner : List Place} {attempt : Attempt}
      {delay : Delayer} {began : Rat} {result : Except Failure Unit} {l l' : Ledger}
      (works : f.place.delayWork s.mode delay call attempt l = (result, l')) :
      Does ⟨f :: outer, inner, .waiting delay attempt began⟩ l
        (.worked f outer inner attempt began result) l'
  | done {f : Frame} {outer : List Frame} {inner : List Place} {attempt : Attempt} {began : Rat}
      {l : Ledger} :
      Does ⟨f :: outer, inner, .worked attempt began⟩ l ⟨f :: outer, inner, .ready⟩
        (f.place.delayed call s.timer attempt began l)
  | announce {f : Frame} {outer : List Frame} {inner : List Place} {l : Ledger} :
      Does ⟨f :: outer, inner, .ready⟩ l ⟨{ f with made := f.made + 1 } :: outer, inner, .down⟩
        (f.place.logged call (.retrying (f.made + 2)) l)
  /-- The failure that a cancelled call ends with is made. -/
  | fail {pt : Point} {l : Ledger} :
      Does pt l pt (l.adjustCall call.id fun c => { c with failures := c.failures + 1 })
  | cancel {frames : List Frame} {inner : List Place} {e : Failure} {l : Ledger}
      (waits : frames = [] ∨ inner = []) (interrupt : e.isInterrupt = true) :
      Does ⟨frames, inner, .down⟩ l ⟨frames, inner, .up (.raised e)⟩ l
  | thrown {f : Frame} {outer : List Frame} {inner : List Place} {phase : Phase} {e : Failure}
      {l : Ledger} (rests : phase.rests = true) (interrupt : e.isInterrupt = true) :
      Does ⟨f :: outer, inner, phase⟩ l ⟨outer, f.place :: inner, .up (.raised e)⟩
        (f.place.leaving call (.raised e) l)

abbrev Proceeds : Point × Ledger → Point × Ledger → Prop :=
  Relation.ReflTransGen fun before after => Does s call before.1 before.2 after.1 after.2

end

section
variable {s : Setting} {call : Call} {p : Place} {f : Frame} {outer frames : List Frame}
  {inner : List Place} {pt pt' : Point} {l l' : Ledger}

theorem Does.walks (does : Does s call pt l pt' l') : Walks s call (pt, l) (pt', l') := by
  cases does with
  | enter enters => exact (Place.enter_walks _ _).at enters
  | @transmit frames reply l l' sends =>
    have unmoved := perform_unmoved s.mode call.id (call.feed (l.calls call.id).sends).act
      (call.asking l)
    rw [Call.transmit_apply] at sends
    obtain ⟨-, rfl⟩ := Prod.mk.inj sends
    exact (Walks.step .transmit).tail (.pause unmoved)
  | conclude concludes => exact (conclude_walks _ _ _).at concludes
  | skip undelayed => exact .single (.skip undelayed)
  | delay delays => exact .single (.delay delays)
  | @work f outer inner attempt delay began result l l' works =>
    have walks := (delayWork_walks (s := s) outer inner delay attempt began).at works
    cases result with
    | ok u => exact walks
    | error e => exact walks
  | done => exact .single .done
  | announce => exact .single .announce
  | fail => exact .pause (.failing call.id l)
  | cancel waits interrupt => exact .single (.cancel waits interrupt)
  | thrown rests interrupt => exact .single (.thrown rests interrupt)

theorem Proceeds.step (does : Does s call pt l pt' l') : Proceeds s call (pt, l) (pt', l') :=
  .single does

/-- What each piece of a chain keeps, the chain keeps. -/
theorem Proceeds.keeps {I : Point → Ledger → Prop} (proceeds : Proceeds s call (pt, l) (pt', l'))
    (start : I pt l) (keeps : ∀ pt l pt' l', Does s call pt l pt' l' → I pt l → I pt' l') :
    I pt' l' := by
  have all : ∀ now, Proceeds s call (pt, l) now → I now.1 now.2 := by
    intro now proceeds
    induction proceeds with
    | refl => exact start
    | tail _ step ih => exact keeps _ _ _ _ step ih
  exact all _ proceeds

theorem Proceeds.walks (proceeds : Proceeds s call (pt, l) (pt', l')) :
    Walks s call (pt, l) (pt', l') :=
  proceeds.keeps (I := fun now l₁ => Walks s call (pt, l) (now, l₁)) .refl
    fun _ _ _ _ does before => before.trans does.walks

theorem enter_proceeds (frames : List Frame) (inner : List Place) :
    (p.enter s.mode call).Yields l fun entered l' =>
      Proceeds s call (⟨frames, p :: inner, .down⟩, l) (.entered frames p inner entered, l') :=
  .single (.enter rfl)

theorem transmit_proceeds (frames : List Frame) :
    (call.transmit s.mode).Yields l fun reply l' =>
      Proceeds s call (⟨frames, [], .down⟩, l) (⟨frames, [], .up reply⟩, l') :=
  .single (.transmit rfl)

theorem conclude_proceeds (outer : List Frame) (inner : List Place) (reply : Reply) :
    (f.place.conclude s call f.start f.made reply).Yields l fun verdict l' =>
      Proceeds s call (⟨f :: outer, inner, .up reply⟩, l) (verdict.point f outer inner, l') :=
  .single (.conclude rfl)

theorem delayWork_proceeds (outer : List Frame) (inner : List Place) (delay : Delayer)
    (attempt : Attempt) (began : Rat) :
    (f.place.delayWork s.mode delay call attempt).Yields l fun result l' =>
      Proceeds s call (⟨f :: outer, inner, .waiting delay attempt began⟩, l)
        (.worked f outer inner attempt began result, l') :=
  .single (.work rfl)

theorem waitBlocking_proceeds (outer : List Frame) (inner : List Place) (attempt : Attempt) :
    (f.place.waitBlocking s call attempt).Yields l fun result l' =>
      Proceeds s call (⟨f :: outer, inner, .again attempt⟩, l) (.waited f outer inner result, l') := by
  unfold Place.waitBlocking
  cases delays : f.place.layer.delay with
  | none => exact .single (.skip delays)
  | some delay =>
    refine yields_bind (Place.report_logged (.delaying attempt.count)) fun _ l₁ logged => ?_
    subst logged
    have begins : Proceeds s call (⟨f :: outer, inner, .again attempt⟩, l)
        (⟨f :: outer, inner, .waiting delay attempt l.now⟩,
          f.place.logged call (.delaying attempt.count) l) := .single (.delay delays)
    refine yields_get (yields_bind (delayWork_proceeds (s := s) outer inner delay attempt l.now)
      fun result l₂ works => ?_)
    cases result with
    | error e => exact yields_pure (begins.trans works)
    | ok u => exact (begins.trans works).tail .done

end

end HttpRetry
