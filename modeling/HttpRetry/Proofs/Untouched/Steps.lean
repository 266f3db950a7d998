import HttpRetry.Proofs.Closing.Moves
import HttpRetry.Proofs.Untouched
set_option autoImplicit false

namespace HttpRetry

open Work

namespace Suspended

variable {s : Setting} {call : Call} {r : ResponseRef} {l l' : Ledger}

theorem deliver_response {frames : List Frame} {inner : List Place} {reply : Reply}
    (ends : deliver s call frames inner reply l = (.finished (.response r), l')) :
    reply = .response r ∧ (∀ f ∈ frames, f.place.layer.forced = none) ∧ l.Quiet l' := by
  induction frames generalizing inner reply l with
  | nil =>
    rw [deliver, pure_apply, Prod.mk.injEq] at ends
    obtain ⟨ended, rfl⟩ := ends
    injection ended with same
    exact ⟨same, fun f mem => absurd mem List.not_mem_nil, .refl l⟩
  | cons f outer ih =>
    cases concluded : f.place.conclude s call f.start f.made reply l with
    | mk verdict l₁ =>
    cases verdict with
    | finished reply' =>
      have concludes := congrArg Prod.fst concluded
      rw [deliver_of_finished concludes, concluded] at ends
      obtain ⟨rfl, unforced, rest⟩ := ih ends
      obtain ⟨same, free, first⟩ := Place.conclude_response concludes
      rw [concluded] at first
      refine ⟨same, fun g mem => ?_, first.trans rest⟩
      rcases List.mem_cons.mp mem with rfl | mem
      · exact free
      · exact unforced g mem
    | again attempt =>
      rw [deliver_of_again concluded] at ends
      unfold wait at ends
      cases delay : f.place.layer.delay with
      | none =>
        rw [delay] at ends
        cases ends
      | some delay' =>
        rw [delay] at ends
        cases ends

theorem descend_ne_response (frames : List Frame) (inner : List Place) :
    (descend s call frames inner l).1 ≠ .finished (.response r) := by
  induction inner generalizing frames l with
  | nil => exact fun h => by cases h
  | cons p inner ih =>
    rw [descend, bind_apply]
    cases (p.enter s.mode call l).1 with
    | error e =>
      intro ends
      have raised := (deliver_response (Prod.ext ends rfl)).1
      cases raised
    | ok start => exact ih _

theorem nextRound_ne_response (f : Frame) (outer : List Frame) (inner : List Place) :
    (nextRound s call f outer inner l).1 ≠ .finished (.response r) := by
  rw [nextRound, bind_apply]
  exact descend_ne_response _ _

theorem resume_response {point : Suspended}
    (ends : point.resume s call l = (.finished (.response r), l')) :
    ∃ frames l₁, point = .sending frames ∧ (∀ f ∈ frames, f.place.layer.forced = none) ∧
      call.transmit s.mode l = (.response r, l₁) ∧ l₁.Quiet l' := by
  cases point with
  | sending frames =>
    cases sent : call.transmit s.mode l with
    | mk reply l₁ =>
    rw [resume, bind_apply, sent] at ends
    obtain ⟨rfl, unforced, quiet⟩ := deliver_response ends
    exact ⟨frames, l₁, rfl, unforced, rfl, quiet⟩
  | beforeDelay delay attempt began f outer inner =>
    rw [resume, bind_apply] at ends
    cases worked : (f.place.delayWork s.mode delay call attempt l).1 with
    | error e =>
      rw [worked] at ends
      have raised := (deliver_response ends).1
      cases raised
    | ok u =>
      rw [worked] at ends
      cases ends
  | afterDelay attempt began f outer inner =>
    rw [resume, bind_apply] at ends
    have ended := congrArg Prod.fst ends
    exact absurd ended (nextRound_ne_response f outer inner)
  | ready f outer inner =>
    have ended := congrArg Prod.fst ends
    exact absurd ended (nextRound_ne_response f outer inner)

theorem throw_ne_response (e : Failure) (point : Suspended) :
    (point.throw s call e l).1 ≠ .finished (.response r) := by
  intro ends
  have delivered : ∃ frames inner e' l₁, (deliver s call frames inner (.raised e') l₁).1 =
      .finished (.response r) := by
    cases point with
    | sending frames => exact ⟨_, _, _, _, ends⟩
    | beforeDelay delay attempt began f outer inner => exact ⟨_, _, _, _, ends⟩
    | afterDelay attempt began f outer inner => exact ⟨_, _, _, _, ends⟩
    | ready f outer inner => exact ⟨_, _, _, _, ends⟩
  obtain ⟨frames, inner, e', l₁, ended⟩ := delivered
  have raised := (deliver_response (Prod.ext ended rfl)).1
  cases raised

/-- The layers that a suspended call goes through, those that it has not entered among them. -/
def stack : Suspended → List Place
  | .sending frames => (frames.map Frame.place).reverse
  | .beforeDelay _ _ _ f outer inner | .afterDelay _ _ f outer inner | .ready f outer inner =>
    (outer.map Frame.place).reverse ++ f.place :: inner

end Suspended

def Progress.On (places : List Place) : Progress → Prop
  | .suspended point => point.stack = places
  | .finished _ => True

namespace Suspended

variable {s : Setting} {call : Call} {l : Ledger}

theorem deliver_on (frames : List Frame) (inner : List Place) (reply : Reply) :
    (deliver s call frames inner reply).Yields l fun progress _ =>
      progress.On ((frames.map Frame.place).reverse ++ inner) := by
  induction frames generalizing inner reply l with
  | nil => trivial
  | cons f outer ih =>
    have split : ((f :: outer).map Frame.place).reverse ++ inner =
        (outer.map Frame.place).reverse ++ f.place :: inner := by simp
    rw [split]
    refine yields_after fun verdict _ => ?_
    cases verdict with
    | finished reply => exact ih (f.place :: inner) reply
    | again attempt =>
      simp only
      cases f.place.layer.delay with
      | none => exact yields_pure rfl
      | some delay => exact yields_after fun _ _ => yields_get rfl

theorem descend_on (frames : List Frame) (inner : List Place) :
    (descend s call frames inner).Yields l fun progress _ =>
      progress.On ((frames.map Frame.place).reverse ++ inner) := by
  induction inner generalizing frames l with
  | nil =>
    rw [List.append_nil]
    rfl
  | cons p inner ih =>
    refine yields_after fun entered l₁ => ?_
    cases entered with
    | error e => exact deliver_on frames (p :: inner) (.raised e)
    | ok start =>
      have below := @ih l₁ (⟨p, start, 0⟩ :: frames)
      simpa using below

theorem nextRound_on (f : Frame) (outer : List Frame) (inner : List Place) :
    (nextRound s call f outer inner).Yields l fun progress _ =>
      progress.On ((outer.map Frame.place).reverse ++ f.place :: inner) := by
  refine yields_after fun _ l₁ => ?_
  have below := @descend_on s call l₁ ({ f with made := f.made + 1 } :: outer) inner
  simpa using below

theorem resume_on (point : Suspended) :
    (point.resume s call).Yields l fun progress _ => progress.On point.stack := by
  cases point with
  | sending frames =>
    refine yields_after fun reply l₁ => ?_
    have above := @deliver_on s call l₁ frames [] reply
    simpa [stack] using above
  | beforeDelay delay attempt began f outer inner =>
    refine yields_after fun result _ => ?_
    cases result with
    | error e => exact deliver_on outer (f.place :: inner) (.raised e)
    | ok u => rfl
  | afterDelay attempt began f outer inner =>
    exact yields_after fun _ _ => nextRound_on f outer inner
  | ready f outer inner => exact nextRound_on f outer inner

theorem throw_on (e : Failure) (point : Suspended) :
    (point.throw s call e).Yields l fun progress _ => progress.On point.stack := by
  cases point with
  | sending frames =>
    have above := @deliver_on s call l frames [] (.raised (e.outOf s.mode.routine))
    simpa [stack, throw] using above
  | beforeDelay delay attempt began f outer inner =>
    exact yields_after fun _ _ => deliver_on outer (f.place :: inner) (.raised _)
  | afterDelay attempt began f outer inner =>
    exact yields_after fun _ _ => deliver_on outer (f.place :: inner) (.raised _)
  | ready f outer inner => exact yields_after fun _ _ => deliver_on outer (f.place :: inner) (.raised _)

end Suspended

theorem Call.begin_on (s : Setting) (call : Call) (places : List Place) (l : Ledger) :
    (call.begin s places).Yields l fun progress _ => progress.On places :=
  Suspended.descend_on [] places

theorem Call.begin_ne_response (s : Setting) (call : Call) (places : List Place) (l : Ledger)
    (r : ResponseRef) : (call.begin s places l).1 ≠ .finished (.response r) :=
  Suspended.descend_ne_response [] places

def Stage.On (places : List Place) : Stage → Prop
  | .waiting => True
  | .running point => point.stack = places
  | .ended reply => ∀ r, reply = .response r → ∀ p ∈ places, p.layer.forced = none

theorem Progress.On.stage {places : List Place} {progress : Progress} (on : progress.On places)
    (unforced : ∀ r, progress = .finished (.response r) → ∀ p ∈ places, p.layer.forced = none) :
    progress.stage.On places := by
  cases progress with
  | suspended point => exact on
  | finished reply => exact fun r same => unforced r (congrArg Progress.finished same)

theorem Progress.stage_eq_ended {progress : Progress} {reply : Reply}
    (h : progress.stage = .ended reply) : progress = .finished reply := by
  cases progress with
  | suspended point => cases h
  | finished reply' =>
    injection h with same
    rw [same]

namespace Task

variable {t : Task} {s : Setting} {places : List Place} {l l' : Ledger} {r : ResponseRef}

theorem advance_response (on : t.stage.On places) (going : t.isEnded = false)
    (ends : t.advance s places l = (.ended (.response r), l')) :
    (∀ p ∈ places, p.layer.forced = none) ∧
      ∃ l₁, t.call.transmit s.mode l = (.response r, l₁) ∧ l₁.Quiet l' := by
  unfold advance at ends
  unfold isEnded at going
  cases stage : t.stage with
  | waiting =>
    rw [stage] at ends
    have finished := Progress.stage_eq_ended (congrArg Prod.fst ends)
    exact absurd finished (t.call.begin_ne_response s places l r)
  | running point =>
    rw [stage] at ends on
    have finished := Progress.stage_eq_ended (congrArg Prod.fst ends)
    have after : (point.resume s t.call l).2 = l' := congrArg Prod.snd ends
    obtain ⟨frames, l₁, rfl, unforced, sent, quiet⟩ :=
      Suspended.resume_response (Prod.ext finished after)
    have stacked : (frames.map Frame.place).reverse = places := on
    refine ⟨fun p mem => ?_, l₁, sent, quiet⟩
    rw [← stacked] at mem
    obtain ⟨f, framed, rfl⟩ := List.mem_map.mp (List.mem_reverse.mp mem)
    exact unforced f framed
  | ended reply =>
    rw [stage] at going
    cases going

theorem cancel_ne_response (going : t.isEnded = false) :
    (t.cancel s l).1 ≠ .ended (.response r) := by
  unfold cancel
  unfold isEnded at going
  cases stage : t.stage with
  | waiting => exact fun h => by cases h
  | running point =>
    intro h
    have finished := Progress.stage_eq_ended h
    exact point.throw_ne_response _ finished
  | ended reply =>
    rw [stage] at going
    cases going

theorem advance_on (on : t.stage.On places) :
    (t.advance s places).Yields l fun stage _ => stage.On places := by
  cases ended : t.isEnded with
  | true =>
    unfold isEnded at ended
    unfold advance
    cases stage : t.stage with
    | ended reply =>
      rw [stage] at on
      exact on
    | waiting =>
      rw [stage] at ended
      cases ended
    | running point =>
      rw [stage] at ended
      cases ended
  | false =>
    have responds : ∀ r, (t.advance s places l).1 = .ended (.response r) →
        ∀ p ∈ places, p.layer.forced = none := fun r ends =>
      (advance_response on ended (Prod.ext ends rfl)).1
    unfold advance at responds ⊢
    cases stage : t.stage with
    | waiting =>
      rw [stage] at responds
      have begun := t.call.begin_on s places l
      exact begun.stage fun r same => responds r (congrArg Progress.stage same)
    | running point =>
      rw [stage] at responds on
      have resumed := @Suspended.resume_on s t.call l point
      rw [show point.stack = places from on] at resumed
      exact resumed.stage fun r same => responds r (congrArg Progress.stage same)
    | ended reply =>
      rw [stage] at on
      exact on

theorem cancel_on (on : t.stage.On places) :
    (t.cancel s).Yields l fun stage _ => stage.On places := by
  unfold cancel
  cases stage : t.stage with
  | waiting => exact fun r same => by cases same
  | running point =>
    rw [stage] at on
    refine yields_after fun e l₁ => ?_
    have thrown := @Suspended.throw_on s t.call l₁ e point
    rw [show point.stack = places from on] at thrown
    exact thrown.stage fun r same => absurd same (point.throw_ne_response e)
  | ended reply =>
    rw [stage] at on
    exact on

end Task

section
variable {s : Setting} {places : List Place} {tasks : List Task} {l : Ledger}

theorem moveAt_on {f : Task → Work Stage} (i : Nat) (on : ∀ t ∈ tasks, t.stage.On places)
    (keeps : ∀ t l, t.stage.On places → (f t).Yields l fun stage _ => stage.On places) :
    (moveAt f tasks i).Yields l fun tasks' _ => ∀ t ∈ tasks', t.stage.On places := by
  unfold moveAt
  cases found : tasks[i]? with
  | none => exact on
  | some t =>
    have mem : t ∈ tasks := List.mem_of_getElem? found
    refine yields_bind (keeps t l (on t mem)) fun stage l' moved t' mem' => ?_
    rcases List.mem_or_eq_of_mem_set mem' with old | rfl
    · exact on t' old
    · exact moved

/-- All that any calls bring about is a chain of changes, so what such chains keep, moves keep. -/
theorem moveAt_keeps {P : Ledger → Prop} {f : Task → Work Stage} (i : Nat)
    (brings : ∀ t l, (f t).Makes t.call (fun _ => True) (.round true) l)
    (keeps : ∀ {call l l'}, Changes call (fun _ => True) (.round true) l l' → P l → P l')
    (hl : P l) : (moveAt f tasks i).Yields l fun _ l' => P l' := by
  unfold moveAt
  cases tasks[i]? with
  | none => exact hl
  | some t => exact keeps (brings t l) hl

theorem Stage.within_all (stage : Stage) : stage.Within fun _ => True := by
  cases stage with
  | ended reply => exact fun _ _ => trivial
  | _ => trivial

theorem Move.apply_keeps {P : Ledger → Prop}
    (keeps : ∀ {call l l'}, Changes call (fun _ => True) (.round true) l l' → P l → P l')
    (m : Move) (hl : P l) : (m.apply s places tasks).Yields l fun _ l' => P l' := by
  cases m with
  | resume i =>
    refine moveAt_keeps i (fun t l => ?_) keeps hl
    have made := t.advance_brings (l := l) t.call.confined_all t.stage.within_all s places
    exact made.mono fun _ _ h => h.1
  | cancel i =>
    refine moveAt_keeps i (fun t l => ?_) keeps hl
    have made := t.cancel_brings (l := l) t.stage.within_all s
    exact made.mono fun _ _ h => h.1
  | send call budget =>
    have made := Setting.send_brings (l := l) call.confined_all s places budget
    exact keeps made.1 hl
  | read call id =>
    have made : (Work.read s.mode (Call.idle call).id id).Makes (Call.idle call) (fun _ => True)
      (.round true) l := read_makes trivial s.mode
    exact keeps made hl
  | close call id =>
    have made : (Work.close s.mode (Call.idle call).id id).Makes (Call.idle call) (fun _ => True)
      (.round true) l := close_makes trivial s.mode
    exact keeps made hl

theorem Move.apply_on (m : Move) (on : ∀ t ∈ tasks, t.stage.On places) :
    (m.apply s places tasks).Yields l fun tasks' _ => ∀ t ∈ tasks', t.stage.On places := by
  cases m with
  | resume i => exact moveAt_on i on fun t _ ht => t.advance_on ht
  | cancel i => exact moveAt_on i on fun t _ ht => t.cancel_on ht
  | send call budget => exact yields_after fun _ _ => on
  | read call id => exact yields_after fun _ _ => on
  | close call id => exact yields_after fun _ _ => on

theorem runMoves_reaches (moves : List Move) (numbered : l.Numbered)
    (on : ∀ t ∈ tasks, t.stage.On places) :
    (runMoves s places moves tasks).Yields l fun tasks' l' =>
      l'.Numbered ∧ ∀ t ∈ tasks', t.stage.On places := by
  induction moves generalizing tasks l with
  | nil => exact ⟨numbered, on⟩
  | cons m rest ih =>
    have kept : (m.apply s places tasks).Yields l fun _ l' => l'.Numbered :=
      m.apply_keeps (fun changes hl => changes.numbered hl) numbered
    exact yields_bind (kept.and (m.apply_on on)) fun tasks' l' reached => ih reached.1 reached.2

end

end HttpRetry
