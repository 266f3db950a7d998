import HttpRetry.Proofs.Likeness.Reading
import HttpRetry.Proofs.Likeness.Steps
import HttpRetry.Proofs.Lockstep
import HttpRetry.Proofs.Passage.Plain
import HttpRetry.Proofs.Timeless
/-!
One call in two runs, each at its own times and with other calls beside it: what concerns the call is
the same in both but for the times.
-/
set_option autoImplicit false

namespace HttpRetry

open Work

section
variable {k : Likeness} {ids : Naming} (same : ∀ a b, ids a b → a = b)

mutual

theorem Failure.Alike.timeless (same : ∀ a b, ids a b → a = b) {e e' : Failure} :
    e.Alike k ids e' → e'.timeless = e.timeless
  | .raised named _ => by rw [same _ _ named]
  | .detailed named => by rw [same _ _ named]
  | .aborted named attempt => by
    rw [same _ _ named, Failure.timeless, Failure.timeless, Attempt.Alike.timeless same attempt]
  | .exhausted named attempt => by
    rw [same _ _ named, Failure.timeless, Failure.timeless, Attempt.Alike.timeless same attempt]
  | .turned named original => by
    rw [same _ _ named, Failure.timeless, Failure.timeless, Failure.Alike.timeless same original]

theorem Attempt.Alike.timeless (same : ∀ a b, ids a b → a = b) {a a' : Attempt} :
    a.Alike k ids a' → a'.timeless = a.timeless
  | .clean _ _ => rfl
  | .failed _ _ error => by
    rw [Attempt.timeless, Attempt.timeless, Failure.Alike.timeless same error]

end

include same

theorem Reply.Alike.timeless {reply reply' : Reply} (h : reply.Alike k ids reply') :
    reply'.timeless = reply.timeless := by
  cases h with
  | response r => rfl
  | raised error => rw [Reply.timeless, Reply.timeless, error.timeless same]
  | nothing => rfl

theorem Notice.Alike.timeless {n n' : Notice} (h : n.Alike k ids n') :
    n'.timeless = n.timeless := by
  cases h with
  | requestError count error => rw [Notice.timeless, Notice.timeless, error.timeless same]
  | retryerError count decision error => rw [Notice.timeless, Notice.timeless, error.timeless same]
  | drainError count error => rw [Notice.timeless, Notice.timeless, error.timeless same]
  | aborting count error => rw [Notice.timeless, Notice.timeless, error.timeless same]
  | _ => rfl

theorem Event.Alike.timeless (layers : k.layer = id) {e e' : Event} (h : e.Alike k ids e') :
    e'.timeless = e.timeless := by
  cases h with
  | received call layer reply => simp only [Event.timeless, layer, layers, id, reply.timeless same]
  | asked call layer attempt => simp only [Event.timeless, layer, layers, id, attempt.timeless same]
  | answered call layer attempt =>
    simp only [Event.timeless, layer, layers, id, attempt.timeless same]
  | delaying call layer attempt =>
    simp only [Event.timeless, layer, layers, id, attempt.timeless same]
  | delayed call layer attempt =>
    simp only [Event.timeless, layer, layers, id, attempt.timeless same]
  | left call layer reply => simp only [Event.timeless, layer, layers, id, reply.timeless same]
  | logged call layer sink request notice =>
    simp only [Event.timeless, LogEntry.timeless, layer, layers, id, notice.timeless same]
  | entered call layer => simp only [Event.timeless, layer, layers, id]
  | refused call layer => simp only [Event.timeless, layer, layers, id]
  | bound call layer => simp only [Event.timeless, layer, layers, id]
  | releasing call layer => simp only [Event.timeless, layer, layers, id]
  | _ => rfl

variable {T : Place → Place → Prop} (places : ∀ p p', T p p' → p' = p)

omit same in
include places in
theorem Frame.Alike.timeless {f f' : Frame} (h : f.Alike k T f') : f'.timeless = f.timeless := by
  cases h with
  | entered related dated made => simp only [Frame.timeless, places _ _ related]

omit same in
include places in
theorem frames_timeless {frames frames' : List Frame}
    (h : List.Forall₂ (Frame.Alike k T) frames frames') :
    frames'.map Frame.timeless = frames.map Frame.timeless := by
  induction h with
  | nil => rfl
  | cons first _ ih => rw [List.map_cons, List.map_cons, ih, first.timeless places]

omit same in
include places in
theorem places_eq {inner inner' : List Place} (h : List.Forall₂ T inner inner') : inner' = inner := by
  induction h with
  | nil => rfl
  | cons first _ ih => rw [ih, places _ _ first]

include places

theorem Suspended.Alike.timeless {point point' : Suspended} (h : point.Alike k T ids point') :
    point'.timeless = point.timeless := by
  cases h with
  | sending outer => simp only [Suspended.timeless, frames_timeless places outer]
  | beforeDelay attempt timed own waiting outer inner =>
    simp only [Suspended.timeless, attempt.timeless same, waiting.timeless places,
      frames_timeless places outer, places_eq places inner]
  | afterDelay attempt timed waiting outer inner =>
    simp only [Suspended.timeless, attempt.timeless same, waiting.timeless places,
      frames_timeless places outer, places_eq places inner]
  | ready next outer inner =>
    simp only [Suspended.timeless, next.timeless places, frames_timeless places outer,
      places_eq places inner]

theorem Stage.Alike.timeless {stage stage' : Stage} (h : stage.Alike k T ids stage') :
    stage'.timeless = stage.timeless := by
  cases h with
  | waiting => rfl
  | running point => rw [Stage.timeless, Stage.timeless, point.timeless same places]
  | ended reply => rw [Stage.timeless, Stage.timeless, reply.timeless same]

end

/-- Runs of a call at times of their own, in each of which it meets its own responses only. -/
abbrev separately (call : Nat) : Likeness :=
  { dated := False, timed := False, reach := fun id => id.call = call }

/-- What concerns a call is the same in two ledgers but for the times. -/
structure Mirrored (call : Nat) (l l' : Ledger) : Prop where
  state : l'.calls call = l.calls call
  response : ∀ serial, l'.response? ⟨call, serial⟩ = l.response? ⟨call, serial⟩
  cause : ∀ id : FailureId, (∀ other, id.maker? = some other → other = call) →
    (l'.cause? id).map Failure.timeless = (l.cause? id).map Failure.timeless
  events : (l'.eventsOf call).map Event.timeless = (l.eventsOf call).map Event.timeless

/-- A call whose outcomes never hand out a response that was built for another one. -/
def Call.IsPrivate (call : Call) : Prop := ∀ n index, (call.feed n).act ≠ .again index

theorem Call.IsPrivate.confined {call : Call} (own : call.IsPrivate) :
    call.Confined fun id => id.call = call.id :=
  ⟨fun _ => rfl, fun n index h => absurd h (own n index)⟩

/-- A layer that treats all calls alike: its retryer is a default one, and its delayer, if it has
one, behaves the same each time. -/
structure Layer.Uniform (layer : Layer) : Prop where
  standard : ∃ policy, layer.retryer = .standard policy
  constant : ∀ delay, layer.delay = some delay → ∀ asked, delay asked = delay 0

def Place.Uniform (layers : List Layer) (p p' : Place) : Prop :=
  p' = p ∧ p.In layers ∧ p.layer.Uniform

theorem Layer.Uniform.unscripted {layer : Layer} (uniform : layer.Uniform) :
    layer.retryer.isScripted = false := by
  obtain ⟨policy, standard⟩ := uniform.standard
  rw [standard]
  rfl

def Clock.Fails (clock : Clock) : Prop := ∃ spec, ∀ use now, clock.dial use now = .error spec

/-- Only layers whose clocks always fail have refused a call. -/
def Ledger.Serves (layers : List Layer) (call : Nat) (l : Ledger) : Prop :=
  ∀ i, .refused call i ∈ l.journal → ∃ layer, layers[i]? = some layer ∧ layer.clock.Fails

/-- Two runs of a call in one of which a clock has refused it that does not always do so. -/
def Unserved (layers : List Layer) (call : Nat) : Loss := fun l l' =>
  ¬ l.Serves layers call ∨ ¬ l'.Serves layers call

theorem Ledger.serves_of_changes {layers : List Layer} {call : Nat} {mover : Call}
    {reach : ResponseId → Prop} {scope : Scope} {l l' : Ledger}
    (changes : Changes mover reach scope l l') (served : l'.Serves layers call) :
    l.Serves layers call := fun i refused => by
  have mem : .refused call i ∈ l.trace := List.mem_reverse.mpr refused
  exact served i (List.mem_reverse.mp (changes.trace_isPrefix.mem mem))

namespace Mirrored

variable {call : Nat} {l l' l'' : Ledger}

theorem refl (call : Nat) (l : Ledger) : Mirrored call l l := ⟨rfl, fun _ => rfl, fun _ _ => rfl, rfl⟩

theorem symm (h : Mirrored call l l') : Mirrored call l' l :=
  ⟨h.state.symm, fun serial => (h.response serial).symm, fun id own => (h.cause id own).symm,
    h.events.symm⟩

theorem trans (h : Mirrored call l l') (h' : Mirrored call l' l'') : Mirrored call l l'' :=
  ⟨h'.state.trans h.state, fun serial => (h'.response serial).trans (h.response serial),
    fun id own => (h'.cause id own).trans (h.cause id own), h'.events.trans h.events⟩

theorem apart {layers : List Layer} {other : Call} {scope : Scope}
    (changes : Changes other (fun id => id.call = other.id) scope l l')
    (spares : Spares layers other.id l l') (ne : call ≠ other.id) : Mirrored call l l' where
  state := changes.calls_of_ne ne
  response serial := changes.response?_of_ne (fun _ h => h) ne
  cause id own := by rw [spares.causes id fun made => ne (own _ made).symm]
  events := by rw [changes.eventsOf_of_ne ne]

theorem note (h : Mirrored call l l') {e e' : Event} (own : e.call = call)
    (alike : e'.timeless = e.timeless) : Mirrored call (l.note e) (l'.note e') where
  state := h.state
  response := h.response
  cause := h.cause
  events := by
    have own' : e'.call = call := by rw [← e'.call_timeless, alike, e.call_timeless, own]
    subst own
    have noted := Ledger.eventsOf_note_self l' e'
    rw [own'] at noted
    rw [noted, Ledger.eventsOf_note_self, List.map_append, List.map_append, h.events]
    simp only [List.map_cons, List.map_nil, alike]

theorem adjustCall (h : Mirrored call l l') (f : CallState → CallState) :
    Mirrored call (l.adjustCall call f) (l'.adjustCall call f) :=
  { h with state := by simp only [Ledger.adjustCall, updateAt_self, h.state] }

theorem setCause (h : Mirrored call l l') (id : FailureId) {e e' : Failure}
    (alike : e'.timeless = e.timeless) :
    Mirrored call { l with causes := (id, e) :: l.causes } { l' with causes := (id, e') :: l'.causes } :=
  { h with
    cause := fun id' own => by
      have before := h.cause id' own
      unfold Ledger.cause? at before ⊢
      rw [List.lookup_cons, List.lookup_cons]
      cases id' == id with
      | true => simp only [Option.map_some, alike]
      | false => exact before }

theorem adjustResponse (h : Mirrored call l l') (id : ResponseId) (f : Response → Response) :
    Mirrored call (l.adjustResponse id f) (l'.adjustResponse id f) :=
  { h with
    response := fun serial => by
      rw [Ledger.response?_adjustResponse, Ledger.response?_adjustResponse, h.response] }

theorem build (h : Mirrored call l l') (r : Response) :
    Mirrored call (l.build call r) (l'.build call r) :=
  { h with
    state := by
      simp only [Ledger.build, updateAt_self, h.state]
    response := fun serial => by
      rw [Ledger.response?_build, Ledger.response?_build, h.response, h.state] }

theorem parallel (call : Nat) : Parallel (separately call) call (Together (Mirrored call)) where
  shared tied _ := (tied.1 _ _).mpr rfl
  unique tied a a' b b' ha hb := by rw [(tied.1 _ _).mp ha, (tied.1 _ _).mp hb]
  now timed := timed.elim
  fresh := by
    intro ids l l' tied
    have counted : (l'.calls call).failures = (l.calls call).failures := by rw [tied.2.state]
    exact ⟨ids, fun h => h, (tied.1 _ _).mpr (by rw [counted]), tied.1, tied.2.adjustCall _⟩
  note tied _ _ own alike :=
    ⟨tied.1, tied.2.note own (alike.timeless (fun _ _ named => (tied.1 _ _).mp named) rfl)⟩
  useClock tied _ _ := ⟨tied.1, { tied.2 with }⟩
  ask tied _ := ⟨tied.1, { tied.2 with }⟩
  delay tied _ := ⟨tied.1, { tied.2 with }⟩
  advance tied _ := ⟨tied.1, { tied.2 with }⟩
  cause tied id id' e e' named alike := by
    obtain rfl := (tied.1 _ _).mp named
    exact ⟨tied.1, tied.2.setCause id (alike.timeless fun _ _ named => (tied.1 _ _).mp named)⟩

theorem known (h : Mirrored call l l') {mode : Mode} {id : ResponseId} (own : id.call = call) :
    KnownAlike (separately call) mode mode (l.response? id) (l'.response? id) := by
  obtain ⟨_, serial⟩ := id
  cases own
  exact .of_eq trivial (h.response serial)

theorem resends (mode : Mode) {call : Call} (own : call.IsPrivate) :
    Resends (separately call.id) (Together (Mirrored call.id)) mode mode call where
  adjust tied id _ f _ := ⟨tied.1, tied.2.adjustResponse id f⟩
  counted tied _ _ := ⟨tied.1, { tied.2 with }⟩
  drained tied := ⟨tied.1, { tied.2 with }⟩
  confined := own.confined
  sends tied := by rw [tied.2.state]
  send tied := ⟨tied.1, tied.2.adjustCall _⟩
  built tied := by rw [tied.2.state]
  build tied r r' alike := by
    obtain rfl := alike.eq
    have after := tied.2.build r'
    exact ⟨⟨tied.1, after⟩, after.known rfl⟩
  listed tied n index again := absurd again (own n index)
  known tied serial := by rw [tied.2.response]

section
variable {layers : List Layer} {s : Setting} {call : Call} {p : Place} {ids : Naming} {l l' : Ledger}

/-- A refusal of a clock that does not always fail leaves a call unserved. -/
theorem unserved_refuse {mode : Mode} {spec : FailureSpec} (hp : p.In layers)
    (varies : ¬ p.layer.clock.Fails) (l : Ledger) :
    ¬ (p.refuse mode call spec l).2.Serves layers call.id := by
  intro served
  obtain ⟨layer, found, fails⟩ := served p.index (.tail _ (.head _))
  cases hp.symm.trans found
  exact varies fails

/-- A layer that takes a call up in one of the runs does so in the other, unless its clock fails in
one of them and does not always do so. -/
theorem enters (hp : p.In layers) (tied : Together (Mirrored call.id) ids l l') :
    Tracks (Together (Mirrored call.id)) (Unserved layers call.id)
      (Place.Entered (separately call.id)) (p.enter s.mode call) (p.enter s.mode call) ids l l' := by
  have h := parallel call.id
  have modes : (separately call.id).endings → s.mode = s.mode := fun _ => rfl
  have binds : Likens (Together (Mirrored call.id)) Any (p.bind call) (p.bind (call.fed call.feed))
      ids l l' := p.likens_binds h rfl rfl tied
  refine binds.before fun _ _ _ l₁ l₁' _ _ tied => ?_
  by_cases constant : p.layer.clock.Fails
  · obtain ⟨spec, fails⟩ := constant
    have reads (l : Ledger) : p.layer.clock.peek l = .error spec := fails _ _
    refine (likens_get ?_).tracks
    simp only [reads]
    have refused : Likens (Together (Mirrored call.id)) (Failure.Alike (separately call.id))
        (p.refuse s.mode call spec) (p.refuse s.mode (call.fed call.feed) spec) _ l₁ l₁' :=
      Place.likens_refuse h modes rfl tied rfl spec fun _ => trivial
    exact likens_bind refused fun _ _ _ _ _ _ error tied => likens_pure (.error error) tied
  · cases reads : p.layer.clock.peek l₁ with
    | error spec =>
      refine .inr (.inl fun served => ?_)
      rw [get_apply, reads] at served
      exact unserved_refuse hp constant l₁ served
    | ok start =>
      cases reads' : p.layer.clock.peek l₁' with
      | error spec =>
        refine .inr (.inr fun served => ?_)
        rw [get_apply, reads'] at served
        exact unserved_refuse hp constant l₁' served
      | ok start' =>
        refine (likens_get ?_).tracks
        rw [reads, reads']
        have used : Likens (Together (Mirrored call.id)) Any (p.useClock .read) (p.useClock .read) _
            l₁ l₁' := Place.likens_useClock h tied rfl .read
        refine likens_bind used fun _ _ _ _ _ _ _ tied => ?_
        refine likens_bind (h.likens_note tied rfl (.entered call.id rfl False.elim))
          fun _ _ _ _ _ _ _ tied => ?_
        exact likens_pure (.ok False.elim) tied

/-- Layers that treat all calls alike do alike in both runs of a call. -/
theorem course (layers : List Layer) (s : Setting) {call : Call} (own : call.IsPrivate) :
    Course (separately call.id) (Together (Mirrored call.id)) (Unserved layers call.id) s s call
      call.feed (Place.Uniform layers) where
  parallel := parallel call.id
  modes _ := rfl
  layers := by
    rintro p _ ⟨rfl, -, uniform⟩
    obtain ⟨policy, standard⟩ := uniform.standard
    have w := (resends s.mode own).toReplays
    refine Place.alike_of_layer (parallel call.id) w rfl rfl (fun _ _ => trivial)
      (fun _ scripted => absurd standard (scripted policy)) (fun _ answers timed => ?_)
      (fun _ delay has => ?_) (fun tied _ _ _ _ _ => ⟨tied.1, { tied.2 with }⟩)
      fun tied _ _ alike => ?_
    · cases standard.symm.trans timed
    · rw [uniform.constant delay has, ← uniform.constant delay has]
    · exact Place.likens_release (parallel call.id) w (fun _ => rfl) rfl rfl alike
        (fun r has => tied.2.known (alike.reached has)) tied
  enters := by
    rintro p _ ⟨rfl, hp, -⟩ ids l l' tied
    exact enters hp tied
  stays lost changes changes' :=
    lost.imp (mt (Ledger.serves_of_changes changes)) (mt (Ledger.serves_of_changes changes'))

theorem transmits (s : Setting) {call : Call} (own : call.IsPrivate) :
    Transmits (separately call.id) (Together (Mirrored call.id)) s s call call.feed :=
  (resends s.mode own).likens_transmit (parallel call.id) (fun _ => rfl)
    (.refl trivial call.feed)

end

end Mirrored

end HttpRetry
