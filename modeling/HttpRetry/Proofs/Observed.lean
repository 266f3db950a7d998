import HttpRetry.Proofs.Bodies
import HttpRetry.Proofs.Lockstep
set_option autoImplicit false

namespace HttpRetry

open Work

/-- How a layer is watched: whether it counts, and which logger has its reports. -/
structure Watch where
  counts : Entry Bool
  sink : Sink

def Settings.watched (settings : Settings) (watch : Watch) : Settings :=
  { settings with metricsEnabled := watch.counts }

def Layer.watched (layer : Layer) (watch : Watch) : Layer :=
  { layer with settings := layer.settings.watched watch, sink := watch.sink }

def LayerSpec.watched (spec : LayerSpec) (watch : Watch) : LayerSpec :=
  { spec with settings := spec.settings.watched watch, sink := watch.sink }

def Place.watched (p : Place) (watch : Watch) : Place := { p with layer := p.layer.watched watch }

def Event.unobserved? : Event → Option Event
  | .bound .. => none
  | .logged call layer entry => some (.logged call layer { entry with sink := .standard })
  | e => some e

def Event.report? : Event → Option (Level × String × Members)
  | .logged _ _ entry => some (entry.notice.level, entry.notice.event, entry.fields)
  | _ => none

namespace Ledger

/-- All that is known of a run but its counts and which logger there is. -/
def unobserved (l : Ledger) : Ledger :=
  { l with metrics := {}, journal := l.journal.filterMap Event.unobserved? }

def reports (l : Ledger) : List (Level × String × Members) := l.trace.filterMap Event.report?

theorem unobserved_note (l : Ledger) (e : Event) : (l.note e).unobserved =
    { l.unobserved with journal := e.unobserved?.toList ++ l.unobserved.journal } := by
  cases seen : e.unobserved? <;> simp [unobserved, note, seen]

theorem reports_unobserved (l : Ledger) : l.unobserved.reports = l.reports := by
  have same (e : Event) : e.unobserved?.bind Event.report? = e.report? := by
    cases e <;> rfl
  unfold reports trace unobserved
  rw [← List.filterMap_reverse, List.filterMap_filterMap]
  simp [same]

end Ledger

def Unwatched (l l' : Ledger) : Prop := l'.unobserved = l.unobserved

namespace Unwatched

variable {α : Type} {l l' : Ledger}

theorem agree (h : Unwatched l l') (f : Ledger → α) (blind : ∀ m, f m.unobserved = f m) :
    f l' = f l := by
  rw [← blind l', ← blind l, h]

/-- A change that does not look at counts and loggers keeps the relation. -/
theorem change (h : Unwatched l l') (f : Ledger → Ledger)
    (blind : ∀ m, (f m).unobserved = f m.unobserved) : Unwatched (f l) (f l') := by
  unfold Unwatched
  rw [blind, blind, h]

theorem note (h : Unwatched l l') {e e' : Event} (same : e'.unobserved? = e.unobserved?) :
    Unwatched (l.note e) (l'.note e') := by
  unfold Unwatched
  rw [Ledger.unobserved_note, Ledger.unobserved_note, same, h]

theorem lockstep : Lockstep Unwatched where
  now h := h.agree Ledger.now fun _ => rfl
  clocks h := h.agree Ledger.clocks fun _ => rfl
  asks h := h.agree Ledger.asks fun _ => rfl
  delays h := h.agree Ledger.delays fun _ => rfl
  calls h := h.agree Ledger.calls fun _ => rfl
  note h _ := h.note rfl
  useClock h key f := h.change (Ledger.adjustClock · key f) fun _ => rfl
  ask h i := h.change (fun m => { m with asks := updateAt m.asks i (· + 1) }) fun _ => rfl
  delay h i := h.change (fun m => { m with delays := updateAt m.delays i (· + 1) }) fun _ => rfl
  advance h seconds := h.change (fun m => { m with now := m.now + seconds }) fun _ => rfl
  adjustCall h call f := h.change (Ledger.adjustCall · call f) fun _ => rfl
  cause h id e := h.change (fun m => { m with causes := (id, e) :: m.causes }) fun _ => rfl

theorem response? (h : Unwatched l l') (id : ResponseId) : l'.response? id = l.response? id :=
  h.agree (Ledger.response? · id) fun _ => rfl

theorem built (h : Unwatched l l') (call : Nat) :
    (l'.calls call).built = (l.calls call).built :=
  h.agree (fun m => (m.calls call).built) fun _ => rfl

theorem parallel (call : Nat) : Parallel HttpRetry.lockstep call (Together Unwatched) :=
  lockstep.parallel trivial trivial rfl call

theorem replays (mode : Mode) : Replays HttpRetry.lockstep (Together Unwatched) mode mode where
  adjust tied id _ f _ := ⟨tied.1, tied.2.change (Ledger.adjustResponse · id f) fun _ => rfl⟩
  counted tied _ _ := ⟨tied.1, tied.2⟩
  drained tied := ⟨tied.1, tied.2⟩

theorem resends (mode : Mode) (call : Call) :
    Resends HttpRetry.lockstep (Together Unwatched) mode mode call where
  toReplays := replays mode
  confined := call.confined_all
  sends tied := tied.2.agree (fun m => (m.calls call.id).sends) fun _ => rfl
  send tied := ⟨tied.1, tied.2.change (Ledger.adjustCall · call.id _) fun _ => rfl⟩
  built tied := tied.2.built call.id
  build tied r r' alike := by
    obtain rfl := alike.eq
    have built := tied.2.change (Ledger.build · call.id r') fun _ => rfl
    exact ⟨⟨tied.1, built⟩, .of_eq trivial (built.response? _)⟩
  listed tied _ index _ := tied.2.agree (fun m => (m.responses[index]?).map entryRef) fun _ => rfl
  known tied serial := congrArg (Option.map (·.status)) (tied.2.response? ⟨call.id, serial⟩)

end Unwatched

namespace Place

variable {l l' : Ledger} {s : Setting} {ids : Naming}

theorem bind_unobserved (p : Place) (call : Call) (l : Ledger) :
    (p.bind call l).2.unobserved = l.unobserved := by
  unfold Place.bind
  split
  · exact l.unobserved_note _
  · rfl

theorem measured_unobserved (p : Place) (f : Metrics → Metrics) (l : Ledger) :
    (p.measured f l).unobserved = l.unobserved := by
  unfold measured
  split
  · rfl
  · rfl

variable (p : Place) (watch : Watch) (call : Call)

theorem bind_watched (tied : Together Unwatched ids l l') :
    Likens (Together Unwatched) Any (p.bind call) ((p.watched watch).bind call) ids l l' := by
  refine ⟨ids, fun h => h, trivial, tied.1, ?_⟩
  unfold Unwatched
  rw [bind_unobserved, bind_unobserved, tied.2]

theorem measured_watched (tied : Together Unwatched ids l l') (f : Metrics → Metrics) :
    Together Unwatched ids (p.measured f l) ((p.watched watch).measured f l') := by
  refine ⟨tied.1, ?_⟩
  unfold Unwatched
  rw [measured_unobserved, measured_unobserved, tied.2]

theorem report_watched (tied : Together Unwatched ids l l') {n n' : Notice}
    (alike : n.Alike HttpRetry.lockstep ids n') :
    Likens (Together Unwatched) Any (p.report call n) ((p.watched watch).report call n') ids l l' := by
  obtain rfl : n' = n := alike.eq trivial fun _ _ named => (tied.1 _ _).mp named
  unfold report
  split
  · exact likens_modify ⟨tied.1, tied.2.note rfl⟩
  · exact likens_modify ⟨tied.1, tied.2.note rfl⟩

/-- A body that is not drained is reported and counted where it is seen, and dropped in any case. -/
theorem tolerate_watched (tied : Together Unwatched ids l l') {attempt attempt' : Attempt}
    (alike : attempt.Alike HttpRetry.lockstep ids attempt') {result result' : Except Failure Unit}
    (results : Ended HttpRetry.lockstep ids result result') :
    Likens (Together Unwatched) (Ended HttpRetry.lockstep) (p.tolerate call attempt result)
      ((p.watched watch).tolerate call attempt' result') ids l l' := by
  unfold tolerate
  cases results with
  | ok _ => exact likens_pure (.ok trivial) tied
  | error error =>
    simp only [error.isSwallowed, alike.count]
    split
    · refine likens_bind (p.report_watched watch call tied (.drainError _ error))
        fun _ _ _ _ _ _ _ tied => ?_
      refine likens_bind (likens_modify (p.measured_watched watch tied _)) fun _ _ _ _ _ _ _ tied => ?_
      exact likens_pure (.ok trivial) tied
    · exact likens_pure (.error error) tied

theorem release_watched (tied : Together Unwatched ids l l') {attempt attempt' : Attempt}
    (alike : attempt.Alike HttpRetry.lockstep ids attempt') :
    Likens (Together Unwatched) (Ended HttpRetry.lockstep) (p.release s.mode call attempt)
      ((p.watched watch).release s.mode call attempt') ids l l' := by
  have parallel := Unwatched.parallel call.id
  unfold release
  rw [alike.response]
  cases attempt.response with
  | none => exact likens_pure (.ok trivial) tied
  | some r =>
    refine likens_bind (parallel.likens_note tied rfl (.releasing call.id rfl r.id))
      fun ids₁ _ _ l₁ l₁' le _ tied => ?_
    have discarded : Likens (Together Unwatched) (Ended HttpRetry.lockstep)
        (p.discard s.mode call r) (p.discard s.mode (call.fed call.feed) r) ids₁ l₁ l₁' :=
      Likens.weaken (likens_discard parallel (Unwatched.replays s.mode) (fun _ => rfl) rfl r
        ⟨tied, .of_eq trivial (tied.2.response? r.id)⟩) fun tied => tied.1
    refine likens_bind discarded fun _ _ _ _ _ le' result tied => ?_
    exact p.tolerate_watched watch call tied ((alike.mono le).mono le') result

theorem watched_alike (s : Setting) : p.Alike HttpRetry.lockstep (Together Unwatched) s s call
    call.feed (p.watched watch) where
  index := rfl
  retryer := rfl
  delay := rfl
  forced := rfl
  raises _ _ := trivial
  asks tied _ := congrFun (Unwatched.lockstep.asks tied.2) p.index
  peeks tied _ _ := Unwatched.lockstep.reads tied.2 fun _ _ => trivial
  waits tied delay _ := congrArg delay (congrFun (Unwatched.lockstep.delays tied.2) p.index)
  report tied _ _ := p.report_watched watch call tied
  counted tied _ _ := p.measured_watched watch tied _
  delayed tied _ _ _ _ times := by
    obtain ⟨rfl, rfl⟩ := times trivial
    exact p.measured_watched watch tied _
  release tied _ _ := p.release_watched watch call tied

theorem watched_course (s : Setting) (call : Call) :
    Course HttpRetry.lockstep (Together Unwatched) .never s s call call.feed
      fun p p' => ∃ watch, p' = p.watched watch where
  parallel := Unwatched.parallel call.id
  modes _ := rfl
  layers := by
    rintro p _ ⟨watch, rfl⟩
    exact p.watched_alike watch call s
  enters := by
    rintro p _ ⟨watch, rfl⟩ ids l l' tied
    have entered : Likens (Together Unwatched) (Entered HttpRetry.lockstep) (p.enter s.mode call)
        ((p.watched watch).enter s.mode (call.fed call.feed)) ids l l' :=
      likens_enter (Unwatched.parallel call.id) (fun _ => rfl) rfl tied rfl (p.bind_watched watch call)
        fun tied => Unwatched.lockstep.reads tied.2 fun _ _ => trivial
    exact entered.tracks
  stays lost := lost.elim

end Place

def Layer.Rewatched (layer layer' : Layer) : Prop := ∃ watch, layer' = layer.watched watch

theorem placesFrom_rewatched {layers layers' : List Layer}
    (differ : List.Forall₂ Layer.Rewatched layers layers') (index : Nat) :
    List.Forall₂ (fun p p' : Place => ∃ watch, p' = p.watched watch) (placesFrom index layers)
      (placesFrom index layers') := by
  induction differ generalizing index with
  | nil => exact .nil
  | cons first _ ih =>
    obtain ⟨watch, rfl⟩ := first
    exact .cons ⟨watch, rfl⟩ (ih (index + 1))

theorem watched_concerted (s : Setting) {layers layers' : List Layer}
    (differ : List.Forall₂ Layer.Rewatched layers layers') :
    Concerted lockstep (Together Unwatched) s (fun call feed => feed = call.feed)
      (fun p p' => ∃ watch, p' = p.watched watch) (placesFrom 0 layers) (placesFrom 0 layers') where
  courses := by
    rintro call _ rfl
    exact Place.watched_course s call
  layers := placesFrom_rewatched differ 0
  transmits := by
    rintro call _ rfl ids l l' tied
    exact (Unwatched.resends s.mode call).likens_transmit (Unwatched.parallel call.id) (fun _ => rfl)
      (.refl trivial call.feed) tied
  read tied call id :=
    (((Unwatched.replays s.mode).likens_read (Unwatched.parallel call) (fun _ => rfl)
      ⟨tied, .of_eq trivial (tied.2.response? id)⟩).weaken fun tied => tied.1).mono
        fun _ _ _ _ => trivial
  close tied call id :=
    (((Unwatched.replays s.mode).likens_close (Unwatched.parallel call) (fun _ => rfl)
      ⟨tied, .of_eq trivial (tied.2.response? id)⟩).weaken fun tied => tied.1).mono
        fun _ _ _ _ => trivial

theorem Move.alike_itself (m : Move) : m.Alike (fun call feed => feed = call.feed) m := by
  cases m with
  | resume i => exact .resume i
  | cancel i => exact .cancel i
  | send call budget =>
    have fit : call.feed = call.feed := rfl
    exact .send fit budget
  | read call id => exact .read call id
  | close call id => exact .close call id

theorem Task.alike_itself {k : Likeness} {T : Place → Place → Prop} {ids : Naming} {t : Task}
    (waiting : t.stage = .waiting) : t.Alike k T (fun call feed => feed = call.feed) ids t := by
  obtain ⟨call, cancelAt, stage⟩ := t
  obtain rfl : stage = .waiting := waiting
  have fit : call.feed = call.feed := rfl
  exact .fed fit cancelAt .waiting

theorem Task.Alike.reply? {T : Place → Place → Prop} {fits : Call → Feed → Prop} {ids : Naming}
    {t t' : Task} (h : t.Alike lockstep T fits ids t') (same : ∀ a b, ids a b → a = b) :
    t'.stage.reply? = t.stage.reply? := by
  cases h with
  | fed fit cancelAt stages => exact Sent.Alike.eq trivial same stages.reply?

def LayerSpec.Rewatched (spec spec' : LayerSpec) : Prop := ∃ watch, spec' = spec.watched watch

/-- A layer that is watched in another way is built in the same way, or fails to be. -/
theorem LayerSpec.build_watched (spec : LayerSpec) (watch : Watch) :
    (spec.watched watch).build = spec.build.map (·.watched watch) := by
  have retryer : (spec.watched watch).chosenRetryer = spec.chosenRetryer := rfl
  have limit : (spec.watched watch).drainLimit.getD (spec.watched watch).settings.bodyDrainLimit =
      spec.drainLimit.getD spec.settings.bodyDrainLimit := rfl
  unfold build
  rw [retryer, limit]
  cases spec.chosenRetryer with
  | error e => rfl
  | ok retryer =>
    cases Limit.ofEntry (spec.drainLimit.getD spec.settings.bodyDrainLimit) with
    | error e => rfl
    | ok limit =>
      simp only [bind, Except.bind]
      split
      · rfl
      · rfl

inductive BuiltAlike {α : Type} (V : α → α → Prop) : Except BuildError α → Except BuildError α → Prop
  | ok {a a' : α} (value : V a a') : BuiltAlike V (.ok a) (.ok a')
  | error (e : BuildError) : BuiltAlike V (.error e) (.error e)

theorem BuiltAlike.mono {α : Type} {V V' : α → α → Prop} (weaker : ∀ a a', V a a' → V' a a')
    {built built' : Except BuildError α} (h : BuiltAlike V built built') :
    BuiltAlike V' built built' := by
  cases h with
  | ok value => exact .ok (weaker _ _ value)
  | error e => exact .error e

theorem buildLayers_rewatched {specs specs' : List LayerSpec}
    (differ : List.Forall₂ LayerSpec.Rewatched specs specs') :
    BuiltAlike (List.Forall₂ Layer.Rewatched) (Stack.buildLayers specs)
      (Stack.buildLayers specs') := by
  induction differ with
  | nil => exact .ok .nil
  | @cons spec spec' inner inner' first _ ih =>
    obtain ⟨watch, rfl⟩ := first
    simp only [Stack.buildLayers, spec.build_watched watch, bind, Except.bind]
    generalize Stack.buildLayers inner = below at ih
    generalize Stack.buildLayers inner' = below' at ih
    cases ih with
    | error e => exact .error e
    | ok layers =>
      cases spec.build with
      | error e => exact .error e
      | ok layer => exact .ok (.cons ⟨watch, rfl⟩ layers)

structure Stack.Rewatched (stack stack' : Stack) : Prop where
  setting : stack'.setting = stack.setting
  layers : List.Forall₂ Layer.Rewatched stack.layers stack'.layers
  closeFailure : stack'.closeFailure = stack.closeFailure
  budget : stack'.budget = stack.budget

theorem Stack.build_rewatched (setting : Setting) (closeFailure : Option FailureSpec)
    {specs specs' : List LayerSpec} (differ : List.Forall₂ LayerSpec.Rewatched specs specs') :
    BuiltAlike Stack.Rewatched (Stack.build setting specs closeFailure)
      (Stack.build setting specs' closeFailure) := by
  have patience : specs'.map LayerSpec.patience = specs.map LayerSpec.patience := by
    induction differ with
    | nil => rfl
    | cons first _ ih =>
      obtain ⟨watch, rfl⟩ := first
      exact congrArg (List.cons _) ih
  have layers := buildLayers_rewatched differ
  unfold Stack.build
  rw [patience]
  generalize Stack.buildLayers specs = built at layers
  generalize Stack.buildLayers specs' = built' at layers
  cases layers with
  | error e => exact .error e
  | ok layers => exact .ok ⟨rfl, layers, rfl, rfl⟩

/-- Watching never changes what is watched. Stacks whose layers differ in whether they count and in
which logger they report to are built alike or fail alike. From the same state on, the same calls,
made, resumed, cancelled, read and closed in any order, come to the same replies: the same responses,
or the same errors with the same fields. Everything that happens is the same and in the same order,
with the same responses read and closed, causes, clock readings, questions to retryers and delayers and
the same time passed; and so are all reports with their fields. -/
theorem observation_never_matters (setting : Setting) (closeFailure : Option FailureSpec)
    {specs specs' : List LayerSpec} (differ : List.Forall₂ LayerSpec.Rewatched specs specs')
    (moves : List Move) {tasks : List Task} (waiting : ∀ t ∈ tasks, t.stage = .waiting) (l : Ledger) :
    BuiltAlike (fun stack stack' =>
        let ran := runMoves setting stack.places moves tasks l
        let ran' := runMoves setting stack'.places moves tasks l
        ran'.1.map (·.stage.reply?) = ran.1.map (·.stage.reply?) ∧
          ran'.2.unobserved = ran.2.unobserved ∧
          ran'.2.reports = ran.2.reports ∧
          ∀ call budget, (setting.send stack'.places budget call ran'.2).1 =
            (setting.send stack.places budget call ran.2).1)
      (Stack.build setting specs closeFailure) (Stack.build setting specs' closeFailure) := by
  refine (Stack.build_rewatched setting closeFailure differ).mono fun stack stack' rewatched => ?_
  intro ran ran'
  have concerted := watched_concerted setting rewatched.layers
  have started : Together Unwatched (fun a b => a = b) l l := ⟨fun _ _ => Iff.rfl, rfl⟩
  have sameMoves : List.Forall₂ (Move.Alike fun call feed => feed = call.feed) moves moves :=
    List.forall₂_same.mpr fun m _ => m.alike_itself
  have sameTasks : List.Forall₂ (Task.Alike lockstep (fun p p' => ∃ watch, p' = p.watched watch)
      (fun call feed => feed = call.feed) fun a b => a = b) tasks tasks :=
    List.forall₂_same.mpr fun t mem => Task.alike_itself (waiting t mem)
  obtain ⟨ids, -, alike, named, after⟩ := concerted.likens_runMoves sameMoves sameTasks started
  have same : ∀ a b, ids a b → a = b := fun a b => (named a b).mp
  have unobserved : ran'.2.unobserved = ran.2.unobserved := after
  refine ⟨?_, unobserved, ?_, fun call budget => ?_⟩
  · have replies : List.Forall₂ (· = ·) (ran.1.map (·.stage.reply?)) (ran'.1.map (·.stage.reply?)) := by
      rw [List.forall₂_map_left_iff, List.forall₂_map_right_iff]
      exact alike.imp fun t t' task => (task.reply? same).symm
    rw [List.forall₂_eq_eq_eq] at replies
    exact replies.symm
  · rw [← Ledger.reports_unobserved, unobserved, Ledger.reports_unobserved]
  · obtain ⟨ids', -, sent, named', -⟩ := concerted.likens_send rfl budget ⟨named, after⟩
    exact Sent.Alike.eq trivial (fun a b => (named' a b).mp) sent

def oneRetrySpec : LayerSpec :=
  { retryer := some (.listed [.decided .retry .nothing, .decided .ignore .nothing]) }

/-- A run with a body that cannot be drained, counted in one way of watching and not in the other. -/
theorem observation_never_matters_broken :
    let s : Setting := ⟨.blocking, .binary⟩
    let unseen : Watch := ⟨.checked false, .injected⟩
    let ran (layer : Layer) := runMoves s (placesFrom 0 [layer]) [.send brokenCall 2] [] {}
    let seen := ran oneRetry.layer
    let kept := ran (oneRetry.layer.watched unseen)
    oneRetrySpec.Rewatched (oneRetrySpec.watched unseen) ∧
      kept.2.unobserved = seen.2.unobserved ∧ kept.2.reports = seen.2.reports ∧
      seen.2.reports.map (·.2.1) = ["Error draining response body", "Retrying request"] ∧
      seen.2.metrics.drainErrors = 1 ∧ kept.2.metrics.drainErrors = 0 := by
  intro s unseen ran seen kept
  have differs : oneRetrySpec.Rewatched (oneRetrySpec.watched unseen) := ⟨unseen, rfl⟩
  have waiting : ∀ t ∈ ([] : List Task), t.stage = .waiting :=
    fun t mem => absurd mem List.not_mem_nil
  have built : Stack.build s [oneRetrySpec] none = .ok ⟨s, [oneRetry.layer], none, 3⟩ := rfl
  have built' : Stack.build s [oneRetrySpec.watched unseen] none =
      .ok ⟨s, [oneRetry.layer.watched unseen], none, 3⟩ := rfl
  have alike := observation_never_matters s none (.cons differs .nil) [.send brokenCall 2] waiting {}
  rw [built, built'] at alike
  cases alike with
  | ok same =>
    obtain ⟨-, unobserved, reports, -⟩ := same
    exact ⟨differs, unobserved, reports, by decide +kernel, by decide +kernel, by decide +kernel⟩

end HttpRetry
