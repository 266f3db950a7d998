import HttpRetry.Proofs.Independence
import HttpRetry.Proofs.Reckoned
import HttpRetry.Proofs.Restrained
import HttpRetry.Proofs.Stacked
set_option autoImplicit false

namespace HttpRetry

open Work

/-- How often a call has been resumed for something, so far. -/
def Ledger.resumed (l : Ledger) (call : Nat) : Nat := l.journal.countP (Event.resumes call 0)

def Stage.begun : Stage → Nat
  | .waiting => 0
  | _ => 1

theorem Stage.begun_le_one (stage : Stage) : stage.begun ≤ 1 := by
  cases stage <;> simp [begun]

section
variable {s : Setting} {call : Call} {pt pt' : Point} {l l' : Ledger}

theorem Grows.suffix {c : Nat} {j j' : List Event} (h : Grows c j j') : j <:+ j' := by
  induction h with
  | refl => exact List.suffix_refl j
  | cons _ _ ih => exact ih.trans (List.suffix_cons _ _)

theorem Walks.suffix (walks : Walks s call (pt, l) (pt', l')) : l.journal <:+ l'.journal :=
  walks.keeps (I := fun _ now => l.journal <:+ now.journal) (List.suffix_refl _)
    fun _ _ _ _ takes before => before.trans takes.grows.suffix

theorem Work.Leads.suffix {work : Work Progress} (leads : work.Leads s call pt) (l : Ledger) :
    work.Yields l fun _ l' => l.journal <:+ l'.journal := by
  refine (leads l).mono fun progress l' walked => ?_
  obtain ⟨pt', proceeds, -⟩ := walked
  exact proceeds.walks.suffix

theorem Ledger.Unmoved.suffix (h : l.Unmoved l') : l.journal <:+ l'.journal := by
  obtain ⟨asides, journal, -⟩ := h.journal
  rw [journal]
  exact List.suffix_append asides _

theorem Ledger.resumed_mono (h : l.journal <:+ l'.journal) (c : Nat) : l.resumed c ≤ l'.resumed c :=
  h.sublist.countP_le

theorem Ledger.resumed_lt {c : Nat} {e : Event} {earlier : List Event}
    (before : l.journal <:+ earlier) (resumes : e.resumes c 0 = true)
    (later : e :: earlier <:+ l'.journal) : l.resumed c < l'.resumed c := by
  have known : l.resumed c ≤ earlier.countP (Event.resumes c 0) := before.sublist.countP_le
  have counted : (e :: earlier).countP (Event.resumes c 0) ≤ l'.resumed c := later.sublist.countP_le
  rw [List.countP_cons_of_pos resumes] at counted
  omega

end

section
variable {s : Setting} {call : Call} {places : List Place} {l : Ledger}

theorem Place.delayWork_suffix (p : Place) (delay : Delayer) (attempt : Attempt) :
    (p.delayWork s.mode delay call attempt).Yields l fun _ l' =>
      .delaying call.id p.index attempt :: l.journal <:+ l'.journal := by
  refine yields_note (yields_get (yields_modify ?_))
  refine yields_bind (P := fun _ l' => l' = p.delaying call delay attempt l) rfl
    fun _ l₁ worked => ?_
  subst worked
  split
  · exact List.suffix_cons _ _
  · exact List.suffix_refl _

theorem Suspended.nextRound_resumed (f : Frame) (outer : List Frame) (inner : List Place) :
    (nextRound s call f outer inner).Yields l fun _ l' => l.resumed call.id < l'.resumed call.id := by
  refine yields_bind (Place.report_logged (.retrying (f.made + 2))) fun _ l₁ logged => ?_
  subst logged
  refine ((descend_leads ({ f with made := f.made + 1 } :: outer) inner).suffix _).mono
    fun _ l' goes => ?_
  rw [Place.journal_logged] at goes
  exact Ledger.resumed_lt (List.suffix_refl _) (by simp [Event.resumes, Notice.announces]) goes

/-- A call is resumed for a send, for a delayer's work, or for a further round. -/
theorem Suspended.resume_resumed (point : Suspended) :
    (point.resume s call).Yields l fun _ l' => l.resumed call.id < l'.resumed call.id := by
  cases point with
  | sending frames =>
    have sends : (call.transmit s.mode).Yields l fun _ l' => (call.asking l).Unmoved l' :=
      perform_unmoved s.mode call.id _ _
    refine yields_bind sends fun reply l₁ sent => ?_
    refine ((deliver_leads frames [] reply).suffix l₁).mono fun _ l' delivered => ?_
    have asked : (Event.sent call.id call.request).resumes call.id 0 = true := by
      simp [Event.resumes]
    exact Ledger.resumed_lt (List.suffix_refl _) asked (sent.suffix.trans delivered)
  | beforeDelay delay attempt began f outer inner =>
    have asked : (Event.delaying call.id f.place.index attempt).resumes call.id 0 = true := by
      simp [Event.resumes]
    refine yields_bind (f.place.delayWork_suffix delay attempt) fun result l₁ worked => ?_
    cases result with
    | ok u => exact Ledger.resumed_lt (List.suffix_refl _) asked worked
    | error e =>
      refine ((deliver_leads outer (f.place :: inner) (.raised e)).suffix l₁).mono
        fun _ l' delivered => ?_
      exact Ledger.resumed_lt (List.suffix_refl _) asked (worked.trans delivered)
  | afterDelay attempt began f outer inner =>
    refine yields_bind (P := fun _ l' => l' = f.place.delayed call s.timer attempt began l) rfl
      fun _ l₁ done => ?_
    subst done
    refine (nextRound_resumed f outer inner).mono fun _ l' goes => ?_
    have kept : l.journal <:+ (f.place.delayed call s.timer attempt began l).journal := by
      rw [Place.journal_delayed]
      exact List.suffix_cons _ _
    exact Nat.lt_of_le_of_lt (Ledger.resumed_mono kept call.id) goes
  | ready f outer inner => exact nextRound_resumed f outer inner

theorem Progress.begun_stage (progress : Progress) : progress.stage.begun = 1 := by
  cases progress <;> rfl

namespace Task

variable {t : Task}

theorem advance_resumed (going : t.isEnded = false) :
    (t.advance s places).Yields l fun stage l' => t.stage.begun + l.resumed t.call.id + 1 ≤
      stage.begun + l'.resumed t.call.id := by
  unfold advance
  cases stage : t.stage with
  | waiting =>
    refine yields_bind ((t.call.begin_leads s places).suffix l) fun progress l₁ later => ?_
    have mono := Ledger.resumed_mono later t.call.id
    refine yields_pure ?_
    rw [progress.begun_stage, Stage.begun]
    omega
  | running point =>
    refine yields_bind point.resume_resumed fun progress l₁ resumed => ?_
    have begun : (Stage.running point).begun = 1 := rfl
    refine yields_pure ?_
    rw [progress.begun_stage, begun]
    omega
  | ended reply => simp [isEnded, stage] at going

theorem advance_suffix (t : Task) :
    (t.advance s places).Yields l fun _ l' => l.journal <:+ l'.journal := by
  unfold advance
  cases t.stage with
  | waiting => exact yields_bind ((t.call.begin_leads s places).suffix l) fun _ _ later => later
  | running point =>
    exact yields_bind ((Suspended.resume_leads point).suffix l) fun _ _ later => later
  | ended reply => exact List.suffix_refl _

theorem cancel_suffix (t : Task) :
    (t.cancel s).Yields l fun _ l' => l.journal <:+ l'.journal := by
  unfold cancel
  cases t.stage with
  | waiting => exact List.suffix_refl _
  | running point =>
    have made : (fail t.call.id cancellation).Yields l fun e l' =>
        e.isInterrupt = true ∧ l'.journal = l.journal := ⟨rfl, rfl⟩
    refine yields_bind made fun e l₁ made => ?_
    refine yields_bind ((Suspended.throw_leads made.1 point).suffix l₁) fun _ _ later => ?_
    rwa [made.2] at later
  | ended reply => exact List.suffix_refl _

end Task

theorem moveAt_suffix {f : Task → Work Stage}
    (later : ∀ t l, (f t).Yields l fun _ l' => l.journal <:+ l'.journal) (tasks : List Task)
    (i : Nat) : (moveAt f tasks i).Yields l fun _ l' => l.journal <:+ l'.journal := by
  cases ht : tasks[i]? with
  | none =>
    unfold moveAt
    rw [ht]
    exact List.suffix_refl _
  | some t =>
    unfold Yields
    rw [moveAt_self ht]
    exact later t l

theorem Move.apply_suffix (m : Move) (tasks : List Task) :
    (m.apply s places tasks).Yields l fun _ l' => l.journal <:+ l'.journal := by
  cases m with
  | resume i => exact moveAt_suffix (fun t _ => t.advance_suffix) tasks i
  | cancel i => exact moveAt_suffix (fun t _ => t.cancel_suffix) tasks i
  | send call budget =>
    refine yields_bind (s.send_proceeds places budget call) fun _ l₁ sent => ?_
    obtain ⟨pt, proceeds, -⟩ := sent
    exact proceeds.walks.suffix
  | read call id =>
    exact yields_bind (read_unmoved s.mode call id l) fun _ l₁ unmoved => unmoved.suffix
  | close call id =>
    exact yields_bind (close_unmoved s.mode call id l) fun _ l₁ unmoved => unmoved.suffix

def Task.Counts (before after : Ledger) (turns : Nat) (t t' : Task) : Prop :=
  t'.call = t.call ∧ (t'.isEnded = true ∨ t.stage.begun + before.resumed t.call.id + turns ≤
    t'.stage.begun + after.resumed t.call.id)

theorem Move.apply_counts (m : Move) {tasks : List Task} {i : Nat} {t : Task}
    (ht : tasks[i]? = some t) (going : t.isEnded = false) :
    (m.apply s places tasks).Yields l fun tasks' l' =>
      ∃ t', tasks'[i]? = some t' ∧ t.Counts l l' (if m.resumes i then 1 else 0) t' := by
  have later : (m.apply s places tasks).Yields l fun _ l' => l.journal <:+ l'.journal :=
    m.apply_suffix tasks
  cases own : m.concerns i with
  | false =>
    have mono := Ledger.resumed_mono later t.call.id
    refine ⟨t, (Move.apply_of_not_concerns own).trans ht, rfl, .inr ?_⟩
    have other : m.resumes i = false := by
      cases m <;> simp [Move.concerns, Move.resumes] at own ⊢
      exact own
    simp [other]
    omega
  | true =>
    cases m with
    | resume j =>
      obtain rfl : j = i := by simpa [Move.concerns] using own
      refine ⟨_, getElem?_moveAt_self ht, rfl, .inr ?_⟩
      have turn : (t.advance s places).Yields l _ := Task.advance_resumed going
      have ends : ((Move.resume j).apply s places tasks l).2 = (t.advance s places l).2 :=
        congrArg Prod.snd (moveAt_self ht)
      unfold Yields at turn
      simpa [ends, Move.resumes] using turn
    | cancel j =>
      obtain rfl : j = i := by simpa [Move.concerns] using own
      refine ⟨_, getElem?_moveAt_self ht, rfl, .inl ?_⟩
      rw [(Task.cancel_still s going).1]
      rfl
    | send call budget => cases own
    | read call id => cases own
    | close call id => cases own

theorem runMoves_counts (ms : List Move) {tasks : List Task} {i : Nat} {t : Task}
    (ht : tasks[i]? = some t) :
    (runMoves s places ms tasks).Yields l fun tasks' l' =>
      ∃ t', tasks'[i]? = some t' ∧ t.Counts l l' (ms.countP (Move.resumes i)) t' := by
  cases going : t.isEnded with
  | true =>
    obtain ⟨call, cancelAt, stage⟩ := t
    cases stage <;> simp [Task.isEnded] at going
    exact ⟨_, (runMoves_ended ht rfl ms).2, rfl, .inl rfl⟩
  | false =>
    induction ms generalizing tasks t l with
    | nil => exact ⟨t, ht, rfl, .inr (Nat.le_refl _)⟩
    | cons m rest ih =>
      refine yields_bind (m.apply_counts ht going) fun tasks₁ l₁ moved => ?_
      obtain ⟨t₁, ht₁, same₁, counts₁⟩ := moved
      cases going₁ : t₁.isEnded with
      | true =>
        obtain ⟨call, cancelAt, stage⟩ := t₁
        cases stage <;> simp [Task.isEnded] at going₁
        exact ⟨_, (runMoves_ended ht₁ rfl rest).2, same₁, .inl rfl⟩
      | false =>
        refine (ih ht₁ going₁).mono fun tasks' l' ran => ?_
        obtain ⟨t', ht', same, counts⟩ := ran
        refine ⟨t', ht', same.trans same₁, ?_⟩
        simp only [going₁, Bool.false_eq_true, false_or, same₁] at counts₁ counts
        rw [List.countP_cons]
        exact counts.imp_right fun counts => by omega

/-- So it is for each call of a run. -/
theorem runMoves_turns (ms : List Move) (tasks : List Task) :
    (runMoves s places ms tasks).Yields l fun tasks' l' => ∀ (i : Nat) t', tasks'[i]? = some t' →
      ∃ t ∈ tasks, t.Counts l l' (ms.countP (Move.resumes i)) t' := by
  intro i t' ht'
  have members : (runMoves s places ms tasks l).1.map (·.call) = tasks.map (·.call) :=
    map_call_runMoves ms
  cases ht : tasks[i]? with
  | none =>
    have none_ := congrArg (·[i]?) members
    simp [ht, ht'] at none_
  | some t =>
    have ran : (runMoves s places ms tasks).Yields l _ := runMoves_counts ms ht
    obtain ⟨t'', ht'', counts⟩ := ran
    obtain rfl : t' = t'' := Option.some.inj (ht'.symm.trans ht'')
    exact ⟨t, List.mem_of_getElem? ht, counts⟩

end

theorem layer_mem_of_mem_placesFrom {k : Nat} {layers : List Layer} {p : Place}
    (mem : p ∈ placesFrom k layers) : p.layer ∈ layers := by
  obtain ⟨i, at_⟩ := List.mem_iff_getElem?.mp mem
  rw [getElem?_placesFrom] at at_
  obtain ⟨layer, found, rfl⟩ := Option.map_eq_some_iff.mp at_
  exact List.mem_of_getElem? found

/-- Sent with a budget that is large enough, every call ends. -/
theorem Setting.send_ends (s : Setting) {layers : List Layer}
    (standard : ∀ layer ∈ layers, ∃ policy, layer.retryer = .standard policy) :
    ∃ enough, ∀ budget, enough ≤ budget → ∀ call l, ∃ reply,
      (s.send (placesFrom 0 layers) budget call l).1 = some reply := by
  obtain ⟨rounds, caps⟩ := exists_caps fun p (mem : p ∈ placesFrom 0 layers) =>
    standard p.layer (layer_mem_of_mem_placesFrom mem)
  let steps := Suspended.stepsAllowed rounds (placesFrom 0 layers).length
  refine ⟨max rounds steps, fun budget enough call l => ?_⟩
  unfold Setting.send
  cases s.mode with
  | blocking =>
    apply sendThrough_ends
    intro p mem
    obtain ⟨policy, default_, within⟩ := caps p mem
    exact ⟨policy, default_, by omega⟩
  | suspending =>
    obtain ⟨reply, ends⟩ : ∃ reply,
      (sendThrough s call rounds (placesFrom 0 layers) l).1 = some reply := sendThrough_ends s caps
    have stepwise := sendStepwise_eq_sendThrough (Prod.ext ends rfl)
      (show steps ≤ budget by omega)
    exact ⟨reply, congrArg Prod.fst stepwise⟩

/-- What the caps of default policies bound in the journal of a run. -/
structure Ledger.Limited (layers : List Layer) (l : Ledger) : Prop where
  /-- A call asks the innermost transport no more often than all caps together allow. -/
  total : ∀ c, (l.calls c).sends ≤ (layers.map Layer.cap).prod
  /-- It reaches each layer no more often than the caps of those above allow. -/
  entries : ∀ c i, i ≤ layers.length → l.journal.countP (Event.arrives layers.length c i) ≤
    ((layers.take i).map Layer.cap).prod
  /-- At any moment, a layer that a call is in has sent it and waited for it within its cap. -/
  visits : ∀ c i layer now v, layers[i]? = some layer → now <:+ l.journal →
    visit layers.length c i now = some v → v.sends ≤ layer.cap ∧ v.delays ≤ layer.cap - 1
  /-- A layer that sends has sent less often before, and no attempt of it was the last allowed. -/
  sends : ∀ c i layer e earlier, layers[i]? = some layer → e :: earlier <:+ l.journal →
    e.arrives layers.length c (i + 1) = true → ∃ v, visit layers.length c i earlier = some v ∧
      v.sends < layer.cap ∧ ∀ attempt ∈ v.attempts, attempt.count < layer.cap
  /-- A layer that waits has waited less often before, and not after the last attempt allowed. -/
  waits : ∀ c i attempt earlier, .delaying c i attempt :: earlier <:+ l.journal →
    ∃ layer v, layers[i]? = some layer ∧ visit layers.length c i earlier = some v ∧
      v.delays + 1 < layer.cap ∧ attempt.count < layer.cap

namespace Capped

variable {layers : List Layer} {l : Ledger}

theorem limited (capped : Capped layers l.journal)
    (sends : ∀ c, (l.calls c).sends = l.journal.countP (Event.isSent c)) : l.Limited layers := by
  constructor
  · intro c
    have arrives := capped.countP_arrives c (Nat.le_refl _)
    have sent : l.journal.countP (Event.isSent c) ≤
        l.journal.countP (Event.arrives layers.length c layers.length) := by
      apply List.countP_mono_left
      intro e _ sent
      cases e <;> simp [Event.isSent, Event.arrives] at sent ⊢
      exact sent
    rw [List.take_length] at arrives
    rw [sends]
    exact sent.trans arrives
  · exact fun c i within => capped.countP_arrives c within
  · intro c i layer now v found moment at_
    have keeps := capped.visit found moment at_
    omega
  · intro c i layer e earlier found moment arrives
    exact count_lt_cap_of_arrives found (capped.one i layer found) (capped.order.suffix moment)
      (capped.restrained.suffix moment) arrives
  · intro c i attempt earlier moment
    obtain ⟨layer, found, below⟩ := capped.restrained.at moment
    obtain ⟨v, at_, latest, few⟩ := capped.order.at moment
    have order := (capped.order.suffix moment).2
    have count := count_head order at_ latest
    exact ⟨layer, v, found, at_, by omega, below⟩

theorem resumed_le (capped : Capped layers l.journal) (c : Nat) :
    l.resumed c ≤ resumptions layers := by
  have resumed := capped.countP_resumes c (List.nil_append layers)
  have once := Nat.mul_le_mul_left (resumptions layers) (countP_arrives_zero (c := c) capped.order)
  rw [Nat.mul_one] at once
  exact resumed.trans once

end Capped

/-- Where all layers have default policies, every call ends, whatever the transport, the streams, the
delayers and the clock do: one that is sent with a large enough budget, and one that is resumed
often enough, whichever other calls are moved on in between. Until then it asks the transport no
more often than the product of the caps, and no layer goes beyond its own cap within a visit. -/
theorem default_layers_bound_work (s : Setting) (layers : List Layer)
    (standard : ∀ layer ∈ layers, ∃ policy, layer.retryer = .standard policy) :
    (∃ enough, ∀ budget, enough ≤ budget → ∀ call l, ∃ reply,
      (s.send (placesFrom 0 layers) budget call l).1 = some reply) ∧
    ∀ (tasks : List Task) (ms : List Move) (initial : List (FailureId × Failure)),
      (∀ t ∈ tasks, t.stage = .waiting) → ((callsOf tasks ms).map (·.id)).Nodup →
      (runMoves s (placesFrom 0 layers) ms tasks).Yields { causes := initial } fun tasks' l =>
        l.Limited layers ∧ ∀ (i : Nat) t, tasks'[i]? = some t →
          resumptions layers + 1 < ms.countP (Move.resumes i) → t.isEnded = true := by
  refine ⟨s.send_ends standard, fun tasks ms initial waiting distinct => ?_⟩
  have moved := runMoves_reached s (placesFrom 0 layers) tasks ms initial waiting distinct
  refine (moved.and (runMoves_turns ms tasks)).mono fun tasks' l moved => ?_
  obtain ⟨⟨points, reached, -⟩, turns⟩ := moved
  have capped : Capped layers l.journal := ⟨fun _ _ found => Layer.one_le_cap standard found,
    reached.inOrder distinct, reached.restrains standard distinct⟩
  refine ⟨capped.limited (reached.reckoned distinct).sends, fun i t' ht' often => ?_⟩
  obtain ⟨t, mem, -, ended | counts⟩ := turns i t' ht'
  · exact ended
  · have waits := waiting t mem
    have resumed := capped.resumed_le t.call.id
    have begun := t'.stage.begun_le_one
    have fresh : Ledger.resumed { causes := initial } t.call.id = 0 := rfl
    have unbegun : Stage.waiting.begun = 0 := rfl
    rw [waits, unbegun, fresh] at counts
    omega

def dogged : Layer := { fair with
  retryer := .standard
    { cap := 2, shownCap := .int 2, statuses := [.int 500], one_le_cap := Nat.le_add_left 1 1 } }

def alternating : Call where
  id := 0
  request := { method := "GET", url := "http://example.test/" }
  feed := fun sent => { act := .respondText (if sent % 2 = 0 then 503 else 500) "no" }

/-- Two layers that send twice at most, each for a status that is final to the other, use up the
product of their caps. -/
theorem default_layers_bound_work_alternating :
    let s : Setting := ⟨.suspending, .binary⟩
    let layers := [dogged, sturdy]
    let tasks : List Task := [⟨alternating, none, .waiting⟩]
    let moves : List Move := List.replicate 12 (.resume 0)
    let run := runMoves s (placesFrom 0 layers) moves tasks { causes := [] }
    (∀ layer ∈ layers, ∃ policy, layer.retryer = .standard policy) ∧
      (∀ t ∈ tasks, t.stage = .waiting) ∧ ((callsOf tasks moves).map (·.id)).Nodup ∧
      resumptions layers + 1 < moves.countP (Move.resumes 0) ∧
      (∃ enough, ∀ budget, enough ≤ budget → ∀ call l, ∃ reply,
        (s.send (placesFrom 0 layers) budget call l).1 = some reply) ∧
      run.2.Limited layers ∧ (∀ t ∈ run.1[0]?, t.isEnded = true) ∧
      (run.2.calls 0).sends = (layers.map Layer.cap).prod := by
  intro s layers tasks moves run
  have standard : ∀ layer ∈ layers, ∃ policy, layer.retryer = .standard policy := by
    simp [layers, dogged, fair, sturdy]
  have waiting : ∀ t ∈ tasks, t.stage = .waiting := by simp [tasks]
  have distinct : ((callsOf tasks moves).map (·.id)).Nodup := by decide
  have often : resumptions layers + 1 < moves.countP (Move.resumes 0) := by decide
  obtain ⟨sent, bounded⟩ := default_layers_bound_work s layers standard
  obtain ⟨limited, ended⟩ := bounded tasks moves [] waiting distinct
  exact ⟨standard, waiting, distinct, often, sent, limited, fun t at_ => ended 0 t at_ often,
    by decide +kernel⟩

end HttpRetry
