import HttpRetry.Proofs.Cancellation
import HttpRetry.Proofs.Passage.Run
set_option autoImplicit false

namespace HttpRetry

open Work

/-- Where calls can come to through layers, each by its own steps, and what has become of the ledger
meanwhile. At first nothing has happened, but failures may have causes. -/
inductive Reached (s : Setting) (places : List Place) (calls : List Call)
    (initial : List (FailureId × Failure)) : (Nat → Point) → Ledger → Prop
  | start : Reached s places calls initial (fun _ => ⟨[], places, .down⟩) { causes := initial }
  | step {points : Nat → Point} {l l' : Ledger} {call : Call} {pt : Point}
      (before : Reached s places calls initial points l) (mem : call ∈ calls)
      (takes : Takes s call (points call.id) l pt l') :
      Reached s places calls initial (updateAt points call.id fun _ => pt) l'
  /-- A caller reads or closes a response. -/
  | aside {points : Nat → Point} {l l' : Ledger} (before : Reached s places calls initial points l)
      (unmoved : l.Unmoved l') : Reached s places calls initial points l'

/-- The same as a history: where calls can come to by pieces of work, and the ledgers gone through
before the present one, the latest first. -/
inductive Traced (s : Setting) (places : List Place) (calls : List Call)
    (initial : List (FailureId × Failure)) : List Ledger → (Nat → Point) → Ledger → Prop
  | start : Traced s places calls initial [] (fun _ => ⟨[], places, .down⟩) { causes := initial }
  | does {history : List Ledger} {points : Nat → Point} {l l' : Ledger} {call : Call} {pt : Point}
      (before : Traced s places calls initial history points l) (mem : call ∈ calls)
      (does : Does s call (points call.id) l pt l') :
      Traced s places calls initial (l :: history) (updateAt points call.id fun _ => pt) l'
  /-- A caller reads a response. -/
  | reads {history : List Ledger} {points : Nat → Point} {l : Ledger}
      (before : Traced s places calls initial history points l) (call : Nat) (id : ResponseId) :
      Traced s places calls initial (l :: history) points (Work.read s.mode call id l).2
  | closes {history : List Ledger} {points : Nat → Point} {l : Ledger}
      (before : Traced s places calls initial history points l) (call : Nat) (id : ResponseId) :
      Traced s places calls initial (l :: history) points (Work.close s.mode call id l).2

structure Standing (places : List Place) (tasks : List Task) (pending : List Call)
    (points : Nat → Point) : Prop where
  tasks : ∀ t ∈ tasks, t.stage.At places (points t.call.id)
  pending : ∀ call ∈ pending, points call.id = ⟨[], places, .down⟩

section
variable {s : Setting} {places : List Place} {calls : List Call}
  {initial : List (FailureId × Failure)} {history : List Ledger} {points : Nat → Point}
  {l l' : Ledger}

theorem updateAt_same {α : Type} (f : Nat → α) (i : Nat) : (updateAt f i fun _ => f i) = f := by
  funext j
  by_cases own : j = i <;> simp [updateAt, own]

theorem updateAt_twice {α : Type} (f : Nat → α) (i : Nat) (a b : α) :
    (updateAt (updateAt f i fun _ => a) i fun _ => b) = updateAt f i fun _ => b := by
  funext j
  by_cases own : j = i <;> simp [updateAt, own]

theorem Reached.walks (before : Reached s places calls initial points l) {call : Call}
    (mem : call ∈ calls) {pt : Point} (walks : Walks s call (points call.id, l) (pt, l')) :
    Reached s places calls initial (updateAt points call.id fun _ => pt) l' := by
  apply walks.keeps (I := fun now l₁ =>
    Reached s places calls initial (updateAt points call.id fun _ => now) l₁)
  · rwa [updateAt_same]
  · intro pt₁ l₁ pt₂ l₂ takes reached
    rw [← updateAt_twice points call.id pt₁ pt₂]
    exact reached.step mem (by simpa using takes)

theorem Traced.reached (traced : Traced s places calls initial history points l) :
    Reached s places calls initial points l := by
  induction traced with
  | start => exact .start
  | does before mem does ih => exact ih.walks mem does.walks
  | reads before call id ih => exact ih.aside (read_unmoved s.mode call id _)
  | closes before call id ih => exact ih.aside (close_unmoved s.mode call id _)

theorem Traced.proceeds (before : Traced s places calls initial history points l) {call : Call}
    (mem : call ∈ calls) {pt : Point} (proceeds : Proceeds s call (points call.id, l) (pt, l')) :
    ∃ history', Traced s places calls initial history' (updateAt points call.id fun _ => pt) l' := by
  apply proceeds.keeps (I := fun now l₁ => ∃ history',
    Traced s places calls initial history' (updateAt points call.id fun _ => now) l₁)
  · exact ⟨history, by rwa [updateAt_same]⟩
  · intro pt₁ l₁ pt₂ l₂ does ⟨history', traced⟩
    refine ⟨l₁ :: history', ?_⟩
    rw [← updateAt_twice points call.id pt₁ pt₂]
    exact traced.does mem (by simpa using does)

/-- What holds of where calls begin, and is kept by each step, holds of where they come to. -/
theorem Reached.point_keeps {I : Point → Prop} (start : I ⟨[], places, .down⟩)
    (keeps : ∀ call pt l pt' l', Takes s call pt l pt' l' → I pt → I pt')
    (reached : Reached s places calls initial points l) (c : Nat) : I (points c) := by
  induction reached with
  | start => exact start
  | aside _ _ ih => exact ih
  | @step points _ _ call pt _ _ takes ih =>
    by_cases own : c = call.id
    · subst own
      simpa using keeps _ _ _ _ _ takes ih
    · simpa [updateAt_of_ne own] using ih

theorem moveAt_traced {f : Task → Work Stage} {tasks : List Task} {pending : List Call}
    (proceeds : ∀ t pt l, t.stage.At places pt →
      (f t).Yields l fun stage l' => ∃ pt', Proceeds s t.call (pt, l) (pt', l') ∧
        stage.At places pt')
    (distinct : ((tasks.map (·.call) ++ pending).map (·.id)).Nodup)
    (within : ∀ t ∈ tasks, t.call ∈ calls) (standing : Standing places tasks pending points)
    (traced : Traced s places calls initial history points l) (i : Nat) :
    (moveAt f tasks i).Yields l fun tasks' l' => ∃ history' points',
      Traced s places calls initial history' points' l' ∧ Standing places tasks' pending points' := by
  cases ht : tasks[i]? with
  | none =>
    unfold moveAt
    rw [ht]
    exact ⟨history, points, traced, standing⟩
  | some t =>
    have mem : t ∈ tasks := List.mem_of_getElem? ht
    obtain ⟨pt', proceeded, at'⟩ := proceeds t _ l (standing.tasks t mem)
    obtain ⟨history', traced'⟩ := traced.proceeds (within t mem) proceeded
    unfold Yields
    rw [moveAt_self ht]
    refine ⟨history', _, traced', ?_⟩
    rw [List.map_append, List.map_map] at distinct
    obtain ⟨distinct, -, apart⟩ := List.nodup_append.mp distinct
    constructor
    · intro t' mem'
      rcases mem_set_of_distinct distinct ht mem' with same | ⟨mem', ne⟩
      · subst same
        simpa using at'
      · simpa [updateAt_of_ne ne] using standing.tasks t' mem'
    · intro call mem'
      have ne : call.id ≠ t.call.id := fun same =>
        apart t.call.id (List.mem_map_of_mem mem) call.id (List.mem_map_of_mem mem') same.symm
      simpa [updateAt_of_ne ne] using standing.pending call mem'

theorem Move.apply_traced (m : Move) {tasks : List Task} {pending : List Call}
    (distinct : ((tasks.map (·.call) ++ (m.call?.toList ++ pending)).map (·.id)).Nodup)
    (within : ∀ call ∈ tasks.map (·.call) ++ m.call?.toList, call ∈ calls)
    (standing : Standing places tasks (m.call?.toList ++ pending) points)
    (traced : Traced s places calls initial history points l) :
    (m.apply s places tasks).Yields l fun tasks' l' => ∃ history' points',
      Traced s places calls initial history' points' l' ∧ Standing places tasks' pending points' := by
  have own : ∀ t ∈ tasks, t.call ∈ calls := fun t mem =>
    within t.call (List.mem_append_left _ (List.mem_map_of_mem mem))
  cases m with
  | resume i =>
    exact moveAt_traced (fun t _ _ => t.advance_proceeds) distinct own standing traced i
  | cancel i =>
    exact moveAt_traced (fun t _ _ => t.cancel_proceeds) distinct own standing traced i
  | read call id => exact ⟨_, points, traced.reads call id, standing⟩
  | close call id => exact ⟨_, points, traced.closes call id, standing⟩
  | send call budget =>
    have at_ := standing.pending call (by simp [Move.call?])
    refine yields_bind (s.send_proceeds places budget call) fun _ l' sent => ?_
    obtain ⟨pt, sent, -⟩ := sent
    rw [← at_] at sent
    obtain ⟨history', traced'⟩ := traced.proceeds (within call (by simp [Move.call?])) sent
    refine ⟨history', _, traced', ?_⟩
    simp only [Move.call?, Option.toList_some, List.singleton_append, List.map_append,
      List.map_cons, List.map_map] at distinct
    obtain ⟨-, later, apart⟩ := List.nodup_append.mp distinct
    constructor
    · intro t mem
      have ne := apart t.call.id (List.mem_map_of_mem mem) call.id List.mem_cons_self
      simpa [updateAt_of_ne ne] using standing.tasks t mem
    · intro call' mem
      have ne : call'.id ≠ call.id := fun same =>
        (List.nodup_cons.mp later).1 (same ▸ List.mem_map_of_mem mem)
      simpa [updateAt_of_ne ne] using
        standing.pending call' (List.mem_append_right _ mem)

def callsOf (tasks : List Task) (ms : List Move) : List Call :=
  tasks.map (·.call) ++ ms.filterMap Move.call?

theorem runMoves_standing (ms : List Move) {tasks : List Task}
    (distinct : ((callsOf tasks ms).map (·.id)).Nodup)
    (within : ∀ call ∈ callsOf tasks ms, call ∈ calls)
    (standing : Standing places tasks (ms.filterMap Move.call?) points)
    (traced : Traced s places calls initial history points l) :
    (runMoves s places ms tasks).Yields l fun tasks' l' => ∃ history' points',
      Traced s places calls initial history' points' l' ∧ Standing places tasks' [] points' := by
  induction ms generalizing tasks history points l with
  | nil => exact ⟨history, points, traced, standing⟩
  | cons m rest ih =>
    have split : (m :: rest).filterMap Move.call? =
        m.call?.toList ++ rest.filterMap Move.call? := by
      cases hm : m.call? <;> simp [hm]
    unfold callsOf at distinct within
    rw [split] at distinct within standing
    have own : ∀ call ∈ tasks.map (·.call) ++ m.call?.toList, call ∈ calls := by
      intro call mem
      rw [← List.append_assoc] at within
      exact within call (List.mem_append_left _ mem)
    have now : (m.apply s places tasks).Yields l _ := m.apply_traced distinct own standing traced
    have members : (m.apply s places tasks).Yields l
      fun tasks' _ => tasks'.map (·.call) = tasks.map (·.call) := m.map_call_apply
    refine yields_bind (now.and members) fun tasks' l' moved => ?_
    obtain ⟨⟨history', points', traced', standing'⟩, same⟩ := moved
    refine ih ?_ (fun call mem => within call ?_) standing' traced'
    · unfold callsOf
      rw [same]
      exact distinct.sublist (((List.sublist_append_right _ _).append_left _).map _)
    · unfold callsOf at mem
      rw [same] at mem
      rcases List.mem_append.mp mem with mem | mem
      · exact List.mem_append_left _ mem
      · exact List.mem_append_right _ (List.mem_append_right _ mem)

/-- What a run of calls with names of their own comes to is traced by their pieces of work. -/
theorem runMoves_traced (s : Setting) (places : List Place) (tasks : List Task) (ms : List Move)
    (initial : List (FailureId × Failure)) (waiting : ∀ t ∈ tasks, t.stage = .waiting)
    (distinct : ((callsOf tasks ms).map (·.id)).Nodup) :
    (runMoves s places ms tasks).Yields { causes := initial } fun tasks' l => ∃ history points,
      Traced s places (callsOf tasks ms) initial history points l ∧
        ∀ t ∈ tasks', t.call ∈ callsOf tasks ms ∧ t.stage.At places (points t.call.id) := by
  have standing : Standing places tasks (ms.filterMap Move.call?)
      fun _ => ⟨[], places, .down⟩ := by
    refine ⟨fun t mem => ?_, fun _ _ => rfl⟩
    rw [waiting t mem]
    rfl
  have moves : (runMoves s places ms tasks).Yields { causes := initial } _ :=
    runMoves_standing ms distinct (fun _ mem => mem) standing .start
  have members : (runMoves s places ms tasks).Yields { causes := initial }
      fun tasks' _ => tasks'.map (·.call) = tasks.map (·.call) := map_call_runMoves ms
  refine (moves.and members).mono fun tasks' l moved => ?_
  obtain ⟨⟨history, points, traced, standing⟩, same⟩ := moved
  refine ⟨history, points, traced, fun t mem => ⟨?_, standing.tasks t mem⟩⟩
  have mem : t.call ∈ tasks'.map (·.call) := List.mem_map_of_mem mem
  rw [same] at mem
  exact List.mem_append_left _ mem

/-- What a run of calls with names of their own comes to is reached by their steps. -/
theorem runMoves_reached (s : Setting) (places : List Place) (tasks : List Task) (ms : List Move)
    (initial : List (FailureId × Failure)) (waiting : ∀ t ∈ tasks, t.stage = .waiting)
    (distinct : ((callsOf tasks ms).map (·.id)).Nodup) :
    (runMoves s places ms tasks).Yields { causes := initial } fun tasks' l => ∃ points,
      Reached s places (callsOf tasks ms) initial points l ∧
        ∀ t ∈ tasks', t.call ∈ callsOf tasks ms ∧ t.stage.At places (points t.call.id) := by
  refine (runMoves_traced s places tasks ms initial waiting distinct).mono fun tasks' l ran => ?_
  obtain ⟨history, points, traced, at_⟩ := ran
  exact ⟨points, traced.reached, at_⟩

end

end HttpRetry
