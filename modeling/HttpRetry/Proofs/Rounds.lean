import HttpRetry.Schedule
import HttpRetry.Proofs.Yields
set_option autoImplicit false

namespace HttpRetry

variable (s : Setting) (places : List Place)

theorem runMoves_cons (m : Move) (ms : List Move) (tasks : List Task) (l : Ledger) :
    runMoves s places (m :: ms) tasks l =
      runMoves s places ms (m.apply s places tasks l).1 (m.apply s places tasks l).2 := rfl

theorem runMoves_append (ms ms' : List Move) (tasks : List Task) :
    runMoves s places (ms ++ ms') tasks =
      (do runMoves s places ms' (← runMoves s places ms tasks)) := by
  induction ms generalizing tasks with
  | nil => rfl
  | cons m rest ih =>
    funext l
    exact congrFun (ih (m.apply s places tasks l).1) (m.apply s places tasks l).2

theorem moveAt_apply {f : Task → Work Stage} {tasks : List Task} {i : Nat} {t : Task}
    (ht : tasks[i]? = some t) (l : Ledger) :
    moveAt f tasks i l = (tasks.set i { t with stage := (f t l).1 }, (f t l).2) := by
  simp [moveAt, ht, Work.bind_apply, Work.pure_apply]

theorem set_same {tasks : List Task} {i : Nat} {t : Task} (ht : tasks[i]? = some t) :
    tasks.set i t = tasks := by
  obtain ⟨lt, rfl⟩ := List.getElem?_eq_some_iff.mp ht
  exact List.set_getElem_self lt

theorem settle_eq_moves (fuel : Nat) {tasks : List Task} {i : Nat} {t : Task}
    (ht : tasks[i]? = some t) (l : Ledger) :
    ∃ n, runMoves s places (List.replicate n (.resume i)) tasks l =
      (tasks.set i { t with stage := (Task.settle s t.call fuel t.stage l).1 },
        (Task.settle s t.call fuel t.stage l).2) := by
  have stays : runMoves s places (List.replicate 0 (.resume i)) tasks l =
      (tasks.set i { t with stage := t.stage }, l) := by
    rw [show ({ t with stage := t.stage } : Task) = t from rfl, set_same ht]
    rfl
  induction fuel generalizing tasks t l with
  | zero => exact ⟨0, stays⟩
  | succ fuel ih =>
    obtain ⟨call, cancelAt, stage⟩ := t
    cases stage with
    | waiting => exact ⟨0, stays⟩
    | ended reply => exact ⟨0, stays⟩
    | running point =>
      cases pauses : point.pauses with
      | true =>
        refine ⟨0, ?_⟩
        simp only [Task.settle, pauses, if_true]
        exact stays
      | false =>
        have lt : i < tasks.length := (List.getElem?_eq_some_iff.mp ht).1
        have moved := moveAt_apply (f := Task.advance s places) ht l
        have at_i : (tasks.set i ⟨call, cancelAt, (point.resume s call l).1.stage⟩)[i]? =
            some ⟨call, cancelAt, (point.resume s call l).1.stage⟩ := by simp [lt]
        obtain ⟨n, hn⟩ := ih at_i (point.resume s call l).2 (by
          rw [set_same at_i]
          rfl)
        refine ⟨n + 1, ?_⟩
        rw [List.replicate_succ, runMoves_cons]
        show runMoves s places _ (moveAt (Task.advance s places) tasks i l).1
          (moveAt (Task.advance s places) tasks i l).2 = _
        rw [moved]
        simp only [Task.settle, pauses, Bool.false_eq_true, if_false]
        rw [List.set_set] at hn
        exact hn

theorem moveIn_apply (round i : Nat) {tasks : List Task} {t : Task} (ht : tasks[i]? = some t)
    (l : Ledger) :
    (t.moveIn round i).apply s places tasks l =
      (tasks.set i { t with stage := (t.move s places round l).1 }, (t.move s places round l).2) := by
  unfold Task.moveIn Task.move
  split
  · exact moveAt_apply ht l
  · exact moveAt_apply ht l

/-- The turn of a call is one move of it, and some more while it does not wait. -/
theorem turn_eq_moves (fuel round : Nat) (done : List Task) (t : Task) (rest : List Task)
    (l : Ledger) :
    ∃ n, runMoves s places (t.moveIn round done.length :: List.replicate n (.resume done.length))
        (done ++ t :: rest) l =
      (done ++ (t.turn s places fuel round l).1 :: rest, (t.turn s places fuel round l).2) := by
  have ht : (done ++ t :: rest)[done.length]? = some t := by simp
  have there : ((done ++ t :: rest).set done.length
      { t with stage := (t.move s places round l).1 })[done.length]? =
      some { t with stage := (t.move s places round l).1 } := by simp
  obtain ⟨n, hn⟩ := settle_eq_moves s places fuel there (t.move s places round l).2
  refine ⟨n, ?_⟩
  rw [runMoves_cons, moveIn_apply s places round done.length ht l]
  refine hn.trans ?_
  rw [List.set_set]
  simp [Task.turn, Work.bind_apply, Work.map_apply]

theorem turnAll_eq_moves (fuel round : Nat) (done tasks : List Task) (l : Ledger) :
    ∃ ms, runMoves s places ms (done ++ tasks) l =
      (done ++ (turnAll s places fuel round tasks l).1, (turnAll s places fuel round tasks l).2) := by
  induction tasks generalizing done l with
  | nil => exact ⟨[], by simp [runMoves, turnAll, Work.pure_apply]⟩
  | cons t rest ih =>
    obtain ⟨n, moved⟩ := turn_eq_moves s places fuel round done t rest l
    obtain ⟨ms, hms⟩ := ih (done ++ [(t.turn s places fuel round l).1])
      (t.turn s places fuel round l).2
    refine ⟨(t.moveIn round done.length :: List.replicate n (.resume done.length)) ++ ms, ?_⟩
    simp only [List.append_assoc, List.cons_append, List.nil_append] at hms
    rw [runMoves_append, Work.bind_apply, moved]
    exact hms

/-- Running calls in rounds to their ends is moving them on in one of the possible orders. -/
theorem runRounds_eq_moves (fuel rounds round : Nat) (tasks : List Task) (l : Ledger) :
    ∃ ms, runRounds s places fuel rounds round tasks l = runMoves s places ms tasks l := by
  induction rounds generalizing round tasks l with
  | zero => exact ⟨[], rfl⟩
  | succ rounds ih =>
    unfold runRounds
    split
    · exact ⟨[], rfl⟩
    · obtain ⟨ms, hms⟩ := turnAll_eq_moves s places fuel round [] tasks l
      obtain ⟨ms', hms'⟩ := ih (round + 1) (turnAll s places fuel round tasks l).1
        (turnAll s places fuel round tasks l).2
      refine ⟨ms ++ ms', ?_⟩
      rw [runMoves_append]
      simp only [List.nil_append] at hms
      show runRounds s places fuel rounds (round + 1) _ _ = runMoves s places ms' _ _
      rw [hms', hms]

theorem mem_set_of_distinct {tasks : List Task} {i : Nat} {t new t' : Task}
    (distinct : (tasks.map (·.call.id)).Nodup) (ht : tasks[i]? = some t)
    (h : t' ∈ tasks.set i new) : t' = new ∨ t' ∈ tasks ∧ t'.call.id ≠ t.call.id := by
  induction tasks generalizing i with
  | nil => simp at h
  | cons first rest ih =>
    obtain ⟨absent, distinct⟩ := List.nodup_cons.mp distinct
    cases i with
    | zero =>
      cases ht
      rcases List.mem_cons.mp h with e | mem
      · exact .inl e
      · exact .inr ⟨List.mem_cons_of_mem _ mem, fun same =>
          absurd (List.mem_map.mpr ⟨t', mem, same⟩) absent⟩
    | succ i =>
      rcases List.mem_cons.mp h with e | mem
      · have mem : t ∈ rest := List.mem_of_getElem? ht
        refine .inr ⟨e ▸ List.mem_cons_self, fun same => absurd ?_ absent⟩
        exact List.mem_map.mpr ⟨t, mem, e ▸ same.symm⟩
      · rcases ih distinct ht mem with e | ⟨mem, ne⟩
        · exact .inl e
        · exact .inr ⟨List.mem_cons_of_mem _ mem, ne⟩

theorem map_call_set {tasks : List Task} {i : Nat} {t : Task} (ht : tasks[i]? = some t)
    (stage : Stage) : (tasks.set i { t with stage }).map (·.call) = tasks.map (·.call) := by
  rw [List.map_set]
  refine List.ext_getElem? fun j => ?_
  by_cases h : i = j
  · subst h
    obtain ⟨lt, rfl⟩ := List.getElem?_eq_some_iff.mp ht
    simp [lt]
  · simp [h]

end HttpRetry
