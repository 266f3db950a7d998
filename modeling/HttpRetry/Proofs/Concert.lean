import HttpRetry.Proofs.Alone
import HttpRetry.Proofs.Cancellation
set_option autoImplicit false

namespace HttpRetry

open Work

namespace Ledger.Still

variable {layers : List Layer} {call : Nat} {l l' : Ledger}

theorem course (still : Still call l l') : l'.course call = l.course call := by
  obtain ⟨marks, journal, hidden⟩ := still.journal
  have unseen : (marks.reverse.filter (·.call = call)).filter Event.isShown = [] := by
    refine List.filter_eq_nil_iff.mpr fun e mem => ?_
    have mem := (List.mem_filter.mp mem).1
    simp [(hidden e (List.mem_reverse.mp mem)).2]
  have events : (l'.eventsOf call).filter Event.isShown =
      (l.eventsOf call).filter Event.isShown := by
    rw [eventsOf, trace, journal, List.reverse_append, List.filter_append, List.filter_append,
      unseen, List.append_nil]
    rfl
  rw [Ledger.course, events]
  rfl

end Ledger.Still

namespace Move

def resumes (i : Nat) : Move → Bool
  | .resume j => j == i
  | _ => false

def cancels (i : Nat) : Move → Bool
  | .cancel j => j == i
  | _ => false

def isTurn : Move → Bool
  | .resume _ | .cancel _ => true
  | _ => false

end Move

/-- How a call stands after some moves: it has got as far as it does by itself, or it was cancelled
where it was, or a layer has refused it here or there that does not always do so. -/
inductive Stands (layers : List Layer) (s : Setting) (places : List Place) (moves : List Move)
    (i : Nat) (call : Call) (stage : Stage) (l : Ledger) : Prop
  | goes (k : Nat) (resumed : (∀ m ∈ moves, m.cancels i = false) → k = moves.countP (·.resumes i))
    (alike : stage.Alike (separately call.id) (Place.Uniform layers) Eq (alone s places call k).1)
    (same : Mirrored call.id l (alone s places call k).2)
  | cancelled (k : Nat) (e : Failure) (kind : e.kind = .cancelled)
    (ended : stage = .ended (.raised e)) (cancel : ∃ m ∈ moves, m.cancels i = true)
    (course : l.course call.id = (alone s places call k).2.course call.id)
  | lost (k : Nat) (unserved : Unserved layers call.id l (alone s places call k).2)

section
variable {layers : List Layer} {s : Setting} {places : List Place} {moves : List Move} {i : Nat}
  {call : Call} {stage : Stage} {l l' : Ledger}

namespace Stands

theorem skip (h : Stands layers s places moves i call stage l) {m : Move}
    (resumes : m.resumes i = false) :
    Stands layers s places (moves ++ [m]) i call stage l := by
  cases h with
  | goes k resumed alike same =>
    refine .goes k (fun kept => ?_) alike same
    rw [List.countP_append, List.countP_singleton, resumes]
    exact resumed fun m hm => kept m (List.mem_append_left _ hm)
  | cancelled k e kind ended cancel course =>
    obtain ⟨m', hm, hc⟩ := cancel
    exact .cancelled k e kind ended ⟨m', List.mem_append_left _ hm, hc⟩ course
  | lost k unserved => exact .lost k unserved

theorem apart {other : Call} {scope : Scope} (h : Stands layers s places moves i call stage l)
    (changes : Changes other (fun id => id.call = other.id) scope l l')
    (spares : Spares layers other.id l l') (ne : call.id ≠ other.id) :
    Stands layers s places moves i call stage l' := by
  cases h with
  | goes k resumed alike same =>
    exact .goes k resumed alike ((Mirrored.apart changes spares ne).symm.trans same)
  | cancelled k e kind ended cancel course =>
    refine .cancelled k e kind ended cancel ?_
    rw [← course, Ledger.course, changes.eventsOf_of_ne ne]
    rfl
  | lost k unserved => exact .lost k (unserved.imp_left (mt (Ledger.serves_of_changes changes)))

variable {t : Task}

theorem resume (h : Stands layers s places moves i t.call t.stage l) (own : t.call.IsPrivate)
    (uniform : List.Forall₂ (Place.Uniform layers) places places)
    (changes : Changes t.call (fun id => id.call = t.call.id) (.round true) l
      (t.advance s places l).2) :
    Stands layers s places (moves ++ [.resume i]) i t.call (t.advance s places l).1
      (t.advance s places l).2 := by
  cases h with
  | goes k resumed alike same =>
    have step : Tracks (Together (Mirrored t.call.id)) (Unserved layers t.call.id)
        (Stage.Alike (separately t.call.id) (Place.Uniform layers)) (t.advance s places)
        (Task.advance s places ⟨t.call, t.cancelAt, (alone s places t.call k).1⟩) Eq l _ :=
      Task.tracks_advance (Mirrored.course layers s own) (Mirrored.transmits s own) uniform
        t.cancelAt alike ⟨fun _ _ => .rfl, same⟩
    rcases step with ⟨ids, -, alike, names, same⟩ | unserved
    · refine .goes (k + 1) (fun kept => ?_) (alike.mono fun {a b} => (names a b).mp) same
      rw [List.countP_append, List.countP_singleton, Move.resumes, beq_self_eq_true, if_pos rfl,
        ← resumed fun m hm => kept m (List.mem_append_left _ hm)]
    · exact .lost (k + 1) unserved
  | cancelled k e kind ended cancel course =>
    obtain ⟨m, hm, hc⟩ := cancel
    rw [Task.advance_ended ended]
    exact .cancelled k e kind rfl ⟨m, List.mem_append_left _ hm, hc⟩ course
  | lost k unserved => exact .lost k (unserved.imp_left (mt (Ledger.serves_of_changes changes)))

theorem cancel (h : Stands layers s places moves i t.call t.stage l)
    (changes : Changes t.call (fun id => id.call = t.call.id) (.round true) l (t.cancel s l).2) :
    Stands layers s places (moves ++ [.cancel i]) i t.call (t.cancel s l).1 (t.cancel s l).2 := by
  have last : ∃ m ∈ moves ++ [.cancel i], m.cancels i = true :=
    ⟨.cancel i, List.mem_append_right _ (List.mem_singleton_self _), beq_self_eq_true i⟩
  cases h with
  | goes k resumed alike same =>
    by_cases ended : ∃ reply, t.stage = .ended reply
    · obtain ⟨reply, ended⟩ := ended
      rw [Task.cancel_ended ended, ← ended]
      refine .goes k (fun kept => ?_) alike same
      obtain ⟨m, hm, hc⟩ := last
      rw [kept m hm] at hc
      cases hc
    · have going : t.isEnded = false := by
        unfold Task.isEnded
        cases stage : t.stage with
        | ended reply => exact absurd ⟨reply, stage⟩ ended
        | _ => rfl
      obtain ⟨ends, still⟩ := t.cancel_still s (l := l) going
      exact .cancelled k _ (t.call.kind_cancelledIn l) ends last
        (still.course.trans same.course_eq.symm)
  | cancelled k e kind ended cancel course =>
    rw [Task.cancel_ended ended]
    exact .cancelled k e kind rfl last course
  | lost k unserved => exact .lost k (unserved.imp_left (mt (Ledger.serves_of_changes changes)))

end Stands

/-- A call of a run in turns: what it may hold is its own, and so is what it is given. -/
structure Task.Apart (layers : List Layer) (places : List Place) (t : Task) : Prop where
  within : t.stage.Within fun id => id.call = t.call.id
  plain : ∃ pt, t.stage.At places pt ∧ pt.Plain layers t.call

theorem Task.Apart.turn {t : Task} {f : Task → Work Stage} (h : t.Apart layers places)
    (standard : ∀ layer ∈ layers, layer.retryer.isScripted = false)
    (brings : (f t).Brings t.call (fun id => id.call = t.call.id) (.round true) l
      (·.Within fun id => id.call = t.call.id))
    (proceeds : ∀ {pt}, t.stage.At places pt → (f t).Yields l fun stage l' => ∃ pt',
      Proceeds s t.call (pt, l) (pt', l') ∧ stage.At places pt') :
    Task.Apart layers places { t with stage := (f t l).1 } ∧ Spares layers t.call.id l (f t l).2 := by
  obtain ⟨pt, at_, plain⟩ := h.plain
  obtain ⟨pt', step, at'⟩ := proceeds at_
  obtain ⟨plain, spares⟩ := step.spares standard plain
  exact ⟨⟨brings.2, pt', at', plain⟩, spares⟩

structure Concert (layers : List Layer) (s : Setting) (places : List Place) (moves : List Move)
    (calls : List Call) (tasks : List Task) (l : Ledger) : Prop where
  members : tasks.map (·.call) = calls
  stands : ∀ i t, tasks[i]? = some t → Stands layers s places moves i t.call t.stage l
  apart : ∀ t ∈ tasks, t.Apart layers places
  tallied : l.Tallied layers
  own : ∀ e ∈ l.journal, e.call ∈ calls.map (·.id)

namespace Concert

variable {calls : List Call} {tasks : List Task}

theorem begins (s : Setting) (stacked : places = placesFrom 0 layers) (calls : List Call) :
    Concert layers s places [] calls (calls.map fun call => ⟨call, none, .waiting⟩) {} where
  members := by
    rw [List.map_map]
    exact List.map_id calls
  stands i t ht := by
    rw [List.getElem?_map, Option.map_eq_some_iff] at ht
    obtain ⟨call, -, rfl⟩ := ht
    exact .goes 0 (fun _ => rfl) .waiting (.refl call.id {})
  apart := by
    refine List.forall_mem_map.mpr fun call _ => ⟨trivial, _, rfl, ?_⟩
    rw [stacked]
    exact Point.plain_start layers call
  tallied := ⟨fun _ _ => rfl, rfl⟩
  own e he := absurd he List.not_mem_nil

theorem mem_calls (h : Concert layers s places moves calls tasks l) {t : Task}
    (ht : tasks[i]? = some t) : t.call ∈ calls := by
  rw [← h.members]
  exact List.mem_map_of_mem (List.mem_of_getElem? ht)

theorem index_eq (h : Concert layers s places moves calls tasks l)
    (distinct : (calls.map (·.id)).Nodup) {j : Nat} {t t' : Task} (ht : tasks[j]? = some t)
    (ht' : tasks[i]? = some t') (same : t'.call.id = t.call.id) : j = i := by
  have at_ (n : Nat) : (calls.map (·.id))[n]? = (tasks[n]?).map (·.call.id) := by
    rw [← h.members, List.map_map, List.getElem?_map]
    rfl
  have lt : j < (calls.map (·.id)).length := by
    obtain ⟨lt, -⟩ := List.getElem?_eq_some_iff.mp ht
    rw [List.length_map, ← h.members, List.length_map]
    exact lt
  refine (List.getElem?_inj lt distinct).mp ?_
  rw [at_, at_, ht, ht']
  exact congrArg some same.symm

theorem turn (h : Concert layers s places moves calls tasks l) (distinct : (calls.map (·.id)).Nodup)
    (standard : ∀ layer ∈ layers, layer.retryer.isScripted = false) {f : Task → Work Stage}
    {j : Nat} {m : Move} (others : ∀ i, i ≠ j → m.resumes i = false)
    (brings : ∀ t, tasks[j]? = some t → (f t).Brings t.call (fun id => id.call = t.call.id)
      (.round true) l (·.Within fun id => id.call = t.call.id))
    (proceeds : ∀ {t : Task} {pt}, t.stage.At places pt → (f t).Yields l fun stage l' => ∃ pt',
      Proceeds s t.call (pt, l) (pt', l') ∧ stage.At places pt')
    (stands : ∀ t, tasks[j]? = some t →
      Stands layers s places (moves ++ [m]) j t.call (f t l).1 (f t l).2) :
    Concert layers s places (moves ++ [m]) calls (moveAt f tasks j l).1 (moveAt f tasks j l).2 := by
  cases ht : tasks[j]? with
  | none =>
    unfold moveAt
    rw [ht]
    refine ⟨h.members, fun i t hi => (h.stands i t hi).skip (others i ?_), h.apart, h.tallied,
      h.own⟩
    rintro rfl
    have hi : tasks[i]? = some t := hi
    rw [ht] at hi
    cases hi
  | some t =>
    have changes := (brings t ht).1
    obtain ⟨apart, spares⟩ := (h.apart t (List.mem_of_getElem? ht)).turn standard (brings t ht)
      proceeds
    rw [moveAt_self ht]
    refine ⟨(map_call_set ht _).trans h.members, fun i t' hi => ?_, fun t' ht' => ?_,
      spares.tally h.tallied, fun e he => ?_⟩
    · have hi : (tasks.set j { t with stage := (f t l).1 })[i]? = some t' := hi
      by_cases same : j = i
      · subst same
        obtain ⟨lt, -⟩ := List.getElem?_eq_some_iff.mp ht
        rw [List.getElem?_set_self lt] at hi
        cases hi
        exact stands t ht
      · rw [List.getElem?_set_ne same] at hi
        exact ((h.stands i t' hi).skip (others i (Ne.symm same))).apart changes spares fun eq =>
          same (h.index_eq distinct ht hi eq)
    · rcases List.mem_or_eq_of_mem_set ht' with old | rfl
      · exact h.apart t' old
      · exact apart
    · rcases changes.call_of_mem he with mem | own
      · exact h.own e mem
      · rw [own]
        exact List.mem_map_of_mem (h.mem_calls ht)

theorem move (h : Concert layers s places moves calls tasks l) (distinct : (calls.map (·.id)).Nodup)
    (own : ∀ call ∈ calls, call.IsPrivate) (uniform : ∀ layer ∈ layers, layer.Uniform)
    (related : List.Forall₂ (Place.Uniform layers) places places) {m : Move}
    (turn : m.isTurn = true) :
    Concert layers s places (moves ++ [m]) calls (m.apply s places tasks l).1
      (m.apply s places tasks l).2 := by
  have standard : ∀ layer ∈ layers, layer.retryer.isScripted = false :=
    fun layer mem => (uniform layer mem).unscripted
  have within {j : Nat} {t : Task} (ht : tasks[j]? = some t) :=
    (h.apart t (List.mem_of_getElem? ht)).within
  cases m with
  | resume j =>
    have brings (t : Task) (ht : tasks[j]? = some t) : (t.advance s places).Brings t.call
        (fun id => id.call = t.call.id) (.round true) l (·.Within fun id => id.call = t.call.id) :=
      Task.advance_brings (own t.call (h.mem_calls ht)).confined (within ht) s places
    refine h.turn distinct standard (fun i ne => beq_eq_false_iff_ne.mpr (Ne.symm ne)) brings
      Task.advance_proceeds fun t ht => ?_
    exact (h.stands j t ht).resume (own t.call (h.mem_calls ht)) related (brings t ht).1
  | cancel j =>
    have brings (t : Task) (ht : tasks[j]? = some t) : (t.cancel s).Brings t.call
        (fun id => id.call = t.call.id) (.round true) l (·.Within fun id => id.call = t.call.id) :=
      Task.cancel_brings (within ht) s
    refine h.turn distinct standard (fun _ _ => rfl) brings Task.cancel_proceeds fun t ht => ?_
    exact (h.stands j t ht).cancel (brings t ht).1
  | send call budget => cases turn
  | read call id => cases turn
  | close call id => cases turn

theorem run (h : Concert layers s places moves calls tasks l) (distinct : (calls.map (·.id)).Nodup)
    (own : ∀ call ∈ calls, call.IsPrivate) (uniform : ∀ layer ∈ layers, layer.Uniform)
    (related : List.Forall₂ (Place.Uniform layers) places places) {more : List Move}
    (turns : ∀ m ∈ more, m.isTurn = true) :
    Concert layers s places (moves ++ more) calls (runMoves s places more tasks l).1
      (runMoves s places more tasks l).2 := by
  induction more generalizing moves tasks l with
  | nil =>
    rw [List.append_nil]
    exact h
  | cons m rest ih =>
    obtain ⟨first, turns⟩ := List.forall_mem_cons.mp turns
    have next := ih (h.move distinct own uniform related first) turns
    rw [List.append_assoc] at next
    exact next

end Concert

end

end HttpRetry
