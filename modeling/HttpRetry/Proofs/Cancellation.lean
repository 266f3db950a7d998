import HttpRetry.Proofs.Closing.Moves
import HttpRetry.Proofs.Interrupts
import HttpRetry.Proofs.Rounds
set_option autoImplicit false

namespace HttpRetry

open Work

/-- Whether an event is one that can be seen, and not only a mark of where layers take over. -/
def Event.isShown : Event → Bool
  | .received .. | .left .. => false
  | _ => true

/-- Nothing has become of some work but failures made in a call's name, and marks of where a reply
was handed on. -/
structure Ledger.Still (call : Nat) (l l' : Ledger) : Prop where
  responses : l'.responses = l.responses
  causes : l'.causes = l.causes
  now : l'.now = l.now
  clocks : l'.clocks = l.clocks
  asks : l'.asks = l.asks
  delays : l'.delays = l.delays
  sends : ∀ other, (l'.calls other).sends = (l.calls other).sends
  calls : ∀ other, other ≠ call → l'.calls other = l.calls other
  metrics : l'.metrics = l.metrics
  journal : ∃ marks, l'.journal = marks ++ l.journal ∧
    ∀ e ∈ marks, e.call = call ∧ e.isShown = false

namespace Ledger.Still

variable {call : Nat} {l l' l'' : Ledger}

theorem refl (call : Nat) (l : Ledger) : Still call l l :=
  ⟨rfl, rfl, rfl, rfl, rfl, rfl, fun _ => rfl, fun _ _ => rfl, rfl, [], rfl, by simp⟩

theorem trans (h : Still call l l') (h' : Still call l' l'') : Still call l l'' where
  responses := h'.responses.trans h.responses
  causes := h'.causes.trans h.causes
  now := h'.now.trans h.now
  clocks := h'.clocks.trans h.clocks
  asks := h'.asks.trans h.asks
  delays := h'.delays.trans h.delays
  sends other := (h'.sends other).trans (h.sends other)
  calls other ne := (h'.calls other ne).trans (h.calls other ne)
  metrics := h'.metrics.trans h.metrics
  journal := by
    obtain ⟨marks, first, hidden⟩ := h.journal
    obtain ⟨marks', second, hidden'⟩ := h'.journal
    refine ⟨marks' ++ marks, ?_, fun e he => (List.mem_append.mp he).elim (hidden' e) (hidden e)⟩
    rw [second, first, List.append_assoc]

theorem note (e : Event) (own : e.call = call) (hidden : e.isShown = false) :
    Still call l (l.note e) where
  responses := rfl
  causes := rfl
  now := rfl
  clocks := rfl
  asks := rfl
  delays := rfl
  sends _ := rfl
  calls _ _ := rfl
  metrics := rfl
  journal := ⟨[e], rfl, by simp [own, hidden]⟩

theorem fail (call : Nat) (l : Ledger) (spec : FailureSpec) :
    Still call l (Work.fail call spec l).2 where
  responses := rfl
  causes := rfl
  now := rfl
  clocks := rfl
  asks := rfl
  delays := rfl
  sends other := by
    show (updateAt l.calls call _ other).sends = _
    by_cases same : other = call
    · subst same
      rw [updateAt_self]
    · rw [updateAt_of_ne same]
  calls other ne := by
    show updateAt l.calls call (fun c => { c with failures := c.failures + 1 }) other = _
    rw [updateAt_of_ne ne]
  metrics := rfl
  journal := ⟨[], rfl, by simp⟩

theorem received (call layer : Nat) (reply : Reply) (l : Ledger) :
    Still call l (l.note (.received call layer reply)) := note _ rfl rfl

theorem left (call layer : Nat) (reply : Reply) (l : Ledger) :
    Still call l (l.note (.left call layer reply)) := note _ rfl rfl

theorem passed {call : Call} (e : Failure) (frames : List Frame) {l : Ledger} :
    Still call.id l (l.passed call e frames) := by
  induction frames generalizing l with
  | nil => exact .refl call.id l
  | cons f outer ih => exact (received ..).trans ((left ..).trans ih)

end Ledger.Still

/-- An interrupt that is thrown into a call where it waits, in whatever depth of its layers and
round of their loops, ends the call, and no layer does anything about it. -/
theorem Suspended.throw_interrupt (s : Setting) (call : Call) {e : Failure}
    (interrupt : e.isInterrupt = true) (point : Suspended) (l : Ledger) :
    ∃ l', point.throw s call e l = (.finished (.raised e), l') ∧ l.Still call.id l' := by
  have same := e.outOf_of_isInterrupt s.mode.routine interrupt
  have unwinds (f : Frame) (outer : List Frame) (inner : List Place) :
      ∃ l', deliver s call outer (f.place :: inner) (.raised e)
          (l.note (.left call.id f.place.index (.raised e))) = (.finished (.raised e), l') ∧
        l.Still call.id l' :=
    ⟨_, deliver_interrupt s outer (f.place :: inner) interrupt,
      (Ledger.Still.left ..).trans (.passed e outer)⟩
  cases point with
  | sending frames =>
    refine ⟨l.passed call e frames, ?_, .passed e frames⟩
    rw [throw, same]
    exact deliver_interrupt s frames [] interrupt
  | beforeDelay delay attempt began f outer inner =>
    simp only [throw, same]
    exact unwinds f outer inner
  | afterDelay attempt began f outer inner =>
    simp only [throw, same]
    exact unwinds f outer inner
  | ready f outer inner =>
    simp only [throw, same]
    exact unwinds f outer inner

def Call.cancelledIn (call : Call) (l : Ledger) : Failure :=
  cancellation.failure (.fresh call.id (l.calls call.id).failures)

theorem Call.kind_cancelledIn (call : Call) (l : Ledger) :
    (call.cancelledIn l).kind = .cancelled := cancellation.kind_failure _

namespace Task

variable {t : Task} {l : Ledger}

/-- A call that has not ended is ended by its cancellation, and does nothing more. -/
theorem cancel_still (s : Setting) (going : t.isEnded = false) :
    (t.cancel s l).1 = .ended (.raised (t.call.cancelledIn l)) ∧
      l.Still t.call.id (t.cancel s l).2 := by
  obtain ⟨call, cancelAt, stage⟩ := t
  have failed := Ledger.Still.fail call.id l cancellation
  have interrupt : (call.cancelledIn l).isInterrupt = true := by
    rw [Failure.isInterrupt, call.kind_cancelledIn]
    rfl
  cases stage with
  | waiting => exact ⟨rfl, failed⟩
  | running point =>
    obtain ⟨l', thrown, still⟩ := point.throw_interrupt s call interrupt
      (fail call.id cancellation l).2
    have thrown : point.throw s call (fail call.id cancellation l).1
        (fail call.id cancellation l).2 = (.finished (.raised (call.cancelledIn l)), l') := thrown
    unfold cancel
    simp only
    rw [bind_apply, bind_apply, thrown]
    exact ⟨rfl, failed.trans still⟩
  | ended reply => cases going

theorem advance_ended {reply : Reply} (ended : t.stage = .ended reply) (s : Setting)
    (places : List Place) : t.advance s places l = (.ended reply, l) := by
  unfold advance
  rw [ended]
  rfl

theorem cancel_ended {reply : Reply} (ended : t.stage = .ended reply) (s : Setting) :
    t.cancel s l = (.ended reply, l) := by
  unfold cancel
  rw [ended]
  rfl

theorem advance_begins (s : Setting) (places : List Place) :
    (t.advance s places l).1 ≠ .waiting := by
  have begun : ∀ progress : Progress, progress.stage ≠ .waiting := by
    intro progress
    cases progress with
    | suspended point => exact Stage.noConfusion
    | finished reply => exact Stage.noConfusion
  obtain ⟨call, cancelAt, stage⟩ := t
  cases stage with
  | waiting => exact begun _
  | running point => exact begun _
  | ended reply => exact Stage.noConfusion

theorem cancel_begins (s : Setting) : (t.cancel s l).1 ≠ .waiting := by
  cases going : t.isEnded with
  | false =>
    rw [(cancel_still s going).1]
    exact Stage.noConfusion
  | true =>
    obtain ⟨call, cancelAt, stage⟩ := t
    cases stage with
    | ended reply => exact Stage.noConfusion
    | waiting => cases going
    | running point => cases going

end Task

namespace Move

def concerns (i : Nat) : Move → Bool
  | .resume j | .cancel j => j == i
  | _ => false

def names (call : Nat) : Move → Bool
  | .send made _ => made.id == call
  | .read reader _ | .close reader _ => reader == call
  | _ => false

end Move

section
variable {s : Setting} {places : List Place} {tasks : List Task} {l : Ledger} {i : Nat} {t : Task}

theorem moveAt_of_ne {f : Task → Work Stage} {j : Nat} (ne : j ≠ i) :
    (moveAt f tasks j l).1[i]? = tasks[i]? := by
  unfold moveAt
  cases tasks[j]? with
  | none => rfl
  | some t => exact List.getElem?_set_ne ne

theorem moveAt_self {f : Task → Work Stage} (ht : tasks[i]? = some t) :
    moveAt f tasks i l = (tasks.set i { t with stage := (f t l).1 }, (f t l).2) := by
  unfold moveAt
  rw [ht]
  rfl

theorem getElem?_moveAt_self {f : Task → Work Stage} (ht : tasks[i]? = some t) :
    (moveAt f tasks i l).1[i]? = some { t with stage := (f t l).1 } := by
  obtain ⟨lt, -⟩ := List.getElem?_eq_some_iff.mp ht
  rw [moveAt_self ht]
  exact List.getElem?_set_self lt

theorem Move.apply_of_not_concerns {m : Move} (other : m.concerns i = false) :
    (m.apply s places tasks l).1[i]? = tasks[i]? := by
  cases m with
  | resume j => exact moveAt_of_ne (by simpa [concerns] using other)
  | cancel j => exact moveAt_of_ne (by simpa [concerns] using other)
  | send call budget => rfl
  | read call id => rfl
  | close call id => rfl

theorem Move.map_call_apply (m : Move) :
    (m.apply s places tasks l).1.map (·.call) = tasks.map (·.call) := by
  have moved (f : Task → Work Stage) (j : Nat) :
      (moveAt f tasks j l).1.map (·.call) = tasks.map (·.call) := by
    cases ht : tasks[j]? with
    | none =>
      unfold moveAt
      rw [ht]
      rfl
    | some t =>
      rw [moveAt_self ht]
      exact map_call_set ht _
  cases m with
  | resume j => exact moved _ j
  | cancel j => exact moved _ j
  | send call budget => rfl
  | read call id => rfl
  | close call id => rfl

theorem Move.apply_ended {m : Move} {reply : Reply} (own : m.concerns i = true)
    (ht : tasks[i]? = some t) (ended : t.stage = .ended reply) :
    m.apply s places tasks l = (tasks, l) := by
  have stays : tasks.set i { t with stage := .ended reply } = tasks := by
    rw [← ended]
    obtain ⟨lt, rfl⟩ := List.getElem?_eq_some_iff.mp ht
    exact List.set_getElem_self lt
  cases m with
  | resume j =>
    obtain rfl : j = i := by simpa [concerns] using own
    show moveAt (Task.advance s places) tasks j l = _
    rw [moveAt_self ht, Task.advance_ended ended, stays]
  | cancel j =>
    obtain rfl : j = i := by simpa [concerns] using own
    show moveAt (Task.cancel s) tasks j l = _
    rw [moveAt_self ht, Task.cancel_ended ended, stays]
  | send call budget => cases own
  | read call id => cases own
  | close call id => cases own

theorem Move.apply_waiting {m : Move} (ht : (m.apply s places tasks l).1[i]? = some t)
    (waiting : t.stage = .waiting) : m.concerns i = false ∧ tasks[i]? = some t := by
  have others : m.concerns i = false → m.concerns i = false ∧ tasks[i]? = some t := by
    intro other
    rw [apply_of_not_concerns other] at ht
    exact ⟨other, ht⟩
  have turn {f : Task → Work Stage} (begins : ∀ t l, (f t l).1 ≠ .waiting) :
      (moveAt f tasks i l).1[i]? ≠ some t := by
    intro moved
    cases h : tasks[i]? with
    | none =>
      unfold moveAt at moved
      rw [h] at moved
      have moved : tasks[i]? = some t := moved
      rw [h] at moved
      cases moved
    | some t' =>
      rw [getElem?_moveAt_self h] at moved
      cases moved
      exact begins t' l waiting
  cases own : m.concerns i with
  | false => exact ⟨rfl, (others own).2⟩
  | true =>
    cases m with
    | resume j =>
      obtain rfl : j = i := by simpa [concerns] using own
      exact absurd ht (turn fun _ _ => Task.advance_begins s places)
    | cancel j =>
      obtain rfl : j = i := by simpa [concerns] using own
      exact absurd ht (turn fun _ _ => Task.cancel_begins s)
    | send call budget => cases own
    | read call id => cases own
    | close call id => cases own

theorem runMoves_waiting {ms : List Move} (ht : (runMoves s places ms tasks l).1[i]? = some t)
    (waiting : t.stage = .waiting) :
    (∀ m ∈ ms, m.concerns i = false) ∧ tasks[i]? = some t := by
  induction ms generalizing tasks l with
  | nil => exact ⟨by simp, ht⟩
  | cons m rest ih =>
    obtain ⟨later, between⟩ := ih ht
    obtain ⟨first, before⟩ := Move.apply_waiting between waiting
    exact ⟨List.forall_mem_cons.mpr ⟨first, later⟩, before⟩

theorem map_call_runMoves (ms : List Move) :
    (runMoves s places ms tasks l).1.map (·.call) = tasks.map (·.call) := by
  induction ms generalizing tasks l with
  | nil => rfl
  | cons m rest ih => exact ih.trans m.map_call_apply

theorem Move.apply_eventsOf {m : Move} (distinct : (tasks.map (·.call.id)).Nodup)
    (ht : tasks[i]? = some t) (turn : m.concerns i = false) (apart : m.names t.call.id = false) :
    (m.apply s places tasks l).2.eventsOf t.call.id = l.eventsOf t.call.id := by
  have others {f : Task → Work Stage} {j : Nat} (ne : j ≠ i)
      (makes : ∀ t' : Task, ∃ scope, (f t').Makes t'.call (fun _ => True) scope l) :
      (moveAt f tasks j l).2.eventsOf t.call.id = l.eventsOf t.call.id := by
    cases hj : tasks[j]? with
    | none =>
      unfold moveAt
      rw [hj]
      rfl
    | some t' =>
      rw [moveAt_self hj]
      obtain ⟨scope, changes⟩ := makes t'
      refine Changes.eventsOf_of_ne changes fun same => ne ?_
      obtain ⟨lt, -⟩ := List.getElem?_eq_some_iff.mp hj
      have lt : j < (tasks.map (·.call.id)).length := by rwa [List.length_map]
      refine (List.getElem?_inj lt distinct).mp ?_
      rw [List.getElem?_map, List.getElem?_map, hj, ht]
      exact congrArg some same.symm
  cases m with
  | resume j =>
    refine others (by simpa [concerns] using turn) fun t' => ⟨.round true, ?_⟩
    have within : t'.stage.Within fun _ => True := by
      cases t'.stage with
      | ended reply => exact fun _ _ => trivial
      | _ => trivial
    exact (Task.advance_brings t'.call.confined_all within s places).1
  | cancel j =>
    refine others (by simpa [concerns] using turn) fun t' => ⟨.round true, ?_⟩
    have within : t'.stage.Within fun _ => True := by
      cases t'.stage with
      | ended reply => exact fun _ _ => trivial
      | _ => trivial
    exact (Task.cancel_brings within s).1
  | send call budget =>
    have changes : Changes call (fun _ => True) (.round true) l _ :=
      (Setting.send_brings call.confined_all s places budget).1
    have ne : call.id ≠ t.call.id := by simpa [names] using apart
    exact changes.eventsOf_of_ne ne.symm
  | read call id =>
    have ne : call ≠ t.call.id := by simpa [names] using apart
    have changes : (Work.read s.mode (Call.idle call).id id).Makes _ (fun _ => True) .calm l :=
      read_makes trivial s.mode
    exact Changes.eventsOf_of_ne changes ne.symm
  | close call id =>
    have ne : call ≠ t.call.id := by simpa [names] using apart
    have changes : (Work.close s.mode (Call.idle call).id id).Makes _ (fun _ => True) .calm l :=
      close_makes trivial s.mode
    exact Changes.eventsOf_of_ne changes ne.symm

theorem runMoves_eventsOf {ms : List Move} (distinct : (tasks.map (·.call.id)).Nodup)
    (ht : tasks[i]? = some t) (turns : ∀ m ∈ ms, m.concerns i = false)
    (apart : ∀ m ∈ ms, m.names t.call.id = false) :
    (runMoves s places ms tasks l).2.eventsOf t.call.id = l.eventsOf t.call.id := by
  induction ms generalizing tasks l with
  | nil => rfl
  | cons m rest ih =>
    obtain ⟨turn, turns⟩ := List.forall_mem_cons.mp turns
    obtain ⟨first, apart⟩ := List.forall_mem_cons.mp apart
    have same : (m.apply s places tasks l).1.map (·.call.id) = tasks.map (·.call.id) := by
      have same := congrArg (List.map Call.id)
        (m.map_call_apply : (m.apply s places tasks l).1.map (·.call) = tasks.map (·.call))
      rwa [List.map_map, List.map_map] at same
    have step : (m.apply s places tasks l).2.eventsOf t.call.id = _ :=
      m.apply_eventsOf distinct ht turn first
    rw [← step]
    exact ih (same ▸ distinct) ((Move.apply_of_not_concerns turn).trans ht) turns apart

/-- The turns of a call that has ended can be left out of every run. -/
theorem runMoves_ended {reply : Reply} (ht : tasks[i]? = some t) (ended : t.stage = .ended reply)
    (ms : List Move) :
    runMoves s places ms tasks l =
        runMoves s places (ms.filter fun m => !m.concerns i) tasks l ∧
      (runMoves s places ms tasks l).1[i]? = some t := by
  induction ms generalizing tasks l with
  | nil => exact ⟨rfl, ht⟩
  | cons m rest ih =>
    cases own : m.concerns i with
    | true =>
      rw [List.filter_cons_of_neg (by simp [own]), runMoves_cons, Move.apply_ended own ht ended]
      exact ih ht
    | false =>
      rw [List.filter_cons_of_pos (by simp [own]), runMoves_cons, runMoves_cons]
      exact ih ((Move.apply_of_not_concerns own).trans ht)

end

/-- Any calls are moved on in any order, and one of them is cancelled where it waits: before its
first step, in the innermost transport, or in the delayer of any layer. It ends with its
cancellation, and nothing but the marks of its unwinding comes of it; whatever the retryers, the
delayers and the other calls do, its later turns can be left out, and nothing is done in its name
any more. A call that had not begun has done nothing at all. -/
theorem cancellation_ends_call (s : Setting) (places : List Place) (made : List Task) (l₀ : Ledger)
    (before : List Move) (i : Nat) (t : Task)
    (waits : (runMoves s places before made l₀).1[i]? = some t) (going : t.isEnded = false) :
    let reached := runMoves s places before made l₀
    let e := t.call.cancelledIn reached.2
    let ended : Task := { t with stage := .ended (.raised e) }
    let cancelled := (Move.cancel i).apply s places reached.1 reached.2
    e.kind = .cancelled ∧ cancelled.1 = reached.1.set i ended ∧
    reached.2.Still t.call.id cancelled.2 ∧
    (∀ after, let rest := runMoves s places after cancelled.1 cancelled.2
      rest = runMoves s places (after.filter fun m => !m.concerns i) cancelled.1 cancelled.2 ∧
      rest.1[i]? = some ended ∧
      ((made.map (·.call.id)).Nodup → (∀ m ∈ after, m.names t.call.id = false) →
        rest.2.eventsOf t.call.id = cancelled.2.eventsOf t.call.id)) ∧
    ((made.map (·.call.id)).Nodup → t.stage = .waiting →
      (∀ m ∈ before, m.names t.call.id = false) →
        cancelled.2.eventsOf t.call.id = l₀.eventsOf t.call.id) := by
  intro reached e ended cancelled
  obtain ⟨ends, still⟩ := t.cancel_still s (l := reached.2) going
  have course : cancelled = (reached.1.set i ended, (t.cancel s reached.2).2) := by
    show moveAt (Task.cancel s) reached.1 i reached.2 = _
    rw [moveAt_self waits, ends]
  have at_ : cancelled.1[i]? = some ended := by
    obtain ⟨lt, -⟩ := List.getElem?_eq_some_iff.mp waits
    rw [course]
    exact List.getElem?_set_self lt
  have members : cancelled.1.map (·.call) = made.map (·.call) :=
    (Move.cancel i).map_call_apply.trans (map_call_runMoves before)
  have ids : cancelled.1.map (·.call.id) = made.map (·.call.id) := by
    have ids := congrArg (List.map Call.id) members
    rwa [List.map_map, List.map_map] at ids
  refine ⟨t.call.kind_cancelledIn reached.2, congrArg Prod.fst course, ?_, ?_, ?_⟩
  · rw [course]
    exact still
  · intro after rest
    obtain ⟨same, stays⟩ : runMoves s places after cancelled.1 cancelled.2 = _ ∧ _ :=
      runMoves_ended at_ rfl after
    refine ⟨same, stays, fun distinct apart => ?_⟩
    show (runMoves s places after cancelled.1 cancelled.2).2.eventsOf t.call.id = _
    rw [same]
    refine runMoves_eventsOf (t := ended) (ids ▸ distinct) at_ (fun m hm => ?_) fun m hm => ?_
    · simpa using (List.mem_filter.mp hm).2
    · exact apart m (List.mem_filter.mp hm).1
  · intro distinct waiting apart
    obtain ⟨turns, ht⟩ := runMoves_waiting waits waiting
    have quiet : reached.2.eventsOf t.call.id = l₀.eventsOf t.call.id :=
      runMoves_eventsOf distinct ht turns apart
    have unwound : (t.cancel s reached.2).2.eventsOf t.call.id = reached.2.eventsOf t.call.id := by
      unfold Task.cancel
      rw [waiting]
      rfl
    rw [course, unwound, quiet]

def stubbornPlaces : List Place :=
  [⟨0, stubborn⟩, ⟨1, { stubborn with delay := some fun _ => { seconds := 1 } }⟩]

/-- One call is cancelled while the inner layer's delayer works. -/
theorem cancellation_ends_call_in_delay :
    let moves : List Move := [.resume 0, .resume 0, .resume 1]
    let run := runMoves ⟨.suspending, .binary⟩ stubbornPlaces moves sharingTasks {}
    ∃ t, run.1[0]? = some t ∧ t.isEnded = false ∧ ∃ e : Failure, e.kind = .cancelled ∧
      (runMoves ⟨.suspending, .binary⟩ stubbornPlaces [.resume 0, .resume 1, .resume 0]
        ((Move.cancel 0).apply ⟨.suspending, .binary⟩ stubbornPlaces run.1 run.2).1
        ((Move.cancel 0).apply ⟨.suspending, .binary⟩ stubbornPlaces run.1 run.2).2).1[0]? =
          some { t with stage := .ended (.raised e) } := by
  intro moves run
  obtain ⟨kind, -, -, rest, -⟩ := cancellation_ends_call ⟨.suspending, .binary⟩ stubbornPlaces
    sharingTasks {} moves 0 _ rfl rfl
  exact ⟨_, rfl, rfl, _, kind, (rest _).2.1⟩

end HttpRetry
