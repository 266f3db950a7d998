import Mathlib.Algebra.GroupWithZero.Nat
import HttpRetry.Proofs.Concert
set_option autoImplicit false

namespace HttpRetry

open Work

theorem countP_eq_sum (f : Event → Bool) {ids : List Nat} (distinct : ids.Nodup)
    {events : List Event} (own : ∀ e ∈ events, e.call ∈ ids) :
    events.countP f = (ids.map fun id => (events.filter (·.call = id)).countP f).sum := by
  induction ids generalizing events with
  | nil =>
    obtain rfl := List.eq_nil_iff_forall_not_mem.mpr fun e he => absurd (own e he) List.not_mem_nil
    rfl
  | cons id rest ih =>
    obtain ⟨absent, distinct⟩ := List.nodup_cons.mp distinct
    rw [List.map_cons, List.sum_cons, List.countP_eq_countP_filter_add events f (·.call = id)]
    congr 1
    have others : ∀ e ∈ events.filter fun e => !decide (e.call = id), e.call ∈ rest := by
      intro e he
      obtain ⟨mem, foreign⟩ := List.mem_filter.mp he
      have foreign : e.call ≠ id := by simpa using foreign
      exact (List.mem_cons.mp (own e mem)).resolve_left foreign
    rw [ih distinct others]
    congr 1
    refine List.map_congr_left fun j hj => ?_
    have ne : j ≠ id := fun eq => absent (eq ▸ hj)
    rw [List.filter_filter]
    congr 1
    refine List.filter_congr fun e _ => ?_
    by_cases h : e.call = j
    · simp [h, ne]
    · simp [h]

structure Ledger.Counted (layers : List Layer) (calls : List Call) (l : Ledger) : Prop where
  attempts : ∀ method decision, l.metrics.attemptCount method decision =
    (calls.map fun call => (l.course call.id).countP (Event.attempts layers method decision)).sum
  drainErrors : l.metrics.drainErrors =
    (calls.map fun call => (l.course call.id).countP (Event.drainErrors layers)).sum

theorem Event.attempts_timeless (layers : List Layer) (method : String) (decision : Decision)
    (e : Event) :
    e.timeless.attempts layers method decision = e.attempts layers method decision := by
  cases e with
  | answered call layer attempt d => simp [timeless, attempts]
  | _ => rfl

theorem Event.drainErrors_timeless (layers : List Layer) (e : Event) :
    e.timeless.drainErrors layers = e.drainErrors layers := by
  cases e with
  | logged call layer entry =>
    obtain ⟨sink, request, notice⟩ := entry
    cases notice <;> rfl
  | _ => rfl

/-- The course of a call shows all that counts. -/
theorem Ledger.countP_course (l : Ledger) (call : Nat) {f : Event → Bool}
    (timeless : ∀ e, f e.timeless = f e) (shown : ∀ e, f e = true → e.isShown = true) :
    (l.course call).countP f = (l.eventsOf call).countP f := by
  rw [Ledger.course, List.countP_map, List.countP_filter]
  refine List.countP_congr fun e _ => ?_
  simp only [Function.comp, timeless, Bool.and_eq_true]
  exact ⟨fun h => h.1, fun h => ⟨h, shown e h⟩⟩

theorem Ledger.Tallied.counted {layers : List Layer} {calls : List Call} {l : Ledger}
    (tallied : l.Tallied layers) (distinct : (calls.map (·.id)).Nodup)
    (own : ∀ e ∈ l.journal, e.call ∈ calls.map (·.id)) : l.Counted layers calls := by
  have split : ∀ {f : Event → Bool}, (∀ e, f e.timeless = f e) →
    (∀ e, f e = true → e.isShown = true) →
      l.journal.countP f = (calls.map fun call => (l.course call.id).countP f).sum := by
    intro f timeless shown
    have own : ∀ e ∈ l.trace, e.call ∈ calls.map (·.id) :=
      fun e he => own e (List.mem_reverse.mp he)
    rw [← List.countP_reverse, ← Ledger.trace, countP_eq_sum f distinct own, List.map_map]
    congr 1
    refine List.map_congr_left fun call _ => ?_
    exact (l.countP_course call.id timeless shown).symm
  refine ⟨fun method decision => ?_, ?_⟩
  · rw [tallied.attempts]
    refine split (Event.attempts_timeless layers method decision) fun e h => ?_
    cases e with
    | answered call layer attempt d => rfl
    | _ => cases h
  · rw [tallied.drainErrors]
    refine split (Event.drainErrors_timeless layers) fun e h => ?_
    cases e with
    | logged call layer entry => rfl
    | _ => cases h

theorem placesFrom_in (before rest : List Layer) :
    ∀ p ∈ placesFrom before.length rest, p.In (before ++ rest) ∧ p.layer ∈ rest := by
  induction rest generalizing before with
  | nil => exact fun p h => absurd h List.not_mem_nil
  | cons layer inner ih =>
    refine List.forall_mem_cons.mpr ⟨⟨?_, List.mem_cons_self⟩, fun p hp => ?_⟩
    · show (before ++ layer :: inner)[before.length]? = some layer
      simp
    · have later := ih (before ++ [layer])
      rw [List.length_append, List.append_assoc] at later
      obtain ⟨in_, mem⟩ := later p hp
      exact ⟨in_, List.mem_cons_of_mem _ mem⟩

theorem related_places {layers : List Layer} (uniform : ∀ layer ∈ layers, layer.Uniform) :
    List.Forall₂ (Place.Uniform layers) (placesFrom 0 layers) (placesFrom 0 layers) := by
  refine List.forall₂_same.mpr fun p hp => ?_
  obtain ⟨in_, mem⟩ := placesFrom_in [] layers p hp
  exact ⟨rfl, in_, uniform p.layer mem⟩

def sendAll (s : Setting) (places : List Place) (budget : Nat) :
    List Call → Work (List (Option Reply))
  | [] => return []
  | call :: rest => do
    let sent ← sendThrough s call budget places
    return sent :: (← sendAll s places budget rest)

section
variable {layers : List Layer} {ids ids' : List Nat} {l l' l'' : Ledger}

/-- What some calls leave as it is: all that other calls see, and the agreement of the counters with
the events. -/
structure LeavesOthers (layers : List Layer) (ids : List Nat) (l l' : Ledger) : Prop where
  others : ∀ id, id ∉ ids → Mirrored id l l'
  serves : ∀ id, l'.Serves layers id → l.Serves layers id
  tally : l.Tallied layers → l'.Tallied layers
  journal : ∀ e ∈ l'.journal, e ∈ l.journal ∨ e.call ∈ ids

namespace LeavesOthers

theorem refl (layers : List Layer) (l : Ledger) : LeavesOthers layers [] l l :=
  ⟨fun id _ => .refl id l, fun _ served => served, fun tallied => tallied, fun _ he => .inl he⟩

theorem of_call {call : Call} {scope : Scope}
    (changes : Changes call (fun id => id.call = call.id) scope l l')
    (spares : Spares layers call.id l l') : LeavesOthers layers [call.id] l l' where
  others _ out := .apart changes spares fun eq => out (List.mem_singleton.mpr eq)
  serves _ := Ledger.serves_of_changes changes
  tally := spares.tally
  journal _ he := (changes.call_of_mem he).imp_right List.mem_singleton.mpr

theorem trans (h : LeavesOthers layers ids l l') (h' : LeavesOthers layers ids' l' l'') :
    LeavesOthers layers (ids ++ ids') l l'' where
  others id out :=
    (h.others id fun mem => out (List.mem_append_left _ mem)).trans
      (h'.others id fun mem => out (List.mem_append_right _ mem))
  serves id served := h.serves id (h'.serves id served)
  tally tallied := h'.tally (h.tally tallied)
  journal e he := by
    rcases h'.journal e he with mem | own
    · exact (h.journal e mem).imp_right (List.mem_append_left _)
    · exact .inr (List.mem_append_right _ own)

end LeavesOthers

theorem sendAll_tracks (uniform : ∀ layer ∈ layers, layer.Uniform) (s : Setting) (budget : Nat)
    {calls : List Call} (distinct : (calls.map (·.id)).Nodup)
    (own : ∀ call ∈ calls, call.IsPrivate) (fresh : ∀ call ∈ calls, Mirrored call.id l {}) :
    let run := sendAll s (placesFrom 0 layers) budget calls l
    (∀ (i : Nat) call, calls[i]? = some call →
      let solo := sendThrough s call budget (placesFrom 0 layers) {}
      run.2.Serves layers call.id → solo.2.Serves layers call.id →
        ∃ sent, run.1[i]? = some sent ∧ Sent.Alike (separately call.id) Eq sent solo.1 ∧
          Mirrored call.id run.2 solo.2) ∧
    LeavesOthers layers (calls.map (·.id)) l run.2 := by
  induction calls generalizing l with
  | nil =>
    refine ⟨fun i call h => ?_, .refl layers l⟩
    cases h
  | cons call rest ih =>
    intro run
    obtain ⟨absent, distinct⟩ := List.nodup_cons.mp distinct
    obtain ⟨mine, own⟩ := List.forall_mem_cons.mp own
    obtain ⟨first, fresh⟩ := List.forall_mem_cons.mp fresh
    have brings : (sendThrough s call budget (placesFrom 0 layers)).Brings call
        (fun id => id.call = call.id) (.round true) l _ := sendThrough_brings mine.confined s budget _
    obtain ⟨pt, proceeds, -⟩ := sendThrough_proceeds (l := l) s call budget (placesFrom 0 layers)
    obtain ⟨-, spares⟩ := proceeds.spares (fun layer mem => (uniform layer mem).unscripted)
      (Point.plain_start layers call)
    have step : LeavesOthers layers [call.id] l
        (sendThrough s call budget (placesFrom 0 layers) l).2 := .of_call brings.1 spares
    have apart : ∀ c ∈ rest, c.id ∉ [call.id] := by
      intro c hc mem
      have mem' : c.id ∈ rest.map (·.id) := List.mem_map_of_mem hc
      rw [List.mem_singleton.mp mem] at mem'
      exact absent mem'
    obtain ⟨each, later⟩ := ih distinct own fun c hc =>
      (step.others _ (apart c hc)).symm.trans (fresh c hc)
    refine ⟨fun i c hc => ?_, step.trans later⟩
    cases i with
    | zero =>
      cases hc
      intro solo served servedAlone
      have sent : Tracks (Together (Mirrored call.id)) (Unserved layers call.id)
          (Sent.Alike (separately call.id)) (sendThrough s call budget (placesFrom 0 layers))
          (sendThrough s call budget (placesFrom 0 layers)) Eq l {} :=
        tracks_sendThrough (Mirrored.course layers s mine) (Mirrored.transmits s mine)
          (related_places uniform) budget ⟨fun _ _ => .rfl, first⟩
      rcases sent with ⟨names, -, alike, tied, same⟩ | unserved | unserved
      · exact ⟨_, rfl, Sent.Alike.mono (fun {a b} => (tied a b).mp) alike,
          (later.others _ absent).symm.trans same⟩
      · exact absurd (later.serves call.id served) unserved
      · exact absurd servedAlone unserved
    | succ i => exact each i c hc

end

/-- How a call in a run with others compares to the same call by itself: by itself it comes to an
end, and it does nothing here that it does not do there. If it is never cancelled, it has come
exactly as far as it comes by itself when resumed so often; else it may have been ended by its
cancellation. -/
structure Undisturbed (s : Setting) (places : List Place) (moves : List Move) (i : Nat)
    (call : Call) (stage : Stage) (l : Ledger) : Prop where
  ends : ∃ n reply, (∀ k, n ≤ k → alone s places call k = alone s places call n) ∧
    (alone s places call n).1 = .ended reply ∧
    l.course call.id <+: (alone s places call n).2.course call.id
  uncancelled : (∀ m ∈ moves, m.cancels i = false) →
    SameRun call.id stage (alone s places call (moves.countP (·.resumes i))).1 l
      (alone s places call (moves.countP (·.resumes i))).2
  otherwise : (∃ k, SameRun call.id stage (alone s places call k).1 l (alone s places call k).2) ∨
    ∃ e : Failure, e.kind = .cancelled ∧ stage = .ended (.raised e) ∧
      ∃ m ∈ moves, m.cancels i = true

section
variable {layers : List Layer} {s : Setting} {places : List Place}

theorem Stands.undisturbed {moves : List Move} {i : Nat} {call : Call} {stage : Stage} {l : Ledger}
    (h : Stands layers s places moves i call stage l) (own : call.IsPrivate)
    (standard : ∀ p ∈ places, ∃ policy, p.layer.retryer = .standard policy)
    (served : l.Serves layers call.id)
    (servedAlone : ∀ k, (alone s places call k).2.Serves layers call.id) :
    Undisturbed s places moves i call stage l := by
  obtain ⟨n, reply, ended⟩ : ∃ n reply, (alone s places call n).1 = .ended reply :=
    alone_ends standard
  have final : ∀ k, n ≤ k → alone s places call k = alone s places call n := fun k le =>
    alone_ended ended le
  have within := alone_course_ended own ended
  cases h with
  | goes k resumed alike same =>
    have run : SameRun call.id stage (alone s places call k).1 l (alone s places call k).2 :=
      same.sameRun (alike.timeless (fun _ _ named => named) fun _ _ twins => twins.1)
    refine ⟨⟨n, reply, final, ended, ?_⟩, fun kept => ?_, .inl ⟨k, run⟩⟩
    · rw [run.course]
      exact within k
    · rw [← resumed kept]
      exact run
  | cancelled k e kind stopped cancel course =>
    refine ⟨⟨n, reply, final, ended, ?_⟩, fun kept => ?_, .inr ⟨e, kind, stopped, cancel⟩⟩
    · rw [course]
      exact within k
    · obtain ⟨m, hm, hc⟩ := cancel
      rw [kept m hm] at hc
      cases hc
  | lost k unserved => exact absurd unserved (not_or.mpr ⟨not_not.mpr served, not_not.mpr (servedAlone k)⟩)

end

/-- Calls that share no response do not influence one another, on layers with default retryers and
delayers that behave the same each time. The first part is about calls moved on in any order, with
any of them cancelled anywhere; the second about calls made one after another. In both the counters
are made up of what the calls' own courses contribute. What a call does is as when it is by itself,
unless a layer whose clock does not always fail has refused it, here or there. -/
theorem calls_independent {layers : List Layer} (uniform : ∀ layer ∈ layers, layer.Uniform)
    (s : Setting) {calls : List Call} (distinct : (calls.map (·.id)).Nodup)
    (own : ∀ call ∈ calls, call.IsPrivate) :
    (∀ moves : List Move, (∀ m ∈ moves, m.isTurn = true) →
      let run := runMoves s (placesFrom 0 layers) moves (calls.map fun call =>
        ⟨call, none, .waiting⟩) {}
      (∀ (i : Nat) call, calls[i]? = some call → ∃ t, run.1[i]? = some t ∧ t.call = call ∧
        (run.2.Serves layers call.id →
          (∀ k, (alone s (placesFrom 0 layers) call k).2.Serves layers call.id) →
            Undisturbed s (placesFrom 0 layers) moves i call t.stage run.2)) ∧
      run.2.Counted layers calls) ∧
    ∀ budget, (∀ layer ∈ layers, layer.Caps budget) →
      let run := sendAll s (placesFrom 0 layers) budget calls {}
      (∀ (i : Nat) call, calls[i]? = some call →
        let solo := sendThrough s call budget (placesFrom 0 layers) {}
        run.2.Serves layers call.id → solo.2.Serves layers call.id →
          ∃ reply reply', run.1[i]? = some (some reply) ∧ solo.1 = some reply' ∧
            SameRun call.id (.ended reply) (.ended reply') run.2 solo.2) ∧
      run.2.Counted layers calls := by
  have placed := placesFrom_in [] layers
  have standard : ∀ p ∈ placesFrom 0 layers, ∃ policy, p.layer.retryer = .standard policy :=
    fun p hp => (uniform p.layer (placed p hp).2).standard
  refine ⟨fun moves turns => ?_, fun budget caps => ?_⟩
  · intro run
    have concert :=
      (Concert.begins s rfl calls).run distinct own uniform (related_places uniform) turns
    refine ⟨fun i call hc => ?_, concert.tallied.counted distinct concert.own⟩
    have member : (run.1[i]?).map (·.call) = some call := by
      rw [← List.getElem?_map, concert.members]
      exact hc
    obtain ⟨t, ht, rfl⟩ := Option.map_eq_some_iff.mp member
    refine ⟨t, ht, rfl, fun served servedAlone => ?_⟩
    exact (concert.stands i t ht).undisturbed (own _ (concert.mem_calls ht)) standard served
      servedAlone
  · intro run
    obtain ⟨each, leaves⟩ :=
      sendAll_tracks uniform s budget distinct own fun call _ => .refl call.id {}
    have tallied : run.2.Tallied layers := leaves.tally ⟨fun _ _ => rfl, rfl⟩
    have own' : ∀ e ∈ run.2.journal, e.call ∈ calls.map (·.id) := fun e he =>
      (leaves.journal e he).resolve_left List.not_mem_nil
    refine ⟨fun i call hc => ?_, tallied.counted distinct own'⟩
    intro solo served servedAlone
    obtain ⟨sent, at_, alike, same⟩ := each i call hc served servedAlone
    obtain ⟨reply', ends⟩ : ∃ reply', solo.1 = some reply' :=
      sendThrough_ends s fun p hp => caps p.layer (placed p hp).2
    rw [ends] at alike
    cases alike with
    | some reply =>
      refine ⟨_, reply', at_, ends, same.sameRun (congrArg Stage.ended ?_)⟩
      exact reply.timeless fun _ _ named => named

/-- A layer that sends up to three times, half a second apart, with a clock that moves on by a
second with each reading. -/
def fair : Layer where
  retryer := .standard
    { cap := 3, shownCap := .int 3, statuses := [.int 503], one_le_cap := Nat.le_add_left 1 2 }
  clock := .ticking ⟨0, some 0⟩ 1000000
  delay := some fun _ => { seconds := mkRat 1 2 }
  drainLimit := 512
  shownLimit := .int 512
  settings := {}
  sink := .standard
  forced := none
  one_le_drainLimit := Nat.le_add_left 1 511

theorem fair_uniform : ∀ layer ∈ [fair], layer.Uniform := by
  intro layer mem
  obtain rfl := List.mem_singleton.mp mem
  refine ⟨⟨_, rfl⟩, fun delay h asked => ?_⟩
  cases h
  rfl

def busyOnce (id : Nat) : Call where
  id := id
  request := { method := "GET", url := "http://example.test/" }
  feed := fun sent => { act := if sent = 0 then .respondText 503 "busy" else .respondText 200 "ok" }

def busyPair : List Call := (List.range 2).map busyOnce

theorem busyPair_isPrivate : ∀ call ∈ busyPair, call.IsPrivate := by
  refine List.forall_mem_map.mpr fun id _ sent index => ?_
  by_cases first : sent = 0
  · simp [busyOnce, first]
  · simp [busyOnce, first]

def Stage.reply? : Stage → Option Reply
  | .ended reply => some reply
  | _ => none

theorem Stage.isSome_reply? {stage : Stage} (h : stage.reply?.isSome = true) :
    ∃ reply, stage = .ended reply := by
  cases stage with
  | ended reply => exact ⟨reply, rfl⟩
  | waiting => cases h
  | running point => cases h

def Event.refuses (call : Nat) : Event → Bool
  | .refused c _ => c == call
  | _ => false

theorem Ledger.Serves.of_unrefused {layers : List Layer} {call : Nat} {l : Ledger}
    (none : ∀ e ∈ l.journal, e.refuses call = false) : l.Serves layers call := by
  intro i refused
  have own := none _ refused
  simp [Event.refuses] at own

/-- Two calls that share a clock. The first is cancelled while it waits to be sent again. -/
theorem calls_independent_pair :
    let s : Setting := ⟨.suspending, .binary⟩
    let moves : List Move :=
      [.resume 0, .resume 1, .resume 0, .resume 1, .resume 1, .cancel 0, .resume 1, .resume 1]
    let run := runMoves s (placesFrom 0 [fair]) moves (busyPair.map fun call =>
      ⟨call, none, .waiting⟩) {}
    let sent := sendAll s (placesFrom 0 [fair]) 3 busyPair {}
    (∀ (i : Nat) call, busyPair[i]? = some call → ∃ t, run.1[i]? = some t ∧
      Undisturbed s (placesFrom 0 [fair]) moves i call t.stage run.2) ∧
    (∀ (i : Nat) call, busyPair[i]? = some call → ∃ reply reply', sent.1[i]? = some (some reply) ∧
      SameRun call.id (.ended reply) (.ended reply') sent.2
        (sendThrough s call 3 (placesFrom 0 [fair]) {}).2) ∧
    run.2.Counted [fair] busyPair ∧ sent.2.Counted [fair] busyPair := by
  intro s moves run sent
  have distinct : (busyPair.map (·.id)).Nodup := by decide
  have fate := calls_independent fair_uniform s distinct busyPair_isPrivate
  have turned := fate.1 moves (by decide)
  have waited := fate.2 3 (List.forall_mem_singleton.mpr ⟨_, rfl, Nat.le_refl 3⟩)
  have ends : ∀ id < 2,
      ((alone s (placesFrom 0 [fair]) (busyOnce id) 5).1.reply?).isSome = true := by
    decide +kernel
  have aside : ∀ id < 2, ∀ e ∈ (alone s (placesFrom 0 [fair]) (busyOnce id) 5).2.journal,
      e.refuses id = false := by
    decide +kernel
  have here : ∀ id < 2, (∀ e ∈ run.2.journal, e.refuses id = false) ∧
      (∀ e ∈ sent.2.journal, e.refuses id = false) ∧
      ∀ e ∈ (sendThrough s (busyOnce id) 3 (placesFrom 0 [fair]) {}).2.journal,
        e.refuses id = false := by
    decide +kernel
  refine ⟨fun i call hc => ?_, fun i call hc => ?_, turned.2, waited.2⟩
  · obtain ⟨id, lt, rfl⟩ := List.mem_map.mp (List.mem_of_getElem? hc)
    have lt := List.mem_range.mp lt
    obtain ⟨t, at_, -, calm⟩ := turned.1 i _ hc
    obtain ⟨reply, ended⟩ := Stage.isSome_reply? (ends id lt)
    have own := busyPair_isPrivate _ (List.mem_of_getElem? hc)
    exact ⟨t, at_, calm (.of_unrefused (here id lt).1)
      (alone_served own ended (.of_unrefused (aside id lt)))⟩
  · obtain ⟨id, lt, rfl⟩ := List.mem_map.mp (List.mem_of_getElem? hc)
    have lt := List.mem_range.mp lt
    obtain ⟨reply, reply', at_, -, same⟩ := waited.1 i _ hc (.of_unrefused (here id lt).2.1)
      (.of_unrefused (here id lt).2.2)
    exact ⟨reply, reply', at_, same⟩

def hasty : Layer := { fair with delay := none }

/-- With a clock that comes to its end, the second call is refused though it is let in when it is
alone. -/
theorem clock_ends_between_calls :
    let ending : Layer :=
      { hasty with clock := .ticking ⟨Timestamp.faceCeiling - 1000000, some 0⟩ 3600000000 }
    let s : Setting := ⟨.suspending, .binary⟩
    let run := runMoves s (placesFrom 0 [ending]) [.resume 0, .resume 1, .resume 0, .resume 0]
      (busyPair.map fun call => ⟨call, none, .waiting⟩) {}
    let solo := alone s (placesFrom 0 [ending]) (busyOnce 1) 4
    ending.Uniform ∧ (∀ call ∈ busyPair, call.IsPrivate) ∧
    ((run.1[1]?).bind fun t => t.stage.reply?.bind Reply.error?).map Failure.kind =
      some .overflowError ∧
    solo.1.reply?.bind Reply.response? = some ⟨⟨1, 1⟩, 200⟩ := by
  intro ending s run solo
  have uniform : ending.Uniform := by
    refine ⟨⟨_, rfl⟩, fun delay h => ?_⟩
    cases h
  exact ⟨uniform, busyPair_isPrivate, by decide +kernel, by decide +kernel⟩

end HttpRetry
