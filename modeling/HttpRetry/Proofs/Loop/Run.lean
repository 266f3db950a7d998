import HttpRetry.Proofs.Loop
import HttpRetry.Proofs.Closing.Layer
import HttpRetry.Proofs.Stepwise.Converse
set_option autoImplicit false

namespace HttpRetry

open Work

/-- A round of one layer around the innermost transport, with the wait after it. It comes to the
reply that ends the call, or to nothing if a further round follows. -/
def Place.turn (p : Place) (s : Setting) (call : Call) (start : Option Timestamp) (made : Nat) :
    Send := do
  let reply ← call.transmit s.mode
  match ← p.conclude s call start made reply with
  | .finished reply => return some reply
  | .again attempt =>
    match ← p.waitBlocking s call attempt with
    | .error e => return some (.raised e)
    | .ok () => return none

def Place.waitsAfter (p : Place) : Answer → Nat
  | .decided .retry _ => p.waits
  | _ => 0

structure Place.Turned (p : Place) (routine : Routine) (answer : Answer) (attempt : Attempt)
    (reply : Reply) (call : Call) (pos : Position) (result : Option Reply) (l : Ledger) : Prop where
  onward : p.GoesOn answer pos.delays → result = none ∧ At p call
    ⟨pos.asks + 1, pos.delays + p.waits, pos.sends + 1,
      pos.milestones ++ p.onward call.request reply attempt⟩ l
  last : ¬ p.GoesOn answer pos.delays → ∃ ending, result = some ending ∧
    Ends routine attempt (p.delayFailure pos.delays) ending l answer ∧ At p call
      ⟨pos.asks + 1, pos.delays + p.waitsAfter answer, pos.sends + 1,
        pos.milestones ++ answer.last call.request reply attempt ending⟩ l

namespace Place

variable {p : Place} {s : Setting} {call : Call} {l : Ledger} {pos : Position}
variable {answers : Nat → Answer}

theorem turned_of_finished {routine : Routine} {answer : Answer} {attempt : Attempt} {reply ending : Reply}
    (final : ∀ source, answer ≠ .decided .retry source)
    (ends : Ends routine attempt none ending l answer)
    (h : At p call ⟨pos.asks + 1, pos.delays, pos.sends + 1,
      pos.milestones ++ ([.sent call.request, .received reply] ++ answer.asked attempt ++
        answer.release reply ++ [.left ending])⟩ l) :
    p.Turned routine answer attempt reply call pos (some ending) l := by
  refine ⟨fun ⟨⟨source, retry⟩, _⟩ => absurd retry (final source), fun _ => ⟨ending, rfl, ?_⟩⟩
  rcases answer with ⟨_ | _ | _, source⟩ | spec | shown
  · exact ⟨ends, by simpa [waitsAfter, Answer.last] using h⟩
  · exact absurd rfl (final source)
  · exact ⟨ends, by simpa [waitsAfter, Answer.last] using h⟩
  · exact ⟨ends, by simpa [waitsAfter, Answer.last] using h⟩
  · exact ⟨ends, by simpa [waitsAfter, Answer.last] using h⟩

theorem turned_of_retry (hc : call.Streams Stream.Gentle) {source : ErrorSource} {attempt : Attempt}
    {reply : Reply} (h : At p call { pos with
      asks := pos.asks + 1
      sends := pos.sends + 1
      milestones := pos.milestones ++ ([.sent call.request, .received reply, .asked attempt,
        .answered attempt .retry] ++ reply.released) } l) :
    Yields (do
      match ← p.waitBlocking s call attempt with
      | .error e => return some (.raised e)
      | .ok () => return none) l fun result l' =>
        p.Turned s.mode.routine (.decided .retry source) attempt reply call pos result l' := by
  refine yields_bind (wait_course hc attempt h) fun result l₁ h₁ => ?_
  simp only [List.append_assoc] at h₁
  cases hf : p.delayFailure pos.delays with
  | none =>
    rw [hf] at h₁
    obtain ⟨rfl, at₁⟩ := h₁
    refine yields_pure ⟨fun _ => ⟨rfl, ?_⟩, fun stops => absurd ⟨⟨source, rfl⟩, hf⟩ stops⟩
    simpa only [onward, List.append_assoc] using at₁
  | some spec =>
    rw [hf] at h₁
    obtain ⟨id, rfl, at₁⟩ := h₁
    refine yields_pure ⟨fun goes => ?_, fun _ => ⟨_, rfl, ⟨spec, id, hf, rfl⟩, ?_⟩⟩
    · have none := goes.2
      rw [hf] at none
      cases none
    · simpa only [Answer.last, Answer.asked, Answer.release, waitsAfter, List.append_assoc,
        List.cons_append, List.nil_append] using at₁

theorem turn_course (hp : p.Scripted answers) (hc : call.Gentle) {s : Setting}
    (start : Option Timestamp) (made : Nat) (h : At p call pos l) :
    (p.turn s call start made).Yields l fun result l' =>
      ∃ reply, call.Hands s.mode pos.sends reply ∧ p.Turned s.mode.routine (answers pos.asks)
        (reply.attempt start made call.request) reply call pos result l' := by
  refine yields_bind (transmit_course hc s.mode h) fun reply l₁ h₁ => ?_
  obtain ⟨hands, mild, out, at₁⟩ := h₁
  have concludes := conclude_course hp hc.streams start made mild out at₁
  refine yields_bind concludes fun verdict l₂ h₂ => ?_
  obtain ⟨follows, at₂⟩ := h₂
  by_cases retry : ∃ source, answers pos.asks = .decided .retry source
  · obtain ⟨source, ha⟩ := retry
    rw [ha] at follows at₂ ⊢
    obtain rfl := follows
    refine (turned_of_retry hc.streams ?_).mono fun result l₃ turned => ⟨reply, hands, turned⟩
    simpa only [Answer.asked, Answer.release, handedOn, List.append_assoc, List.append_nil,
      List.cons_append, List.nil_append] using at₂
  · have final : ∀ source, answers pos.asks ≠ .decided .retry source :=
      fun source h => retry ⟨source, h⟩
    obtain ⟨ending, rfl, ends⟩ := follows.final final
    refine yields_pure ⟨reply, hands, turned_of_finished final ends ?_⟩
    simpa only [handedOn, List.append_assoc, List.cons_append, List.nil_append] using at₂

theorem rounds_succ (s : Setting) (start : Option Timestamp) (budget made : Nat) :
    p.rounds s call start (some <$> call.transmit s.mode) (budget + 1) made l =
      match p.turn s call start made (p.announce call made l).2 with
      | (some reply, l') => (some reply, l')
      | (none, l') =>
        p.rounds s call start (some <$> call.transmit s.mode) budget (made + 1) l' := by
  rw [rounds]
  unfold turn
  rw [bind_apply, bind_apply, map_apply, bind_apply, bind_apply]
  generalize call.transmit s.mode (p.announce call made l).2 = sent
  obtain ⟨reply, l₁⟩ := sent
  simp only
  rw [bind_apply]
  generalize p.conclude s call start made reply l₁ = concluded
  obtain ⟨verdict, l₂⟩ := concluded
  cases verdict with
  | finished ending => rfl
  | again attempt =>
    simp only
    rw [bind_apply, bind_apply]
    generalize p.waitBlocking s call attempt l₂ = waited
    obtain ⟨result, l₃⟩ := waited
    cases result with
    | error e => rfl
    | ok u => rfl

end Place

section
variable {p : Place} {call : Call} {l : Ledger} {pos : Position} {answers : Nat → Answer}

theorem Place.enter_course (hc : call.Streams Stream.Gentle) (mode : Mode)
    {start : Option Timestamp} (reading : p.layer.clock.peek l = .ok start) (h : At p call pos l) :
    (p.enter mode call).Yields l fun result l' => result = .ok start ∧
      At p call { pos with milestones := pos.milestones ++ [.entered] } l' := by
  have binds : At p call pos (p.bind call l).2 := Place.bind_makes.stays hc h
  have reads : At p call pos ((p.bind call l).2.adjustClock p.layer.clock.key .read) :=
    (Place.useClock_makes .read).stays hc binds
  unfold Yields
  rw [Place.enter_of_reading reading]
  exact ⟨rfl, reads.note (.entered call.id p.index start)⟩

def Place.course (p : Place) (request : Request) (start : Option Timestamp) (replies : List Reply) :
    List Milestone :=
  replies.zipIdx.flatMap fun entry =>
    p.onward request entry.1 (entry.1.attempt start entry.2 request)

theorem forall_concat {P : Nat → Reply → Prop} {replies : List Reply} {reply : Reply}
    (all : ∀ i r, replies[i]? = some r → P i r) (last : P replies.length reply) (i : Nat)
    (r : Reply) (hr : (replies ++ [reply])[i]? = some r) : P i r := by
  rcases Nat.lt_or_ge i replies.length with lt | ge
  · rw [List.getElem?_append_left lt] at hr
    exact all i r hr
  · rw [List.getElem?_append_right ge, List.getElem?_singleton] at hr
    split at hr
    · obtain rfl := Option.some.inj hr
      have same : i = replies.length := by omega
      exact same ▸ last
    · cases hr

theorem rounds_onward (hp : p.Scripted answers) (hc : call.Gentle) {s : Setting}
    (start : Option Timestamp) (h : At p call pos l) (k : Nat)
    (goes : ∀ i < k, p.GoesOn (answers (pos.asks + i)) (pos.delays + i * p.waits)) :
    ∃ (replies : List Reply) (l' : Ledger), replies.length = k ∧
      (∀ i r, replies[i]? = some r → call.Hands s.mode (pos.sends + i) r) ∧
      At p call ⟨pos.asks + k, pos.delays + k * p.waits, pos.sends + k,
        pos.milestones ++ p.course call.request start replies⟩ l' ∧
      ∀ budget, p.rounds s call start (some <$> call.transmit s.mode) (budget + k) 0 l =
        p.rounds s call start (some <$> call.transmit s.mode) budget k l' := by
  induction k with
  | zero =>
    refine ⟨[], l, rfl, fun i r hr => by simp at hr, ?_, fun budget => rfl⟩
    simpa [Place.course] using h
  | succ k ih =>
    obtain ⟨replies, l₁, len, hands, at₁, runs⟩ := ih fun i hi => goes i (by omega)
    have announced : At p call _ (p.announce call k l₁).2 :=
      (Place.announce_makes k).stays hc.streams at₁
    obtain ⟨reply, hand, turned⟩ := Place.turn_course (s := s) hp hc start k announced
    obtain ⟨none, at₂⟩ := turned.onward (goes k (by omega))
    refine ⟨replies ++ [reply], (p.turn s call start k (p.announce call k l₁).2).2, by simp [len],
      forall_concat hands (len ▸ hand), ?_, fun budget => ?_⟩
    · have delays : pos.delays + k * p.waits + p.waits = pos.delays + (k + 1) * p.waits := by
        rw [Nat.succ_mul, Nat.add_assoc]
      rw [delays] at at₂
      simpa only [Place.course, List.zipIdx_append, List.flatMap_append, List.zipIdx_cons,
        List.zipIdx_nil, List.flatMap_cons, List.flatMap_nil, List.append_nil, List.append_assoc,
        Nat.zero_add, len, Nat.add_assoc] using at₂
    · have shift : budget + (k + 1) = (budget + 1) + k := by omega
      rw [shift, runs (budget + 1), Place.rounds_succ]
      generalize p.turn s call start k (p.announce call k l₁).2 = turned at none ⊢
      obtain ⟨result, l₂⟩ := turned
      obtain rfl : result = .none := none
      rfl

theorem rounds_last (hp : p.Scripted answers) (hc : call.Gentle) {s : Setting}
    (start : Option Timestamp) (made : Nat) (h : At p call pos l)
    (stops : ¬ p.GoesOn (answers pos.asks) pos.delays) :
    ∃ reply ending l', call.Hands s.mode pos.sends reply ∧
      (∀ budget, p.rounds s call start (some <$> call.transmit s.mode) (budget + 1) made l =
        (some ending, l')) ∧
      At p call ⟨pos.asks + 1, pos.delays + p.waitsAfter (answers pos.asks), pos.sends + 1,
        pos.milestones ++ (answers pos.asks).last call.request reply
          (reply.attempt start made call.request) ending⟩ l' ∧
      Ends s.mode.routine (reply.attempt start made call.request) (p.delayFailure pos.delays) ending
        l' (answers pos.asks) := by
  have announced : At p call pos (p.announce call made l).2 :=
    (Place.announce_makes made).stays hc.streams h
  obtain ⟨reply, hands, turned⟩ := Place.turn_course hp hc start made announced
  obtain ⟨ending, some, ends, at₁⟩ := turned.last stops
  refine ⟨reply, ending, _, hands, fun budget => ?_, at₁, ends⟩
  rw [Place.rounds_succ]
  generalize p.turn s call start made (p.announce call made l).2 = turned at some ⊢
  obtain ⟨result, l₂⟩ := turned
  obtain rfl : result = .some ending := some
  rfl

end

/-- The meaning of a call through one layer, for any outcomes, answers and waits. Let `k` rounds be
followed by further ones, and not the next. Then the call sends `k + 1` times, asks the retryer once
for each, with the attempt that the send came to, and the delayer, if there is one, once after each
retry, with the same attempt; the steps come in the order of send, answer, release and wait, each
round after the one before; what was released is closed before the wait and before the next send; and
the call ends as the last answer says, where a failure comes out as it may leave a routine of the mode:
a function lets out every failure as it is. If the loop always goes on, the call never ends. -/
theorem loop_runs_script {s : Setting} {p : Place} {answers : Nat → Answer}
    (hp : p.Scripted answers) {call : Call} (hc : call.Gentle) {l : Ledger}
    (hl : l.Streams Stream.Gentle) {start : Option Timestamp}
    (reading : p.layer.clock.peek l = .ok start) :
    let asks := l.asks p.index
    let delays := l.delays p.index
    let sends := (l.calls call.id).sends
    (∀ k, (∀ i < k, p.GoesOn (answers (asks + i)) (delays + i * p.waits)) →
      ¬ p.GoesOn (answers (asks + k)) (delays + k * p.waits) →
      ∃ replies reply ending l', replies.length = k ∧
        (∀ i r, (replies ++ [reply])[i]? = some r → call.Hands s.mode (sends + i) r) ∧
        (∀ budget, k < budget → sendThrough s call budget [p] l = (some ending, l')) ∧
        (∀ fuel, 3 * (k + 1) ≤ fuel → sendStepwise s call fuel [p] l = (some ending, l')) ∧
        l'.position p call = ⟨asks + k + 1,
          delays + k * p.waits + p.waitsAfter (answers (asks + k)), sends + k + 1,
          l.milestones ++ [.entered] ++ p.course call.request start replies ++
            (answers (asks + k)).last call.request reply
              (reply.attempt start k call.request) ending⟩ ∧
        (call.Matches s.mode → Ready s.mode call l → l'.ClosesInTime) ∧
        Ends s.mode.routine (reply.attempt start k call.request)
          (p.delayFailure (delays + k * p.waits)) ending l' (answers (asks + k))) ∧
    ((∀ i, p.GoesOn (answers (asks + i)) (delays + i * p.waits)) →
      ∀ budget, (sendThrough s call budget [p] l).1 = none ∧
        (sendStepwise s call budget [p] l).1 = none ∧
        ((sendThrough s call budget [p] l).2.calls call.id).sends = sends + budget) := by
  intro asks delays sends
  have start_at : At p call ⟨asks, delays, sends, l.milestones⟩ l := ⟨rfl, hl⟩
  obtain ⟨entered, at₁⟩ := Place.enter_course hc.streams s.mode reading start_at
  generalize hl₁ : (p.enter s.mode call l).2 = l₁ at at₁
  have through : ∀ budget, sendThrough s call budget [p] l =
      p.rounds s call start (some <$> call.transmit s.mode) budget 0 l₁ :=
    fun budget => sendThrough_cons (Prod.ext entered hl₁) budget []
  refine ⟨fun k goes stops => ?_, fun goes budget => ?_⟩
  · obtain ⟨replies, l₂, len, hands, at₂, runs⟩ := rounds_onward hp hc start at₁ k goes
    obtain ⟨reply, ending, l₃, hand, ended, at₃, ends⟩ := rounds_last hp hc start k at₂ stops
    have whole : ∀ budget, k < budget → sendThrough s call budget [p] l = (some ending, l₃) := by
      intro budget more
      obtain ⟨rest, rfl⟩ : ∃ rest, budget = rest + 1 + k := ⟨budget - k - 1, by omega⟩
      exact (through _).trans ((runs (rest + 1)).trans (ended rest))
    have last := whole (k + 1) (by omega)
    refine ⟨replies, reply, ending, l₃, len, forall_concat hands (len ▸ hand), whole,
      fun fuel enough => ?_, at₃.position, fun hm ready => ?_, ends⟩
    · have allowed : Suspended.stepsAllowed (k + 1) [p].length ≤ fuel := by
        simp only [Suspended.stepsAllowed, List.length_singleton]
        omega
      exact sendStepwise_eq_sendThrough last allowed
    · have sent : Sent s.mode call (some ending) l₃ := (sendThrough_sent hm (k + 1) [p] ready).at last
      exact sent.kept.closesInTime
  · have endless : ∀ budget, (sendThrough s call budget [p] l).1 = none ∧
        ((sendThrough s call budget [p] l).2.calls call.id).sends = sends + budget := by
      intro budget
      obtain ⟨replies, l₂, len, hands, at₂, runs⟩ :=
        rounds_onward hp hc start at₁ budget fun i _ => goes i
      have all := runs 0
      rw [Nat.zero_add] at all
      rw [through, all]
      exact ⟨rfl, congrArg Position.sends at₂.position⟩
    refine ⟨(endless budget).1, ?_, (endless budget).2⟩
    cases stepwise : (sendStepwise s call budget [p] l).1 with
    | none => rfl
    | some ending =>
      obtain ⟨budget', ended⟩ := sendThrough_of_sendStepwise (Prod.ext stepwise rfl)
      have none := (endless budget').1
      rw [ended] at none
      cases none

def patient : Place where
  index := 0
  layer :=
    { retryer := .scripted fun asked =>
        if asked = 0 then .decided .retry .nothing else .decided .ignore .nothing
      clock := .wall
      delay := some fun _ => { seconds := mkRat 1 2 }
      drainLimit := 2048, shownLimit := .int 2048, settings := {}, sink := .standard, forced := none
      one_le_drainLimit := by decide }

def busyCall : Call where
  id := 0
  request := { method := "GET", url := "http://example.test/" }
  feed := fun sent =>
    { act :=
        if sent = 0 then
          .respond 503 ⟨.blocking, [.text "busy"], none, some (.of .osError (some "reset"))⟩ .fresh
        else .respondText 200 "ok" }

theorem busyCall_gentle : busyCall.Gentle where
  streams := by
    rintro r ⟨n, ⟨status, text, _, rfl⟩ | ⟨status, stream, how, h, rfl⟩⟩ s hs
    · cases hs
    · simp only [busyCall] at h
      split at h
      · cases h
        cases hs
        refine ⟨fun spec h => ?_, fun spec h => ?_⟩
        · cases h
        · cases h
          rfl
      · cases h
  raises := by
    intro n spec h
    simp only [busyCall] at h
    split at h
    · cases h
    · cases h

theorem busyCall_matches : busyCall.Matches .blocking := by
  rintro r ⟨n, ⟨status, text, _, rfl⟩ | ⟨status, stream, how, h, rfl⟩⟩ s hs
  · cases hs
  · simp only [busyCall] at h
    split at h
    · cases h
      cases hs
      rfl
    · cases h

theorem loop_runs_script_patient :
    ∃ ending l', (∀ budget, 1 < budget →
        sendThrough ⟨.blocking, .binary⟩ busyCall budget [patient] {} = (some ending, l')) ∧
      l'.asks 0 = 2 ∧ l'.delays 0 = 1 ∧ (l'.calls 0).sends = 2 ∧ l'.ClosesInTime ∧
      ∃ reply : Reply, Ends .function (reply.attempt none 1 busyCall.request) none ending l'
        (.decided .ignore .nothing) := by
  have scripted : patient.Scripted fun asked =>
      if asked = 0 then .decided .retry .nothing else .decided .ignore .nothing := ⟨rfl, rfl, rfl⟩
  have empty : Ledger.Streams {} Stream.Gentle := fun _ _ _ h => by cases h
  have runs := (@loop_runs_script ⟨.blocking, .binary⟩ _ _ scripted _ busyCall_gentle {} empty none
    rfl).1 1
  obtain ⟨replies, reply, ending, l', -, -, through, -, position, closes, ends⟩ := runs
    (fun i hi => by
      obtain rfl : i = 0 := by omega
      exact ⟨⟨.nothing, rfl⟩, rfl⟩)
    (fun goes => by
      obtain ⟨source, h⟩ := goes.1
      cases h)
  exact ⟨ending, l', through, congrArg Position.asks position, congrArg Position.delays position,
    congrArg Position.sends position, closes busyCall_matches (.empty _ _), reply, ends⟩

end HttpRetry
