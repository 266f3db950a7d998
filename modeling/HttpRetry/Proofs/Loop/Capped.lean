import HttpRetry.Proofs.Loop.Standard
set_option autoImplicit false

namespace HttpRetry

open Work

def Place.courseFrom (p : Place) (request : Request) (start : Option Timestamp) (made : Nat)
    (replies : List Reply) : List Milestone :=
  (replies.zipIdx made).flatMap fun entry =>
    p.onward request entry.1 (entry.1.attempt start entry.2 request)

/-- How the rounds of a call go on from a position after so many of them: those that come to
`replies` are followed by further ones, and the one that comes to `reply` is the last. -/
structure Place.PolicyRun (p : Place) (policy : DefaultPolicy) (statuses : List Int) (mode : Mode)
    (call : Call) (start : Option Timestamp) (made : Nat) (pos : Position) (l : Ledger)
    (replies : List Reply) (reply ending : Reply) (before l' : Ledger) : Prop where
  hands : ∀ i r, (replies ++ [reply])[i]? = some r → call.Hands mode (pos.sends + i) r
  retryable : ∀ r ∈ replies, r.retryable statuses = true
  within : made + replies.length < policy.cap
  /-- A reply that is worth a further send is the last one only if the cap allows no more. -/
  spent : reply.retryable statuses = true → made + replies.length + 1 = policy.cap
  sends : (before.calls call.id).sends = pos.sends + replies.length
  replied : (call.transmit mode before).1 = reply
  final : Final call mode statuses l before l' reply
    (reply.attempt start (made + replies.length) call.request) ending
  /-- Giving up tells of the last attempt, and keeps its error and the status of its response. -/
  reported : reply.retryable statuses = true → ∃ e, ending = .raised e ∧
    e.kind = .retryLimitExceeded ∧ (e.attempt?.map (·.count)) = some policy.cap ∧
    e.lastError? = reply.error? ∧ e.statusCode? = reply.response?.map (·.status)
  position : l'.position p call = ⟨pos.asks, pos.delays + replies.length * p.waits,
    pos.sends + replies.length + 1, pos.milestones ++
      p.courseFrom call.request start made replies ++
        (Answer.decided (policy.decide
          (reply.attempt start (made + replies.length) call.request)) .nothing).last call.request
            reply (reply.attempt start (made + replies.length) call.request) ending⟩

theorem Place.Rounded.run {p : Place} {policy : DefaultPolicy} {statuses : List Int} {mode : Mode}
    {call : Call} {start : Option Timestamp} {made : Nat} {pos : Position} {l before l' : Ledger}
    {result : Option Reply}
    (h : p.Rounded policy statuses mode call start made pos before (call.transmit mode before).1
      result l')
    (blameless : l.Blameless call.id before) (sends : (before.calls call.id).sends = pos.sends)
    (within : made < policy.cap)
    (stops : ¬((call.transmit mode before).1.retryable statuses = true ∧ made + 1 < policy.cap)) :
    ∃ ending, result = some ending ∧ p.PolicyRun policy statuses mode call start made pos l []
      (call.transmit mode before).1 ending before l' := by
  have spent : (call.transmit mode before).1.retryable statuses = true → policy.cap ≤ made + 1 :=
    fun worth => Nat.le_of_not_lt fun more => stops ⟨worth, more⟩
  obtain ⟨ending, some, final, at'⟩ := h.last spent
  refine ⟨ending, some, ?_⟩
  exact {
    hands := fun i r hr => by
      cases i with
      | zero =>
        obtain rfl := Option.some.inj hr
        exact h.hands
      | succ i => cases hr
    retryable := fun r hr => by cases hr
    within := within
    spent := fun worth => Nat.le_antisymm within (spent worth)
    sends := sends
    replied := rfl
    final := final.earlier blameless
    reported := fun worth => final.reported worth (Nat.le_antisymm within (spent worth))
    position := by simpa [courseFrom] using at'.position }

theorem Place.PolicyRun.cons {p : Place} {policy : DefaultPolicy} {statuses : List Int}
    {mode : Mode} {call : Call} {start : Option Timestamp} {made : Nat} {pos : Position}
    {first : Reply} {l₀ l : Ledger} (hands : call.Hands mode pos.sends first)
    (worth : first.retryable statuses = true) (blameless : l₀.Blameless call.id l)
    {replies : List Reply} {reply ending : Reply} {before l' : Ledger}
    (h : p.PolicyRun policy statuses mode call start (made + 1)
      ⟨pos.asks, pos.delays + p.waits, pos.sends + 1, pos.milestones ++
        p.onward call.request first (first.attempt start made call.request)⟩ l
      replies reply ending before l') :
    p.PolicyRun policy statuses mode call start made pos l₀ (first :: replies) reply ending before
      l' where
  hands i r hr := by
    cases i with
    | zero =>
      obtain rfl := Option.some.inj hr
      exact hands
    | succ i =>
      have later := h.hands i r hr
      rwa [Nat.add_right_comm, Nat.add_assoc] at later
  retryable := List.forall_mem_cons.mpr ⟨worth, h.retryable⟩
  within := by simpa [Nat.add_assoc, Nat.add_comm 1] using h.within
  spent := by simpa [Nat.add_assoc, Nat.add_comm 1] using h.spent
  sends := by simpa [Nat.add_assoc, Nat.add_comm 1] using h.sends
  replied := h.replied
  reported := h.reported
  final := by
    have final := h.final.earlier blameless
    rwa [Nat.add_assoc, Nat.add_comm 1, ← List.length_cons] at final
  position := by
    have waits : pos.delays + p.waits + replies.length * p.waits =
        pos.delays + (replies.length + 1) * p.waits := by
      rw [Nat.succ_mul]
      omega
    have position := h.position
    simp only [waits, Nat.add_assoc, Nat.add_comm 1, List.append_assoc] at position
    simpa only [Place.courseFrom, List.zipIdx_cons, List.flatMap_cons, List.length_cons,
      Nat.add_assoc, Nat.add_comm 1, List.append_assoc] using position

theorem Place.rounds_standard {p : Place} {policy : DefaultPolicy} {call : Call} {pos : Position}
    {l : Ledger} (hp : p.Standard policy)
    {statuses : List Int} (lists : policy.Lists statuses) (hc : call.Gentle) (s : Setting)
    (start : Option Timestamp) (rest made : Nat) (more : policy.cap = made + rest + 1)
    (h : At p call pos l) :
    ∃ replies reply ending before l',
      (∀ budget, rest < budget →
        p.rounds s call start (some <$> call.transmit s.mode) budget made l = (some ending, l')) ∧
      p.PolicyRun policy statuses s.mode call start made pos l replies reply ending before l' := by
  have announced : At p call pos (p.announce call made l).2 :=
    (announce_makes made).stays hc.streams h
  have quiet : l.Blameless call.id (p.announce call made l).2 := (announce_excuses made).1
  have turned := turn_standard hp lists hc s start made announced
  by_cases goes : (call.transmit s.mode (p.announce call made l).2).1.retryable statuses = true ∧
      made + 1 < policy.cap
  · obtain ⟨rest, rfl⟩ : ∃ fewer, rest = fewer + 1 := ⟨rest - 1, by omega⟩
    obtain ⟨none, blameless, at₂⟩ := turned.onward goes.1 goes.2
    obtain ⟨replies, reply, ending, before, l', ended, run⟩ :=
      rounds_standard hp lists hc s start rest (made + 1) (by omega) at₂
    refine ⟨_ :: replies, reply, ending, before, l', fun budget enough => ?_,
      run.cons turned.hands goes.1 (quiet.trans blameless)⟩
    obtain ⟨budget, rfl⟩ : ∃ fewer, budget = fewer + 1 := ⟨budget - 1, by omega⟩
    rw [rounds_succ]
    generalize p.turn s call start made (p.announce call made l).2 = turn at none ended ⊢
    obtain ⟨result, l₂⟩ := turn
    obtain rfl : result = .none := none
    exact ended budget (by omega)
  · obtain ⟨ending, some, run⟩ := turned.run quiet (congrArg Position.sends announced.position)
      (by omega) goes
    refine ⟨[], _, ending, _, _, fun budget enough => ?_, run⟩
    obtain ⟨budget, rfl⟩ : ∃ fewer, budget = fewer + 1 := ⟨budget - 1, by omega⟩
    rw [rounds_succ]
    generalize p.turn s call start made (p.announce call made l).2 = turn at some ⊢
    obtain ⟨result, l₂⟩ := turn
    obtain rfl : result = .some ending := some
    rfl
termination_by rest

/-- The meaning of a call through one layer with a default policy, for any outcomes. The layer sends
again after replies that are worth it, as long as the cap allows, and asks its delayer, if it has
one, once before each further send. The first reply that is not worth it is what the caller gets. If
there is none within the cap, he gets an error that tells of the last attempt. -/
theorem loop_runs_policy {s : Setting} {p : Place} {policy : DefaultPolicy}
    (hp : p.Standard policy) {statuses : List Int} (lists : policy.Lists statuses) {call : Call}
    (hc : call.Gentle) {l : Ledger} (hl : l.Streams Stream.Gentle) {start : Option Timestamp}
    (reading : p.layer.clock.peek l = .ok start) :
    ∃ replies reply ending before l',
      (∀ budget, policy.cap ≤ budget → sendThrough s call budget [p] l = (some ending, l')) ∧
      (∀ fuel, 3 * policy.cap ≤ fuel → sendStepwise s call fuel [p] l = (some ending, l')) ∧
      p.PolicyRun policy statuses s.mode call start 0 ⟨l.asks p.index, l.delays p.index,
        (l.calls call.id).sends, l.milestones ++ [.entered]⟩ l replies reply ending before l' := by
  have start_at : At p call ⟨l.asks p.index, l.delays p.index, (l.calls call.id).sends,
      l.milestones⟩ l := ⟨rfl, hl⟩
  obtain ⟨entered, at₁⟩ := Place.enter_course hc.streams s.mode reading start_at
  have quiet : l.Blameless call.id (p.enter s.mode call l).2 := Place.enter_excuses.1
  have positive := policy.one_le_cap
  obtain ⟨replies, reply, ending, before, l', ended, run⟩ := Place.rounds_standard hp lists hc s
    start (policy.cap - 1) 0 (by omega) at₁
  have through : ∀ budget, policy.cap ≤ budget →
      sendThrough s call budget [p] l = (some ending, l') := by
    intro budget enough
    rw [sendThrough_cons (Prod.ext entered rfl) budget []]
    exact ended budget (by omega)
  refine ⟨replies, reply, ending, before, l', through, fun fuel enough => ?_,
    { run with final := run.final.earlier quiet }⟩
  have allowed : Suspended.stepsAllowed policy.cap [p].length ≤ fuel := by
    simp only [Suspended.stepsAllowed, List.length_singleton]
    omega
  exact sendStepwise_eq_sendThrough (through policy.cap (Nat.le_refl _)) allowed

def restrained (policy : DefaultPolicy) : Place :=
  ⟨0, { patient.layer with retryer := .standard policy }⟩

theorem loop_runs_policy_restrained :
    (∃ policy, DefaultPolicy.build (some (.checked 2)) (some (.checked [503])) {} = .ok policy ∧
      ∃ ending l', (∀ budget, 2 ≤ budget →
          sendThrough ⟨.blocking, .binary⟩ busyCall budget [restrained policy] {} =
            (some ending, l')) ∧
        (l'.calls 0).sends = 2 ∧ l'.delays 0 = 1) ∧
    ∃ policy, DefaultPolicy.build (some (.checked 1)) (some (.checked [503])) {} = .ok policy ∧
      ∃ e l', (∀ budget, 1 ≤ budget →
          sendThrough ⟨.blocking, .binary⟩ busyCall budget [restrained policy] {} =
            (some (.raised e), l')) ∧
        e.lastError?.isNone = true ∧ e.statusCode? = some 503 := by
  have standard (policy : DefaultPolicy) : (restrained policy).Standard policy :=
    ⟨rfl, rfl, rfl, fun _ => rfl⟩
  have empty : Ledger.Streams {} Stream.Gentle := fun _ _ _ h => by cases h
  constructor
  · obtain ⟨policy, built, cap, lists⟩ :=
      DefaultPolicy.build_checked (by decide : (1 : Int) ≤ 2) [503] {}
    obtain ⟨replies, reply, ending, before, l', through, -, run⟩ := @loop_runs_policy
      ⟨.blocking, .binary⟩ _ _ (standard policy) _ lists _ busyCall_gentle {} empty none rfl
    have within := run.within
    rw [cap] at through within
    have once : replies.length = 1 := by
      cases replies with
      | nil =>
        obtain ⟨l₀, sent⟩ := run.hands 0 reply rfl
        have spent := run.spent (by rw [← sent]; rfl)
        rw [cap] at spent
        cases spent
      | cons first rest =>
        simp only [List.length_cons] at within ⊢
        omega
    have position := run.position
    rw [once] at position
    exact ⟨policy, built, ending, l', through, congrArg Position.sends position,
      congrArg Position.delays position⟩
  · obtain ⟨policy, built, cap, lists⟩ :=
      DefaultPolicy.build_checked (by decide : (1 : Int) ≤ 1) [503] {}
    obtain ⟨replies, reply, ending, before, l', through, -, run⟩ := @loop_runs_policy
      ⟨.blocking, .binary⟩ _ _ (standard policy) _ lists _ busyCall_gentle {} empty none rfl
    have within := run.within
    rw [cap] at through within
    have first : replies = [] := List.eq_nil_of_length_eq_zero (by omega)
    subst first
    obtain ⟨l₀, sent⟩ := run.hands 0 reply rfl
    obtain ⟨e, rfl, -, -, error, status⟩ := run.reported (by rw [← sent]; rfl)
    refine ⟨policy, built, e, l', through, ?_, ?_⟩
    · rw [error, ← sent]
      rfl
    · rw [status, ← sent]
      rfl

end HttpRetry
