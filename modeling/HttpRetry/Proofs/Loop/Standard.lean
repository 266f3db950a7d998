import HttpRetry.Proofs.Blame
import HttpRetry.Proofs.Loop.Run
set_option autoImplicit false

namespace HttpRetry

open Work

def DefaultPolicy.Lists (policy : DefaultPolicy) (statuses : List Int) : Prop :=
  ∀ status, policy.hasStatus status = true ↔ ∃ s ∈ statuses, status = some s

def Reply.retryable (statuses : List Int) : Reply → Bool
  | .raised e => e.isTransport
  | .response r => statuses.contains r.status
  | .nothing => false

theorem Json.same_int (a b : Int) : Json.same (.int a) (.int b) = decide (a = b) := by
  simp [Json.same, Json.number?]

theorem any_eraseDupsBy_int (value : Json) (statuses seen : List Int) :
    (List.eraseDupsBy.loop Json.same (statuses.map .int) (seen.map .int)).any (Json.same value) =
      (statuses.map Json.int ++ seen.map Json.int).any (Json.same value) := by
  induction statuses generalizing seen with
  | nil => simp [List.eraseDupsBy.loop]
  | cons s rest ih =>
    rw [List.map_cons, List.eraseDupsBy.loop]
    cases known : (seen.map Json.int).any (Json.same (.int s)) with
    | false =>
      have more := ih (s :: seen)
      simp only [List.map_cons, List.any_append, List.any_cons] at more ⊢
      rw [more]
      cases Json.same value (.int s) with
      | true => simp
      | false => simp
    | true =>
      have mem : s ∈ seen := by
        simpa [Json.same_int] using known
      rw [ih seen]
      simp only [List.cons_append, List.any_cons, List.any_append]
      cases hs : Json.same value (.int s) with
      | false => simp
      | true =>
        have found : (seen.map Json.int).any (Json.same value) = true :=
          List.any_eq_true.mpr ⟨.int s, List.mem_map_of_mem mem, hs⟩
        simp [found]

theorem DefaultPolicy.build_checked {cap : Int} (one_le : 1 ≤ cap) (statuses : List Int)
    (settings : Settings) :
    ∃ policy, build (some (.checked cap)) (some (.checked statuses)) settings = .ok policy ∧
      policy.cap = cap.toNat ∧ policy.Lists statuses := by
  have positive : 1 ≤ cap.toNat := by omega
  refine ⟨⟨cap.toNat, .int cap, normal (statuses.map .int), positive⟩, ?_, rfl, fun status => ?_⟩
  · simp [build, Limit.ofEntry, Limit.ofInt, statusesOf, one_le, bind, Except.bind, pure,
      Except.pure]
  · have erased := any_eraseDupsBy_int (Failure.optionalInt status) statuses []
    rw [List.map_nil, List.append_nil] at erased
    have listed : (normal (statuses.map .int)).any (Json.same (Failure.optionalInt status)) =
        (statuses.map Json.int).any (Json.same (Failure.optionalInt status)) :=
      (List.mergeSort_perm _ _).any_eq.trans erased
    unfold hasStatus
    rw [listed, List.any_map, List.any_eq_true]
    cases status with
    | none => simp [Failure.optionalInt, Json.same, Json.number?]
    | some n => simp [Failure.optionalInt, Json.same_int]

theorem DefaultPolicy.decide_attempt {policy : DefaultPolicy} {statuses : List Int}
    (lists : policy.Lists statuses) (reply : Reply) (start : Option Timestamp) (made : Nat)
    (request : Request) :
    policy.decide (reply.attempt start made request) =
      if reply.retryable statuses then if policy.cap ≤ made + 1 then .abort else .retry
      else .ignore := by
  have same : policy.isRetryable (reply.attempt start made request) = reply.retryable statuses := by
    cases reply with
    | raised e => rfl
    | response r =>
      refine Bool.eq_iff_iff.mpr ((lists (some r.status)).trans ?_)
      simp [Reply.retryable]
    | nothing =>
      refine Bool.eq_iff_iff.mpr ((lists none).trans ?_)
      simp [Reply.retryable]
  unfold decide
  rw [same]
  rfl

def DefaultPolicy.answer (policy : DefaultPolicy) (id : FailureId) (attempt : Attempt) :
    Decision × Option Failure :=
  (policy.decide attempt,
    match policy.decide attempt with
    | .abort => some (.exhausted id attempt)
    | _ => none)

/-- A layer around the innermost transport with a default policy, and with a delayer, if any, that
raises nothing. It forces no errors on attempts, and its limit on what is read of a body is a whole
number. -/
structure Place.Standard (p : Place) (policy : DefaultPolicy) : Prop where
  retryer : p.layer.retryer = .standard policy
  unforced : p.layer.forced = none
  limited : p.layer.limitFailure? = none
  delayer : ∀ delays, p.delayFailure delays = none

structure Amid (p : Place) (call : Call) (pos : Position) (l₀ l : Ledger) : Prop where
  stands : At p call pos l
  blameless : l₀.Blameless call.id l
  responses : l.responses = l₀.responses

/-- How a call that began in `l` ends with the reply to its last send, which was made from `before`.
A reply that is not worth a further send is what the caller gets, and no response was touched since.
In place of any other he gets an error of its own that tells of the attempt and has the reply's
error, if it is one, as its cause. -/
inductive Final (call : Call) (mode : Mode) (statuses : List Int) (l before l' : Ledger)
    (reply : Reply) (attempt : Attempt) : Reply → Prop
  | handedOn {ending : Reply} (once : reply.retryable statuses = false)
      (ends : Ends mode.routine attempt none ending l' (.decided .ignore .nothing))
      (untouched : l'.responses = (call.transmit mode before).2.responses) :
      Final call mode statuses l before l' reply attempt ending
  | exhausted {n : Nat} (worth : reply.retryable statuses = true)
      (new : (l.calls call.id).failures ≤ n)
      (cause : l'.cause? (.fresh call.id n) = reply.error?.or (l.cause? (.fresh call.id n))) :
      Final call mode statuses l before l' reply attempt
        (.raised (.exhausted (.fresh call.id n) attempt))

theorem Final.earlier {call : Call} {mode : Mode} {statuses : List Int} {l₀ l before l' : Ledger}
    {reply : Reply} {attempt : Attempt} {ending : Reply} (blameless : l₀.Blameless call.id l)
    (h : Final call mode statuses l before l' reply attempt ending) :
    Final call mode statuses l₀ before l' reply attempt ending := by
  cases h with
  | handedOn once ends untouched => exact .handedOn once ends untouched
  | exhausted worth new cause =>
    refine .exhausted worth (Nat.le_trans blameless.failures new) (cause.trans ?_)
    exact congrArg _ (blameless.cause? _)

/-- Giving up tells of the last attempt, and keeps its error and the status of its response. -/
theorem Final.reported {call : Call} {mode : Mode} {statuses : List Int} {l before l' : Ledger}
    {reply : Reply} {start : Option Timestamp} {made cap : Nat} {ending : Reply}
    (h : Final call mode statuses l before l' reply (reply.attempt start made call.request) ending)
    (worth : reply.retryable statuses = true) (spent : made + 1 = cap) :
    ∃ e, ending = .raised e ∧ e.kind = .retryLimitExceeded ∧
      (e.attempt?.map (·.count)) = some cap ∧ e.lastError? = reply.error? ∧
      e.statusCode? = reply.response?.map (·.status) := by
  cases h with
  | handedOn once ends untouched =>
    rw [worth] at once
    cases once
  | exhausted worth new cause => exact ⟨_, rfl, rfl, congrArg some spent, rfl, rfl⟩

/-- What a round from a position comes to: unless it is worth a further send and the cap leaves one,
the call ends with it. -/
structure Place.Rounded (p : Place) (policy : DefaultPolicy) (statuses : List Int) (mode : Mode)
    (call : Call) (start : Option Timestamp) (made : Nat) (pos : Position) (before : Ledger)
    (reply : Reply) (result : Option Reply) (l : Ledger) : Prop where
  hands : call.Hands mode pos.sends reply
  onward : reply.retryable statuses = true → made + 1 < policy.cap →
    result = none ∧ before.Blameless call.id l ∧ At p call ⟨pos.asks, pos.delays + p.waits,
      pos.sends + 1, pos.milestones ++
        p.onward call.request reply (reply.attempt start made call.request)⟩ l
  last : (reply.retryable statuses = true → policy.cap ≤ made + 1) →
    ∃ ending, result = some ending ∧
      Final call mode statuses before before l reply (reply.attempt start made call.request)
        ending ∧
      At p call ⟨pos.asks, pos.delays, pos.sends + 1, pos.milestones ++
        (Answer.decided (policy.decide (reply.attempt start made call.request)) .nothing).last
          call.request reply (reply.attempt start made call.request) ending⟩ l

section
variable {p : Place} {s : Setting} {call : Call} {l l₀ : Ledger} {pos : Position}
variable {policy : DefaultPolicy}

theorem Amid.note (h : Amid p call pos l₀ l) (e : Event) :
    Amid p call { pos with milestones := pos.milestones ++ e.milestone?.toList } l₀ (l.note e) :=
  ⟨h.stands.note e, h.blameless.trans ⟨rfl, Nat.le_refl _⟩, h.responses⟩

theorem Amid.measured (h : Amid p call pos l₀ l) (q : Place) (f : Metrics → Metrics) :
    Amid p call pos l₀ (q.measured f l) := by
  refine ⟨h.stands.measured q f, h.blameless.trans (.measured call.id q f l), ?_⟩
  unfold Place.measured
  split
  · exact h.responses
  · exact h.responses

theorem Amid.report (h : Amid p call pos l₀ l) (q : Place) (n : Notice) :
    (q.report call n).Yields l fun _ l' => Amid p call pos l₀ l' := by
  have noted : ∀ entry layer, Amid p call pos l₀ (l.note (.logged call.id layer entry)) := by
    intro entry layer
    have noted := h.note (.logged call.id layer entry)
    simp only [Event.milestone?, Option.toList_none, List.append_nil] at noted
    exact noted
  unfold Place.report
  split
  · exact noted _ _
  · exact noted _ _

theorem Amid.fail (h : Amid p call pos l₀ l) (hc : call.Streams Stream.Gentle) :
    Amid p call pos l₀ (l.adjustCall call.id fun c => { c with failures := c.failures + 1 }) where
  stands := h.stands.calm hc (.single .fail)
  blameless := h.blameless.trans (.adjustCall call.id l fun _ => Nat.le_succ _)
  responses := h.responses

namespace Place

theorem ask_standard (hp : p.Standard policy) (hc : call.Streams Stream.Gentle)
    (attempt : Attempt) (h : Amid p call pos l₀ l) :
    (p.ask call attempt).Yields l fun answer l' =>
      answer = .ok (policy.answer (.fresh call.id (l.calls call.id).failures) attempt) ∧
      Amid p call { pos with milestones := pos.milestones ++ [.asked attempt] } l₀ l' := by
  unfold ask DefaultPolicy.answer
  rw [hp.retryer]
  have asked := h.note (.asked call.id p.index attempt none false)
  refine yields_note ?_
  cases policy.decide attempt with
  | ignore => exact yields_pure ⟨rfl, asked⟩
  | retry => exact yields_pure ⟨rfl, asked⟩
  | abort =>
    have kept (n : Notice) : (p.report call n).Yields
        (l.note (.asked call.id p.index attempt none false)) fun _ l' => l'.calls = l.calls := by
      unfold report
      split
      · rfl
      · rfl
    refine yields_bind ((asked.report p _).and (kept _)) fun _ l₁ h₁ => ?_
    obtain ⟨amid, calls⟩ := h₁
    have made : (freshFailure call.id).Yields l₁ fun id l' =>
        id = .fresh call.id (l.calls call.id).failures ∧
        Amid p call { pos with milestones := pos.milestones ++ [.asked attempt] } l₀ l' := by
      refine ⟨?_, amid.fail hc⟩
      show FailureId.fresh call.id (l₁.calls call.id).failures = _
      rw [calls]
    refine yields_bind made fun id l₂ h₂ => ?_
    obtain ⟨rfl, amid⟩ := h₂
    exact yields_pure ⟨rfl, amid⟩

theorem decide_standard (hp : p.Standard policy) (hc : call.Streams Stream.Gentle)
    (attempt : Attempt) (h : Amid p call pos l₀ l) :
    (p.decide call attempt).Yields l fun answer l' =>
      answer = .ok (policy.answer (.fresh call.id (l.calls call.id).failures) attempt) ∧
      Amid p call { pos with
        milestones := pos.milestones ++
          [.asked attempt, .answered attempt (policy.decide attempt)] } l₀ l' := by
  refine yields_bind (ask_standard hp hc attempt h) ?_
  rintro answer l₁ ⟨rfl, amid₁⟩
  have mentioned (error : Option Failure) :
      (p.mention call attempt (policy.decide attempt) error).Yields l₁ fun _ l' =>
        Amid p call { pos with milestones := pos.milestones ++ [.asked attempt] } l₀ l' := by
    cases error with
    | none => exact amid₁
    | some e => exact amid₁.report p _
  refine yields_bind (mentioned _) fun _ l₂ amid₂ => yields_note (yields_modify (yields_pure ?_))
  have noted := amid₂.note (.answered call.id p.index attempt (policy.decide attempt))
  simp only [List.append_assoc] at noted
  exact ⟨rfl, noted.measured p _⟩

/-- The policy is asked once, with the attempt that the send came to. -/
theorem weigh_standard (hp : p.Standard policy) (hc : call.Streams Stream.Gentle)
    (start : Option Timestamp) (made : Nat) (reply : Reply) (h : At p call pos l) :
    (p.weigh call start made reply).Yields l fun weighed l' =>
      weighed = (reply.attempt start made call.request, .ok (policy.answer
        (.fresh call.id (l.calls call.id).failures) (reply.attempt start made call.request))) ∧
      Amid p call { pos with
        milestones := pos.milestones ++ [.asked (reply.attempt start made call.request),
          .answered (reply.attempt start made call.request)
            (policy.decide (reply.attempt start made call.request))] } l l' := by
  have here : Amid p call pos l l := ⟨h, .refl call.id l, rfl⟩
  have reported : (p.reportError call made reply).Yields l fun _ l' =>
      l'.calls = l.calls ∧ Amid p call pos l l' := by
    cases reply with
    | response r => exact ⟨rfl, here⟩
    | nothing => exact ⟨rfl, here⟩
    | raised e =>
      refine Yields.and ?_ (here.report p _)
      unfold reportError report
      split
      · rfl
      · rfl
  refine yields_bind reported fun _ l₁ h₁ => ?_
  obtain ⟨calls, amid₁⟩ := h₁
  refine yields_bind (attemptOf_eq hp.unforced start made reply) fun attempt l₂ h₂ => ?_
  obtain ⟨rfl, rfl⟩ := h₂
  have decides := decide_standard hp hc (reply.attempt start made call.request) amid₁
  rw [calls] at decides
  refine yields_bind decides fun answer l₃ h₃ => ?_
  obtain ⟨rfl, amid₃⟩ := h₃
  exact yields_pure ⟨rfl, amid₃⟩

theorem conclude_standard (hp : p.Standard policy) (hc : call.Streams Stream.Gentle) (s : Setting)
    (start : Option Timestamp) (made : Nat) {reply : Reply} (mild : reply.isInterrupt = false)
    (h : At p call pos l) {Q : Verdict → Ledger → Prop}
    (follows : ∀ l₁, Amid p call { pos with
        milestones := pos.milestones ++ ([.received reply] ++
          [.asked (reply.attempt start made call.request),
            .answered (reply.attempt start made call.request)
              (policy.decide (reply.attempt start made call.request))]) } l l₁ →
      (p.follow s.mode call (reply.attempt start made call.request) (.ok (policy.answer
        (.fresh call.id (l.calls call.id).failures) (reply.attempt start made call.request))) >>=
          p.finish s.mode call).Yields l₁ Q) :
    (p.conclude s call start made reply).Yields l Q := by
  have received := h.note (.received call.id p.index reply)
  refine yields_conclude mild (weigh_standard hp hc start made reply received) ?_
  rintro attempt answer l₁ ⟨same, amid⟩
  obtain ⟨rfl, rfl⟩ := Prod.mk.inj same
  have stands := amid.stands
  simp only [Event.milestone?, Option.toList_some, List.append_assoc] at stands
  exact follows l₁ ⟨stands, ⟨amid.blameless.causes, amid.blameless.failures⟩, amid.responses⟩

theorem conclude_retried (hp : p.Standard policy) (hc : call.Streams Stream.Gentle) (s : Setting)
    (start : Option Timestamp) (made : Nat) {reply : Reply} (mild : reply.isInterrupt = false)
    (retry : policy.decide (reply.attempt start made call.request) = .retry)
    (h : At p call pos l) :
    (p.conclude s call start made reply).Yields l fun verdict l' =>
      verdict = .again (reply.attempt start made call.request) ∧ l.Blameless call.id l' ∧
      At p call { pos with milestones := pos.milestones ++
        ([.received reply, .asked (reply.attempt start made call.request),
          .answered (reply.attempt start made call.request) .retry] ++ reply.released) } l' := by
  refine conclude_standard hp hc s start made mild h fun l₁ amid => ?_
  simp only [DefaultPolicy.answer, retry] at amid ⊢
  have follows : (p.follow s.mode call (reply.attempt start made call.request)
      (.ok (.retry, none))).Yields l₁ fun verdict l' =>
        verdict = .again (reply.attempt start made call.request) ∧ l.Blameless call.id l' ∧
        At p call { pos with milestones := pos.milestones ++
          ([.received reply, .asked (reply.attempt start made call.request),
            .answered (reply.attempt start made call.request) .retry] ++ reply.released) } l' := by
    refine follow_rejected hp.limited hc reply rfl rfl amid.stands fun l₂ at₂ blameless => ?_
    simp only [List.append_assoc] at at₂
    exact yields_pure ⟨rfl, amid.blameless.trans blameless, at₂⟩
  refine yields_bind follows fun verdict l₂ h₂ => ?_
  obtain ⟨rfl, settled⟩ := h₂
  exact yields_pure ⟨rfl, settled⟩

theorem settle_standard (hc : call.Streams Stream.Gentle) (reply : Reply)
    (start : Option Timestamp) (made : Nat) (h : At p call pos l) :
    (settle call (reply.attempt start made call.request)).Yields l fun ending l' =>
      Ends .function (reply.attempt start made call.request) none ending l'
        (.decided .ignore .nothing) ∧ l'.responses = l.responses ∧ At p call pos l' := by
  cases reply with
  | raised e => exact yields_pure ⟨rfl, rfl, h⟩
  | response r => exact yields_pure ⟨rfl, rfl, h⟩
  | nothing => exact ⟨⟨_, rfl⟩, rfl, h.calm hc (.single .fail)⟩

/-- A reply that is not worth a further send is what the layer hands on, untouched. -/
theorem conclude_ignored (hp : p.Standard policy) (hc : call.Streams Stream.Gentle) (s : Setting)
    (start : Option Timestamp) (made : Nat) {reply : Reply} (mild : reply.isInterrupt = false)
    (out : reply.outOf s.mode.routine = reply)
    (ignore : policy.decide (reply.attempt start made call.request) = .ignore)
    (h : At p call pos l) :
    (p.conclude s call start made reply).Yields l fun verdict l' =>
      ∃ ending, verdict = .finished ending ∧
      Ends s.mode.routine (reply.attempt start made call.request) none ending l'
        (.decided .ignore .nothing) ∧
      l'.responses = l.responses ∧
      At p call { pos with milestones := pos.milestones ++
        [.received reply, .asked (reply.attempt start made call.request),
          .answered (reply.attempt start made call.request) .ignore, .left ending] } l' := by
  refine conclude_standard hp hc s start made mild h fun l₁ amid => ?_
  simp only [DefaultPolicy.answer, ignore] at amid ⊢
  have follows :
      p.follow s.mode call (reply.attempt start made call.request) (.ok (.ignore, none)) =
        .finished <$> settle call (reply.attempt start made call.request) := by
    cases reply with
    | raised e => rfl
    | response r => rfl
    | nothing => rfl
  rw [follows]
  refine yields_bind (yields_map (settle_standard hc reply start made amid.stands)
    (Q := fun verdict l' => ∃ ending, verdict = .finished ending ∧
      Ends .function (reply.attempt start made call.request) none ending l'
        (.decided .ignore .nothing) ∧
      l'.responses = l₁.responses ∧ At p call _ l') fun ending l' h' => ⟨ending, rfl, h'⟩) ?_
  rintro verdict l₂ ⟨ending, rfl, ends, responses, at₂⟩
  refine yields_note (yields_pure ⟨_, rfl, ends.leave (reply.attempt_out out start made _),
    responses.trans amid.responses, ?_⟩)
  have left := at₂.note (.left call.id p.index (ending.outOf s.mode.routine))
  simp only [Event.milestone?, Option.toList_some, List.append_assoc] at left
  exact left

theorem conclude_exhausted (hp : p.Standard policy) (hc : call.Streams Stream.Gentle) (s : Setting)
    (start : Option Timestamp) (made : Nat) {reply : Reply} (mild : reply.isInterrupt = false)
    (abort : policy.decide (reply.attempt start made call.request) = .abort)
    (known : reply.Known call.id l) (h : At p call pos l) :
    (p.conclude s call start made reply).Yields l fun verdict l' =>
      ∃ n ending, verdict = .finished ending ∧ (l.calls call.id).failures ≤ n ∧
      ending = .raised (.exhausted (.fresh call.id n) (reply.attempt start made call.request)) ∧
      l'.cause? (.fresh call.id n) = reply.error?.or (l.cause? (.fresh call.id n)) ∧
      At p call { pos with milestones := pos.milestones ++
        ([.received reply, .asked (reply.attempt start made call.request),
          .answered (reply.attempt start made call.request) .abort] ++ reply.released ++
            [.left ending]) } l' := by
  refine conclude_standard hp hc s start made mild h fun l₁ amid => ?_
  simp only [DefaultPolicy.answer, abort] at amid ⊢
  generalize hn : (l.calls call.id).failures = n
  have other : ∀ own, (reply.attempt start made call.request).error = some own →
      own.is (Failure.exhausted (.fresh call.id n) (reply.attempt start made call.request)) =
        false :=
    fun own hown => Failure.is_of_id_ne ((known own hown).id_ne (Nat.le_of_eq hn))
  have follows : (p.follow s.mode call (reply.attempt start made call.request)
      (.ok (.abort, some (.exhausted (.fresh call.id n)
        (reply.attempt start made call.request))))).Yields l₁ fun verdict l' =>
      ∃ ending, verdict = .finished ending ∧
      ending = .raised (.exhausted (.fresh call.id n) (reply.attempt start made call.request)) ∧
      l'.cause? (.fresh call.id n) = reply.error?.or (l.cause? (.fresh call.id n)) ∧
      At p call { pos with milestones := pos.milestones ++
        ([.received reply, .asked (reply.attempt start made call.request),
          .answered (reply.attempt start made call.request) .abort] ++ reply.released) } l' := by
    refine follow_rejected hp.limited hc reply rfl rfl amid.stands fun l₂ at₂ blameless => ?_
    have aborts := (abort_course hc (reply.attempt start made call.request) (some (.exhausted
      (.fresh call.id n) (reply.attempt start made call.request))) at₂).and (abort_cause _ _)
    refine yields_bind aborts ?_
    rintro e l₃ ⟨⟨at₃, own | ⟨given, -⟩, -⟩, cause⟩
    · obtain rfl := Option.some.inj own
      simp only [List.append_assoc] at at₃
      refine yields_pure ⟨_, rfl, rfl, (cause other).trans ?_, at₃⟩
      exact congrArg _ ((amid.blameless.trans blameless).cause? _)
    · cases given
  refine yields_bind follows ?_
  rintro verdict l₂ ⟨ending, rfl, rfl, cause, at₂⟩
  have out : (Reply.raised (.exhausted (.fresh call.id n)
      (reply.attempt start made call.request))).outOf s.mode.routine = .raised (.exhausted
        (.fresh call.id n) (reply.attempt start made call.request)) :=
    congrArg Reply.raised (Failure.outOf_of_general _ rfl)
  refine yields_note (yields_pure ⟨n, _, rfl, Nat.le_refl n, out, cause, ?_⟩)
  rw [out]
  have left := at₂.note (.left call.id p.index (.raised (.exhausted (.fresh call.id n)
    (reply.attempt start made call.request))))
  simp only [Event.milestone?, Option.toList_some, List.append_assoc] at left ⊢
  exact left

theorem wait_standard (hp : p.Standard policy) (hc : call.Streams Stream.Gentle)
    (attempt : Attempt) (h : At p call pos l) :
    (p.waitBlocking s call attempt).Yields l fun result l' => result = .ok () ∧
      l.Blameless call.id l' ∧ At p call { pos with
        delays := pos.delays + p.waits
        milestones := pos.milestones ++ p.waiting attempt } l' := by
  have waits := (wait_course hc attempt h).and (waitBlocking_excuses (p := p) (l := l) s attempt)
  rw [hp.delayer] at waits
  obtain ⟨⟨waited, at'⟩, blameless, -⟩ := waits
  exact ⟨waited, blameless, at'⟩

theorem turn_standard (hp : p.Standard policy) {statuses : List Int} (lists : policy.Lists statuses)
    (hc : call.Gentle) (s : Setting) (start : Option Timestamp) (made : Nat) (h : At p call pos l) :
    (p.turn s call start made).Yields l fun result l' =>
      p.Rounded policy statuses s.mode call start made pos l (call.transmit s.mode l).1 result
        l' := by
  obtain ⟨hands, mild, out, at₁⟩ := transmit_course hc s.mode h
  obtain ⟨blameless, known⟩ : (call.transmit s.mode).Excuses call.id l _ := call.transmit_excuses
  refine yields_bind (P := fun reply l₁ => call.transmit s.mode l = (reply, l₁)) rfl
    fun reply l₁ sent => ?_
  rw [sent] at hands mild out at₁ blameless known ⊢
  have decided := DefaultPolicy.decide_attempt lists reply start made call.request
  cases worth : reply.retryable statuses with
  | false =>
    rw [worth, if_neg Bool.false_ne_true] at decided
    refine yields_bind (conclude_ignored hp hc.streams s start made mild out decided at₁) ?_
    rintro verdict l₂ ⟨ending, rfl, ends, untouched, at₂⟩
    refine yields_pure ⟨hands, fun worth' => ?_, fun _ => ⟨ending, rfl, ?_, ?_⟩⟩
    · rw [worth] at worth'
      cases worth'
    · exact .handedOn worth ends (by rw [sent]; exact untouched)
    · rw [decided]
      simpa only [Answer.last, Answer.asked, Answer.release, List.append_assoc, List.cons_append,
        List.nil_append, List.append_nil] using at₂
  | true =>
    rw [worth, if_pos rfl] at decided
    by_cases spent : policy.cap ≤ made + 1
    · rw [if_pos spent] at decided
      refine yields_bind (conclude_exhausted hp hc.streams s start made mild decided known at₁) ?_
      rintro verdict l₂ ⟨n, ending, rfl, new, rfl, cause, at₂⟩
      refine yields_pure ⟨hands, fun _ more => absurd spent (by omega), fun _ => ⟨_, rfl, ?_, ?_⟩⟩
      · refine .exhausted worth (Nat.le_trans blameless.failures new) (cause.trans ?_)
        exact congrArg _ (blameless.cause? _)
      · rw [decided]
        simpa only [Answer.last, Answer.asked, Answer.release, List.append_assoc, List.cons_append,
          List.nil_append, List.append_nil] using at₂
    · rw [if_neg spent] at decided
      refine yields_bind (conclude_retried hp hc.streams s start made mild decided at₁) ?_
      rintro verdict l₂ ⟨rfl, blameless₂, at₂⟩
      refine yields_bind (wait_standard hp hc.streams _ at₂) ?_
      rintro result l₃ ⟨rfl, blameless₃, at₃⟩
      refine yields_pure ⟨hands, fun _ _ => ⟨rfl, ?_, ?_⟩, fun last => absurd (last worth) spent⟩
      · exact (blameless.trans blameless₂).trans blameless₃
      · simpa only [onward, List.append_assoc, List.cons_append, List.nil_append] using at₃

end Place

end

end HttpRetry
