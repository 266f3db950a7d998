import HttpRetry.Proofs.Endings
import HttpRetry.Proofs.Inserted
set_option autoImplicit false

namespace HttpRetry

open Work

/-- A reply that is final to a policy: a response with a status that is not listed, or a failure other
than of the transport. -/
def DefaultPolicy.Settles (policy : DefaultPolicy) : Reply → Prop
  | .response r => policy.hasStatus (some r.status) = false
  | .raised e => e.isTransport = false
  | .nothing => False

theorem DefaultPolicy.Settles.outOf {policy : DefaultPolicy} {reply : Reply}
    (settles : policy.Settles reply) (routine : Routine) : policy.Settles (reply.outOf routine) := by
  cases reply with
  | response r => exact settles
  | nothing => exact settles
  | raised e =>
    show (e.outOf routine).isTransport = false
    rcases e.outOf_cases routine with same | ⟨text, -, turned⟩
    · rw [same]
      exact settles
    · rw [turned]
      rfl

/-- A layer with a default policy, and with a clock and a delayer, if any, that raise no failure of
the transport. -/
structure Layer.Defaults (layer : Layer) (policy : DefaultPolicy) : Prop where
  retryer : layer.retryer = .standard policy
  clock : ∀ use now spec, layer.clock.dial use now = .error spec → spec.kind.isTransport = false
  delayer : ∀ delay, layer.delay = some delay → ∀ n spec, (delay n).failure = some spec →
    spec.kind.isTransport = false

def DefaultPolicy.Answers (policy : DefaultPolicy) (attempt : Attempt)
    (answer : Except Failure (Decision × Option Failure)) : Prop :=
  ∃ error, answer = .ok (policy.decide attempt, error) ∧
    (policy.decide attempt = .abort → ∃ id, error = some (.exhausted id attempt))

namespace Place

variable {p : Place} {policy : DefaultPolicy} {s : Setting} {call : Call}

theorem ask_answers (retryer : p.layer.retryer = .standard policy) (attempt : Attempt) (l : Ledger) :
    (p.ask call attempt).Yields l fun answer _ => policy.Answers attempt answer := by
  unfold ask
  rw [retryer]
  refine yields_note ?_
  unfold DefaultPolicy.Answers
  cases policy.decide attempt with
  | abort => exact ⟨_, rfl, fun _ => ⟨_, rfl⟩⟩
  | ignore => exact ⟨none, rfl, Decision.noConfusion⟩
  | retry => exact ⟨none, rfl, Decision.noConfusion⟩

theorem weigh_answers (retryer : p.layer.retryer = .standard policy) (start : Option Timestamp)
    (made : Nat) (reply : Reply) (l : Ledger) :
    (p.weigh call start made reply).Yields l fun weighed _ =>
      policy.Answers weighed.1 weighed.2 := by
  refine yields_after fun _ l₁ => yields_after fun attempt l₂ => ?_
  have decides : (p.decide call attempt).Yields l₂ fun answer _ =>
      policy.Answers attempt answer := by
    refine yields_bind (ask_answers retryer attempt l₂) fun answer l₃ answers => ?_
    obtain ⟨error, rfl, gives⟩ := answers
    exact yields_after fun _ l₄ => yields_note (yields_after fun _ l₅ => ⟨error, rfl, gives⟩)
  exact yields_bind decides fun answer l₃ answers => answers

theorem settle_settles {attempt : Attempt} (final : policy.isRetryable attempt = false)
    (l : Ledger) :
    (settle call attempt).Yields l fun reply _ => policy.Settles reply := by
  unfold DefaultPolicy.isRetryable at final
  unfold settle
  cases error : attempt.error with
  | some e =>
    rw [error] at final
    exact final
  | none =>
    rw [error] at final
    cases response : attempt.response with
    | some r =>
      rw [Attempt.status?, response] at final
      exact final
    | none => exact rfl

theorem resolve_settles {attempt : Attempt} {answer : Except Failure (Decision × Option Failure)}
    (answers : policy.Answers attempt answer) (l : Ledger) :
    (p.resolve call attempt answer).Yields l fun verdict _ => verdict.EndsIn policy.Settles := by
  obtain ⟨error, rfl, gives⟩ := answers
  cases decided : policy.decide attempt with
  | ignore =>
    have final : policy.isRetryable attempt = false := by
      cases retryable : policy.isRetryable attempt with
      | false => rfl
      | true =>
        rw [DefaultPolicy.decide, retryable, if_pos rfl] at decided
        split at decided
        · cases decided
        · cases decided
    exact yields_bind (settle_settles final l) fun reply l' settles => settles
  | retry => exact trivial
  | abort =>
    obtain ⟨id, rfl⟩ := gives decided
    exact rfl

theorem conclude_settles (retryer : p.layer.retryer = .standard policy)
    (start : Option Timestamp) (made : Nat) (reply : Reply) (l : Ledger) :
    (p.conclude s call start made reply).Yields l fun verdict _ =>
      verdict.EndsIn policy.Settles := by
  refine conclude_endsIn (fun reply settles => settles.outOf _) (fun e interrupt => ?_)
    (fun e kept => ?_) (weigh_answers retryer start made reply) fun attempt answer l answers => ?_
  · exact Failure.isTransport_of_isInterrupt interrupt
  · exact Failure.isTransport_of_not_isSwallowed kept
  · exact resolve_settles answers l

end Place

/-- Whatever is below a default layer, and however its releases, its delayer or its clock fail, it
ends a call with a reply that is final to its policy. -/
theorem sendThrough_settles {p : Place} {policy : DefaultPolicy} (defaults : p.layer.Defaults policy)
    (s : Setting) (call : Call) (budget : Nat) (inner : List Place) (l : Ledger) :
    (sendThrough s call budget (p :: inner)).Yields l fun sent _ =>
      ∀ reply, sent = some reply → policy.Settles reply := by
  have settles (spec : FailureSpec) (plain : spec.kind.isTransport = false) (id : FailureId) :
      policy.Settles (.raised ((spec.failure id).outOf s.mode.routine)) := by
    have raised : policy.Settles (.raised (spec.failure id)) := by
      show (spec.failure id).kind.isTransport = false
      rw [FailureSpec.kind_failure]
      exact plain
    exact raised.outOf s.mode.routine
  refine sendThrough_endsIn (fun l e failed => ?_)
    (fun start made reply l => Place.conclude_settles defaults.retryer start made reply l)
    (fun attempt l => Place.waitBlocking_failsIn fun delay has n spec fails =>
      settles spec (defaults.delayer delay has n spec fails)) budget inner l
  cases reads : p.layer.clock.peek l with
  | ok start =>
    rw [Place.enter_of_reading reads] at failed
    cases failed
  | error spec =>
    rw [Place.enter_of_failing reads] at failed
    cases failed
    exact settles spec (defaults.clock _ _ spec reads) _

theorem DefaultPolicy.Settles.isRetryable {policy policy' : DefaultPolicy} {reply : Reply}
    (settles : policy.Settles reply)
    (fewer : ∀ status : Int, policy'.hasStatus (some status) = true →
      policy.hasStatus (some status) = true) (start : Option Timestamp) (made : Nat)
    (request : Request) :
    policy'.isRetryable (reply.attempt start made request) = false := by
  cases reply with
  | nothing => exact settles.elim
  | raised e => exact settles
  | response r =>
    show policy'.hasStatus (some r.status) = false
    cases listed : policy'.hasStatus (some r.status) with
    | false => rfl
    | true =>
      have known : policy.hasStatus (some r.status) = false := settles
      rw [fewer r.status listed] at known
      cases known

theorem Place.ignores_standard {p : Place} {policy : DefaultPolicy}
    (retryer : p.layer.retryer = .standard policy) {attempt : Attempt}
    (final : policy.isRetryable attempt = false) (call : Call) : p.Ignores call attempt false := by
  intro l
  have ignored : policy.decide attempt = .ignore := by
    rw [DefaultPolicy.decide, final]
    rfl
  unfold ask
  rw [retryer]
  refine yields_note ?_
  rw [ignored]
  exact ⟨rfl, none, .note l rfl fun _ _ => rfl⟩

/-- The events of a layer that was passed once by each of these calls, which it handed these replies:
it took up the call, made one attempt, and handed on the reply. -/
inductive Place.Passages (p : Place) : List Call → List Reply → List Event → Prop
  | nothing : Passages p [] [] []
  | further {calls : List Call} {replies : List Reply} {own : List Event} (call : Call) (reply : Reply)
    (start : Option Timestamp) (elapsed : Option Int) (earlier : Passages p calls replies own) :
    Passages p (calls ++ [call]) (replies ++ [reply])
      (own ++ (p.entering call start ++ p.handing call start elapsed false reply))

/-- What two stacks come to for the same requests, the first with an outer layer that only hands on:
the same responses and failures, the latter with the same causes, and the same events and records but
for one passage of each request through the outer layer. -/
structure Stacked (t : Place) (layers : List Layer) (calls : List Call) (replies replies' : List Reply)
    (l l' : Ledger) : Prop where
  same : List.Forall₂ (Reply.Alike (insertion t layers) fun a b => a = b) replies replies'
  ledgers : Inserted t layers (fun own => t.Passages calls replies own.reverse) (fun a b => a = b) l l'

theorem Stacked.further {t : Place} {layers : List Layer} {calls : List Call}
    {replies replies' : List Reply} {call : Call} {reply reply' : Reply} {start : Option Timestamp}
    {elapsed : Option Int} {ids : Naming} {l l' l₁ l₁' : Ledger}
    (h : Stacked t layers calls replies replies' l l')
    (alike : reply.Alike (insertion t layers) ids reply')
    (tied : Inserted t layers (· = (t.entering call start ++
      t.handing call start elapsed false reply).reverse ++ l.eventsAt t.index) ids l₁ l₁') :
    Stacked t layers (calls ++ [call]) (replies ++ [reply]) (replies' ++ [reply']) l₁ l₁' := by
  have named : ids = fun a b => a = b := funext fun a => funext fun b => propext (tied.named a b)
  subst named
  refine ⟨List.rel_append h.same (.cons alike .nil), tied.weaken fun own passage => ?_⟩
  rw [passage, List.reverse_append, List.reverse_reverse]
  exact .further call reply start elapsed h.ledgers.own

section
variable (s : Setting) {t : Place} {policy policy' : DefaultPolicy}
  (retryer : t.layer.retryer = .standard policy') (unforced : t.layer.forced = none) {inner : Layer}
  (defaults : inner.Defaults policy)
  (fewer : ∀ status : Int, policy'.hasStatus (some status) = true →
    policy.hasStatus (some status) = true) {rest : List Layer}
  (steady : t.layer.SteadyAmong (inner :: rest)) (call : Call) (budget : Nat)
  {calls : List Call} {replies replies' : List Reply} {l l' : Ledger}

include steady retryer unforced defaults fewer

/-- A send through the outer layer is one passage around the send through the inner one. -/
theorem sends_stacked {P : List Event → Prop} {ids : Naming}
    (tied : Inserted t (inner :: rest) P ids l l') :
    ∃ start ids' sent sent', Subrelation ids ids' ∧
      sendThrough s call (budget + 1) (t :: placesFrom (t.index + 1) (inner :: rest)) l = sent ∧
      sendThrough s call (budget + 1) (placesFrom t.index (inner :: rest)) l' = sent' ∧
      Sent.Alike (insertion t (inner :: rest)) ids' sent.1 sent'.1 ∧
      ∀ reply, sent.1 = some reply → ∃ elapsed, Inserted t (inner :: rest)
        (· = (t.entering call start ++ t.handing call start elapsed false reply).reverse ++
          l.eventsAt t.index) ids' sent.2 sent'.2 := by
  have final : ∀ l reply, (sendThrough s call (budget + 1)
      (placesFrom (t.index + 1) (inner :: rest)) l).1 = some reply → reply ≠ .nothing ∧
      ∀ start, t.Ignores call (reply.attempt start 0 call.request) false := by
    intro l reply sends
    have settles : policy.Settles reply :=
      sendThrough_settles (p := ⟨t.index + 1, inner⟩) defaults s call (budget + 1)
        (placesFrom (t.index + 1 + 1) rest) l reply sends
    refine ⟨?_, fun start => ?_⟩
    · rintro rfl
      exact settles
    · exact Place.ignores_standard retryer (settles.isRetryable fewer start 0 call.request) call
  obtain ⟨start, ids', sent, sent', le, through, below, alike, -, goes⟩ :=
    tied.hands steady unforced false s budget (fun _ mem => mem) final
  exact ⟨start, ids', sent, sent', le, through, below, alike, goes⟩

theorem Stacked.second (h : Stacked t (inner :: rest) calls replies replies' l l') {reply : Reply}
    {l₁ : Ledger} (sent : s.send (t :: placesFrom (t.index + 1) (inner :: rest)) budget call l =
      (some reply, l₁)) :
    ∃ budget' reply' l₁',
      s.send (placesFrom t.index (inner :: rest)) budget' call l' = (some reply', l₁') ∧
      Stacked t (inner :: rest) (calls ++ [call]) (replies ++ [reply]) (replies' ++ [reply']) l₁ l₁' := by
  obtain ⟨budget, through⟩ := Setting.sendThrough_of_send sent
  have through := sendThrough_more _ (Nat.le_succ budget) _ l l₁ reply through
  obtain ⟨start, ids, _, ⟨sent', l₁'⟩, -, rfl, below, alike, goes⟩ :=
    sends_stacked s retryer unforced defaults fewer steady call budget h.ledgers
  rw [through] at alike goes
  obtain ⟨elapsed, tied⟩ := goes reply rfl
  cases alike with
  | some alike =>
    obtain ⟨budget', sends⟩ := Setting.send_of_sendThrough below
    exact ⟨budget', _, l₁', sends, h.further alike tied⟩

theorem Stacked.first (h : Stacked t (inner :: rest) calls replies replies' l l') {reply' : Reply}
    {l₁' : Ledger} (sent : s.send (placesFrom t.index (inner :: rest)) budget call l' =
      (some reply', l₁')) :
    ∃ budget' reply l₁,
      s.send (t :: placesFrom (t.index + 1) (inner :: rest)) budget' call l = (some reply, l₁) ∧
      Stacked t (inner :: rest) (calls ++ [call]) (replies ++ [reply]) (replies' ++ [reply']) l₁ l₁' := by
  obtain ⟨budget, below⟩ := Setting.sendThrough_of_send sent
  have below := sendThrough_more _ (Nat.le_succ budget) _ l' l₁' reply' below
  obtain ⟨start, ids, ⟨sent, l₁⟩, _, -, through, rfl, alike, goes⟩ :=
    sends_stacked s retryer unforced defaults fewer steady call budget h.ledgers
  rw [below] at alike goes
  cases alike with
  | some alike =>
    obtain ⟨elapsed, tied⟩ := goes _ rfl
    obtain ⟨budget', sends⟩ := Setting.send_of_sendThrough through
    exact ⟨budget', _, l₁, sends, h.further alike tied⟩

end

/-- Stacking default layers does not multiply sends. Around a default layer, another one with no
further statuses makes one attempt for each request and hands on what it comes to: requests end as
with the inner layer alone, and everything below the outer layer is done as without it. -/
theorem default_layers_stack (s : Setting) {outer inner : Layer} {policy policy' : DefaultPolicy}
    (retryer : outer.retryer = .standard policy') (unforced : outer.forced = none)
    (defaults : inner.Defaults policy)
    (fewer : ∀ status : Int, policy'.hasStatus (some status) = true →
      policy.hasStatus (some status) = true) {rest : List Layer}
    (steady : outer.SteadyAmong (inner :: rest)) (calls : List Call) :
    (∀ replies l, Served s (placesFrom 0 (outer :: inner :: rest)) calls {} replies l →
      ∃ replies' l', Served s (placesFrom 0 (inner :: rest)) calls {} replies' l' ∧
        Stacked ⟨0, outer⟩ (inner :: rest) calls replies replies' l l') ∧
    ∀ replies' l', Served s (placesFrom 0 (inner :: rest)) calls {} replies' l' →
      ∃ replies l, Served s (placesFrom 0 (outer :: inner :: rest)) calls {} replies l ∧
        Stacked ⟨0, outer⟩ (inner :: rest) calls replies replies' l l' := by
  have start : Stacked ⟨0, outer⟩ (inner :: rest) [] [] [] {} {} := ⟨.nil, .empty _ _ .nothing⟩
  refine ⟨fun replies l served => ?_, fun replies' l' served => ?_⟩
  · refine Served.follows (R := Stacked ⟨0, outer⟩ (inner :: rest)) ?_ start served
    intro call _ done replies replies' l l' budget reply l₁ stacked sent
    exact stacked.second s retryer unforced defaults fewer steady call budget sent
  · refine Served.follows (R := fun calls replies' replies l' l =>
      Stacked ⟨0, outer⟩ (inner :: rest) calls replies replies' l l') ?_ start served
    intro call _ done replies' replies l' l budget reply' l₁' stacked sent
    exact stacked.first s retryer unforced defaults fewer steady call budget sent

def twice : DefaultPolicy := ⟨2, .int 2, [.int 503], by decide⟩

def sturdy : Layer := { oneRetry.layer with retryer := .standard twice }

def unservedCall : Call where
  id := 0
  request := { method := "GET", url := "http://example.test/" }
  feed := fun _ => { act := .respondText 503 "busy" }

/-- Two layers that send twice at most send twice in all. -/
theorem default_layers_stack_unserved :
    ∃ replies l, Served ⟨.blocking, .binary⟩ (placesFrom 0 [sturdy, sturdy]) [unservedCall] {}
      replies l ∧ (l.calls 0).sends = 2 := by
  have steady : sturdy.clock.IsSteady := fun _ _ => ⟨none, rfl⟩
  have defaults : sturdy.Defaults twice :=
    ⟨rfl, fun _ _ _ fails => (by cases fails), fun _ has => (by cases has)⟩
  have among : sturdy.SteadyAmong [sturdy] := ⟨steady, List.forall_mem_singleton.mpr fun _ => steady⟩
  have unforced : sturdy.forced = none := rfl
  obtain ⟨-, wraps⟩ := default_layers_stack ⟨.blocking, .binary⟩ defaults.retryer unforced defaults
    (fun _ listed => listed) among [unservedCall]
  obtain ⟨replies', l', served, sends⟩ : ∃ replies' l',
      Served ⟨.blocking, .binary⟩ (placesFrom 0 [sturdy]) [unservedCall] {} replies' l' ∧
        (l'.calls 0).sends = 2 := ⟨_, _, .request 2 rfl .nothing, rfl⟩
  obtain ⟨replies, l, served', stacked⟩ := wraps _ _ served
  refine ⟨replies, l, served', ?_⟩
  rw [← stacked.ledgers.calls, sends]

end HttpRetry
