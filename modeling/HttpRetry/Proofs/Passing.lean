import HttpRetry.Proofs.Endings
import HttpRetry.Proofs.Loop
import HttpRetry.Proofs.Stepwise
import HttpRetry.Proofs.Tally
set_option autoImplicit false

namespace HttpRetry

open Work

def Event.layer? : Event → Option Nat
  | .entered _ layer _ | .refused _ layer | .bound _ layer _ | .received _ layer _
  | .asked _ layer .. | .answered _ layer .. | .releasing _ layer _ | .delaying _ layer _
  | .delayed _ layer .. | .left _ layer _ | .logged _ layer _ => some layer
  | .sent .. | .streamClosed .. | .transportClosed _ => none

def Place.counts (p : Place) (method : String) (decision : Decision) : Event → Bool
  | .answered _ _ attempt d =>
    p.layer.settings.measures && (attempt.request.method, d) == (method, decision)
  | _ => false

/-- What a layer does by itself: it notes events of its own, the latest first, reads its clock, asks
its retryer and counts. -/
structure Ledger.Aside (p : Place) (own : List Event) (l l' : Ledger) : Prop where
  journal : l'.journal = own ++ l.journal
  mine : ∀ e ∈ own, e.layer? = some p.index
  responses : l'.responses = l.responses
  causes : l'.causes = l.causes
  now : l'.now = l.now
  clocks : ∀ key, key ≠ p.layer.clock.key → l'.clocks key = l.clocks key
  asks : ∀ i, i ≠ p.index → l'.asks i = l.asks i
  delays : l'.delays = l.delays
  calls : l'.calls = l.calls
  drainErrors : l'.metrics.drainErrors = l.metrics.drainErrors
  delay : l'.metrics.delay = l.metrics.delay
  attempts : ∀ method decision, l'.metrics.attemptCount method decision =
    l.metrics.attemptCount method decision + own.countP (p.counts method decision)

namespace Ledger.Aside

variable {p : Place} {own own' : List Event} {l l' l'' : Ledger}

theorem refl (p : Place) (l : Ledger) : Aside p [] l l :=
  ⟨rfl, fun _ h => absurd h List.not_mem_nil, rfl, rfl, rfl, fun _ _ => rfl, fun _ _ => rfl, rfl, rfl,
    rfl, rfl, fun _ _ => rfl⟩

theorem trans (h : Aside p own l l') (h' : Aside p own' l' l'') :
    Aside p (own' ++ own) l l'' where
  journal := by rw [h'.journal, h.journal, List.append_assoc]
  mine e mem := (List.mem_append.mp mem).elim (h'.mine e) (h.mine e)
  responses := h'.responses.trans h.responses
  causes := h'.causes.trans h.causes
  now := h'.now.trans h.now
  clocks key other := (h'.clocks key other).trans (h.clocks key other)
  asks i ne := (h'.asks i ne).trans (h.asks i ne)
  delays := h'.delays.trans h.delays
  calls := h'.calls.trans h.calls
  drainErrors := h'.drainErrors.trans h.drainErrors
  delay := h'.delay.trans h.delay
  attempts method decision := by
    rw [h'.attempts, h.attempts, List.countP_append]
    omega

theorem note (l : Ledger) {e : Event} (mine : e.layer? = some p.index)
    (uncounted : ∀ method decision, p.counts method decision e = false) :
    Aside p [e] l (l.note e) := by
  refine ⟨rfl, fun e' mem => ?_, rfl, rfl, rfl, fun _ _ => rfl, fun _ _ => rfl, rfl, rfl, rfl, rfl,
    fun _ _ => ?_⟩
  · rw [List.mem_singleton.mp mem]
    exact mine
  · simp [uncounted, Ledger.note]

theorem useClock (p : Place) (l : Ledger) (f : ClockUse → ClockUse) :
    Aside p [] l (l.adjustClock p.layer.clock.key f) :=
  ⟨rfl, fun _ h => absurd h List.not_mem_nil, rfl, rfl, rfl, fun _ other => updateAt_of_ne other,
    fun _ _ => rfl, rfl, rfl, rfl, rfl, fun _ _ => rfl⟩

theorem ask (p : Place) (l : Ledger) :
    Aside p [] l { l with asks := updateAt l.asks p.index (· + 1) } :=
  ⟨rfl, fun _ h => absurd h List.not_mem_nil, rfl, rfl, rfl, fun _ _ => rfl,
    fun _ ne => updateAt_of_ne ne, rfl, rfl, rfl, rfl, fun _ _ => rfl⟩

theorem answered (p : Place) (call : Nat) (attempt : Attempt) (decision : Decision) (l : Ledger) :
    Aside p [.answered call p.index attempt decision] l
      (p.measured (·.countAttempt attempt.request.method decision)
        (l.note (.answered call p.index attempt decision))) := by
  rw [Place.measured_eq]
  refine ⟨rfl, fun e mem => ?_, rfl, rfl, rfl, fun _ _ => rfl, fun _ _ => rfl, rfl, rfl, ?_, ?_,
    fun method d => ?_⟩
  · rw [List.mem_singleton.mp mem]
    rfl
  · simp only [Ledger.note]
    split
    · rfl
    · rfl
  · simp only [Ledger.note]
    split
    · rfl
    · rfl
  · simp only [Ledger.note, Place.counts, List.countP_singleton]
    exact l.metrics.attemptCount_counted p.layer.settings.measures attempt.request.method decision
      method d

end Ledger.Aside

namespace Place

def entering (p : Place) (call : Call) (start : Option Timestamp) : List Event :=
  (if p.layer.sink = .injected then [.bound call.id p.index call.request] else []) ++
    [.entered call.id p.index start]

def mentions (p : Place) (call : Call) : Reply → List Event
  | .raised e => [.logged call.id p.index ⟨p.layer.sink, some call.request, .requestError 1 e⟩]
  | _ => []

/-- The events of a layer that hands on what its first send comes to, in order: an interrupt at once,
anything else as its retryer says. -/
def handing (p : Place) (call : Call) (start : Option Timestamp) (elapsed : Option Int)
    (scripted : Bool) (reply : Reply) : List Event :=
  [.received call.id p.index reply] ++
    (if reply.isInterrupt then []
      else p.mentions call reply ++
        [.asked call.id p.index (reply.attempt start 0 call.request) elapsed scripted,
          .answered call.id p.index (reply.attempt start 0 call.request) .ignore]) ++
    [.left call.id p.index reply]

/-- Whether the retryer of a layer answers that an attempt is final, and the layer does nothing else
for it than to ask. -/
def Ignores (p : Place) (call : Call) (attempt : Attempt) (scripted : Bool) : Prop :=
  ∀ l, (p.ask call attempt).Yields l fun answer l' => answer = .ok (.ignore, none) ∧
    ∃ elapsed, l.Aside p [.asked call.id p.index attempt elapsed scripted] l'

variable {p : Place} (call : Call) {l : Ledger}

theorem enter_entering {start : Option Timestamp} (reads : p.layer.clock.peek l = .ok start)
    (mode : Mode) :
    ∃ l', p.enter mode call l = (.ok start, l') ∧ l.Aside p (p.entering call start).reverse l' := by
  rw [enter_of_reading reads]
  unfold entering Place.bind
  by_cases injected : p.layer.sink = .injected
  · simp only [injected, if_true, List.reverse_append, List.reverse_cons, List.reverse_nil,
      List.nil_append]
    refine ⟨_, rfl, ?_⟩
    have bound := Ledger.Aside.note (p := p) l (e := .bound call.id p.index call.request) rfl
      fun _ _ => rfl
    have read := bound.trans (.useClock p _ .read)
    exact read.trans (.note _ rfl fun _ _ => rfl)
  · simp only [injected, if_false, List.nil_append, List.reverse_cons, List.reverse_nil]
    refine ⟨_, rfl, ?_⟩
    exact (Ledger.Aside.useClock p l .read).trans (.note _ rfl fun _ _ => rfl)

theorem reportError_mentions (reply : Reply) :
    ∃ l', p.reportError call 0 reply l = ((), l') ∧ l.Aside p (p.mentions call reply) l' := by
  cases reply with
  | raised e => exact ⟨_, rfl, .note _ rfl fun _ _ => rfl⟩
  | response r => exact ⟨l, rfl, .refl p l⟩
  | nothing => exact ⟨l, rfl, .refl p l⟩

theorem decide_ignored {attempt : Attempt} {scripted : Bool}
    (ignores : p.Ignores call attempt scripted) (own : attempt.request = call.request) :
    ∃ elapsed l', p.decide call attempt l = (.ok (.ignore, none), l') ∧
      l.Aside p [.answered call.id p.index attempt .ignore,
        .asked call.id p.index attempt elapsed scripted] l' := by
  cases asked : p.ask call attempt l with
  | mk answer l₁ =>
  obtain ⟨rfl, elapsed, aside⟩ := (ignores l).at asked
  have decided : p.decide call attempt l = (.ok (.ignore, none),
      p.measured (·.countAttempt call.request.method .ignore)
        (l₁.note (.answered call.id p.index attempt .ignore))) := by
    unfold decide
    rw [bind_apply, asked]
    rfl
  have counted := Ledger.Aside.answered p call.id attempt .ignore l₁
  rw [own] at counted
  exact ⟨elapsed, _, decided, aside.trans counted⟩

theorem weigh_ignored {scripted : Bool} (unforced : p.layer.forced = none)
    (start : Option Timestamp) (reply : Reply)
    (ignores : p.Ignores call (reply.attempt start 0 call.request) scripted) :
    ∃ elapsed l', p.weigh call start 0 reply l =
        ((reply.attempt start 0 call.request, .ok (.ignore, none)), l') ∧
      l.Aside p ([.answered call.id p.index (reply.attempt start 0 call.request) .ignore,
        .asked call.id p.index (reply.attempt start 0 call.request) elapsed scripted] ++
          p.mentions call reply) l' := by
  obtain ⟨l₁, reported, mentions⟩ := p.reportError_mentions call (l := l) reply
  obtain ⟨attempted, same⟩ : (p.attemptOf call start 0 reply).Yields l₁ fun attempt l' =>
      attempt = reply.attempt start 0 call.request ∧ l' = l₁ := attemptOf_eq unforced start 0 reply
  obtain ⟨elapsed, l₂, decided, decides⟩ := decide_ignored call (l := l₁) ignores rfl
  refine ⟨elapsed, l₂, ?_, mentions.trans decides⟩
  unfold weigh
  rw [bind_apply, reported, bind_apply, attempted, same, bind_apply, decided]
  rfl

theorem follow_ignored {reply : Reply} (some : reply ≠ .nothing) (mode : Mode)
    (start : Option Timestamp) :
    p.follow mode call (reply.attempt start 0 call.request) (.ok (.ignore, none)) l =
      (.finished reply, l) := by
  cases reply with
  | raised e => rfl
  | response r => rfl
  | nothing => exact absurd rfl some

theorem conclude_handing {s : Setting} {scripted : Bool} {reply : Reply}
    (unforced : p.layer.forced = none) (some : reply ≠ .nothing)
    (out : reply.outOf s.mode.routine = reply) (start : Option Timestamp)
    (ignores : reply.isInterrupt = false →
      p.Ignores call (reply.attempt start 0 call.request) scripted) :
    ∃ elapsed l', p.conclude s call start 0 reply l = (.finished reply, l') ∧
      l.Aside p (p.handing call start elapsed scripted reply).reverse l' := by
  have received : l.Aside p [.received call.id p.index reply]
      (l.note (.received call.id p.index reply)) := .note l rfl fun _ _ => rfl
  cases interrupt : reply.isInterrupt with
  | true =>
    cases reply with
    | raised e =>
      refine ⟨none, _, conclude_interrupt s start 0 interrupt, ?_⟩
      have left := received.trans (.note _ (e := .left call.id p.index (.raised e)) rfl fun _ _ => rfl)
      simpa [handing, interrupt] using left
    | response r => cases interrupt
    | nothing => cases interrupt
  | false =>
    obtain ⟨elapsed, l₁, weighed, weighs⟩ :=
      weigh_ignored call (l := l.note (.received call.id p.index reply)) unforced start reply
        (ignores interrupt)
    refine ⟨elapsed, l₁.note (.left call.id p.index reply), ?_, ?_⟩
    · rw [conclude_apply _ _ _ interrupt]
      unfold Place.weighed
      rw [weighed, bind_apply, follow_ignored call some, finish_finished, out]
    · have left := (received.trans weighs).trans
        (.note l₁ (e := .left call.id p.index reply) rfl fun _ _ => rfl)
      have mentioned : (p.mentions call reply).reverse = p.mentions call reply := by
        cases reply <;> rfl
      simpa [handing, interrupt, mentioned] using left

end Place

/-- A send through a layer that lets pass what it is handed is the send below it. -/
theorem sendThrough_handing {p : Place} (unforced : p.layer.forced = none)
    (steady : p.layer.clock.IsSteady) (scripted : Bool) (s : Setting) (call : Call) (budget : Nat)
    (inner : List Place) (l : Ledger) :
    ∃ start l₁, l.Aside p (p.entering call start).reverse l₁ ∧
      ∀ sent l₂, sendThrough s call (budget + 1) inner l₁ = (sent, l₂) →
        (sent = none → sendThrough s call (budget + 1) (p :: inner) l = (none, l₂)) ∧
        ∀ reply, sent = some reply → reply ≠ .nothing →
          (reply.isInterrupt = false →
            p.Ignores call (reply.attempt start 0 call.request) scripted) →
          ∃ elapsed l₃, sendThrough s call (budget + 1) (p :: inner) l = (some reply, l₃) ∧
            l₂.Aside p (p.handing call start elapsed scripted reply).reverse l₃ := by
  obtain ⟨start, reads⟩ := steady (l.clocks p.layer.clock.key) l.now
  obtain ⟨l₁, entered, enters⟩ := p.enter_entering call reads s.mode
  refine ⟨start, l₁, enters, fun sent l₂ sends => ⟨fun none => ?_, fun reply some named ignores => ?_⟩⟩
  · subst none
    have handed : sendThrough s call (budget + 1) inner (p.announce call 0 l₁).2 = (none, l₂) := sends
    rw [sendThrough_cons entered, Place.rounds, bind_apply, bind_apply, handed]
    rfl
  · subst some
    have out : reply.outOf s.mode.routine = reply :=
      sendThrough_out s call (budget + 1) inner l₁ reply (congrArg Prod.fst sends)
    obtain ⟨elapsed, l₃, concluded, hands⟩ :=
      Place.conclude_handing call (l := l₂) unforced named out start ignores
    refine ⟨elapsed, l₃, ?_, hands⟩
    rw [sendThrough_cons entered]
    have handed : (do p.announce call 0; sendThrough s call (budget + 1) inner : Send) l₁ =
        (some reply, l₂) := sends
    rw [Place.rounds_of_finished handed (congrArg Prod.fst concluded) budget, concluded]

end HttpRetry
