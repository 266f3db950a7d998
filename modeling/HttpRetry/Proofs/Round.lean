import HttpRetry.Proofs.Yields
import HttpRetry.Blocking
import HttpRetry.Suspended
set_option autoImplicit false

namespace HttpRetry

open Work

/-- How reading and closing a response make up the result of discarding it: the failure to close
hides that to read. -/
def discarded (drained closed : Except Failure Unit) : Except Failure Unit :=
  match closed with
  | .error e => .error e
  | .ok () => drained

theorem discarded_eq_error {drained closed : Except Failure Unit} {e : Failure} :
    discarded drained closed = .error e ↔
      closed = .error e ∨ drained = .error e ∧ closed = .ok () := by
  cases closed with
  | error e' => simp [discarded]
  | ok u => simp [discarded]

/-- What is left of a failure to discard a response. -/
def tolerated : Except Failure Unit → Except Failure Unit
  | .ok () => .ok ()
  | .error e => if e.isSwallowed then .ok () else .error e

theorem tolerated_eq_error {result : Except Failure Unit} {e : Failure}
    (kept : e.isSwallowed = false) : tolerated result = .error e ↔ result = .error e := by
  cases result with
  | ok u => simp [tolerated]
  | error e' =>
    by_cases hs : e'.isSwallowed = true
    · have ne : e' ≠ e := by
        rintro rfl
        rw [hs] at kept
        cases kept
      simp [tolerated, hs, ne]
    · simp [tolerated, hs]

def Clock.IsSteady (clock : Clock) : Prop := ∀ use now, ∃ t, clock.dial use now = .ok t

namespace Place

variable {p : Place} {call : Call} {mode : Mode} {l : Ledger}

theorem discard_apply (r : ResponseRef) :
    p.discard mode call r l =
      (discarded (p.drain mode call r l).1 (close mode call.id r.id (p.drain mode call r l).2).1,
        (close mode call.id r.id (p.drain mode call r l).2).2) := by
  unfold discard
  rw [bind_apply, bind_apply]
  cases (close mode call.id r.id (p.drain mode call r l).2).1 with
  | error e => rfl
  | ok u => rfl

theorem tolerate_fst (attempt : Attempt) (result : Except Failure Unit) :
    (p.tolerate call attempt result l).1 = tolerated result := by
  cases result with
  | ok u => rfl
  | error e =>
    simp only [tolerate, tolerated]
    by_cases hs : e.isSwallowed = true
    · rw [if_pos hs, if_pos hs]
      rfl
    · rw [if_neg hs, if_neg hs]
      rfl

theorem tolerate_snd {attempt : Attempt} {e : Failure} (kept : e.isSwallowed = false) :
    (p.tolerate call attempt (.error e) l).2 = l := by
  simp only [tolerate, kept]
  rfl

theorem tolerate_swallowed (attempt : Attempt) {e : Failure} (swallowed : e.isSwallowed = true) :
    p.tolerate call attempt (.error e) l = (.ok (), p.measured Metrics.countDrainError
      (l.note (.logged call.id p.index
        ⟨p.layer.sink, some call.request, .drainError attempt.count e⟩))) := by
  simp only [tolerate, swallowed, if_true]
  rfl

theorem release_of_some {attempt : Attempt} {r : ResponseRef} (hr : attempt.response = some r) :
    p.release mode call attempt l =
      p.tolerate call attempt (p.discard mode call r (l.note (.releasing call.id p.index r.id))).1
        (p.discard mode call r (l.note (.releasing call.id p.index r.id))).2 := by
  unfold release
  rw [hr]
  rfl

/-- Following the answer to an attempt that does not pass begins with the release. -/
theorem follow_of_rejected {attempt : Attempt} {answer : Except Failure (Decision × Option Failure)}
    (rejected : attempt.passes answer = false) :
    p.follow mode call attempt answer l =
      match (p.release mode call attempt l).1 with
      | .error e => (.finished (.raised e), (p.release mode call attempt l).2)
      | .ok () => p.resolve call attempt answer (p.release mode call attempt l).2 := by
  unfold follow
  rw [rejected]
  simp only [Bool.false_eq_true, if_false]
  rw [bind_apply]
  cases (p.release mode call attempt l).1 with
  | error e => rfl
  | ok u => rfl

theorem follow_of_passes {attempt : Attempt} {answer : Except Failure (Decision × Option Failure)}
    (passes : attempt.passes answer = true) :
    p.follow mode call attempt answer = p.resolve call attempt answer := by
  unfold follow
  rw [passes]
  rfl

theorem peek_bind (clock : Clock) : clock.peek (p.bind call l).2 = clock.peek l := by
  unfold bind
  split
  · rfl
  · rfl

theorem enter_of_reading {start : Option Timestamp} (reading : p.layer.clock.peek l = .ok start) :
    p.enter mode call l = (.ok start, ((p.bind call l).2.adjustClock p.layer.clock.key .read).note
      (.entered call.id p.index start)) := by
  unfold enter
  rw [bind_apply, get_apply, peek_bind, reading]
  rfl

theorem enter_of_failing {spec : FailureSpec} (failing : p.layer.clock.peek l = .error spec) :
    p.enter mode call l =
      (.error (p.refuse mode call spec (p.bind call l).2).1,
        (p.refuse mode call spec (p.bind call l).2).2) := by
  unfold enter
  rw [bind_apply, get_apply, peek_bind, failing]
  rfl

def weighed (p : Place) (call : Call) (start : Option Timestamp) (made : Nat)
    (reply : Reply) (l : Ledger) :
    (Attempt × Except Failure (Decision × Option Failure)) × Ledger :=
  p.weigh call start made reply (l.note (.received call.id p.index reply))

/-- A round over a reply other than an interrupt is the retryer's answer and what follows it. -/
theorem conclude_apply (s : Setting) (start : Option Timestamp) (made : Nat) {reply : Reply}
    (h : reply.isInterrupt = false) :
    p.conclude s call start made reply l =
      (p.follow s.mode call (p.weighed call start made reply l).1.1
        (p.weighed call start made reply l).1.2 >>= p.finish s.mode call)
        (p.weighed call start made reply l).2 := by
  unfold conclude judge
  rw [h]
  rfl

theorem yields_conclude {s : Setting} {start : Option Timestamp} {made : Nat} {reply : Reply}
    (h : reply.isInterrupt = false)
    {P : Attempt × Except Failure (Decision × Option Failure) → Ledger → Prop}
    {Q : Verdict → Ledger → Prop}
    (weighs : (p.weigh call start made reply).Yields
      (l.note (.received call.id p.index reply)) P)
    (follows : ∀ attempt answer l', P (attempt, answer) l' →
      (p.follow s.mode call attempt answer >>= p.finish s.mode call).Yields l' Q) :
    (p.conclude s call start made reply).Yields l Q := by
  unfold Yields
  rw [conclude_apply s start made h]
  exact follows _ _ _ weighs

/-- A layer that is handed an interrupt hands it on and does nothing else. -/
theorem conclude_interrupt (s : Setting) (start : Option Timestamp) (made : Nat) {e : Failure}
    (interrupt : e.isInterrupt = true) :
    p.conclude s call start made (.raised e) l =
      (.finished (.raised e), (l.note (.received call.id p.index (.raised e))).note
        (.left call.id p.index (.raised e))) := by
  have judged : p.judge s call start made (.raised e) = pure (.finished (.raised e)) := by
    unfold judge
    simp [Reply.isInterrupt, interrupt]
  unfold conclude
  rw [judged]
  show (Verdict.finished ((Reply.raised e).outOf s.mode.routine), _) = _
  rw [Reply.outOf, Failure.outOf_of_isInterrupt _ interrupt]

theorem finish_finished (reply : Reply) :
    p.finish mode call (.finished reply) l =
      (.finished (reply.outOf mode.routine), l.note (.left call.id p.index
        (reply.outOf mode.routine))) := rfl

theorem rounds_of_finished {s : Setting} {start : Option Timestamp} {next : Send} {made : Nat}
    {reply reply' : Reply} {l₀ : Ledger}
    (handed : (do p.announce call made; next : Send) l₀ = (some reply, l))
    (finished : (p.conclude s call start made reply l).1 = .finished reply') (budget : Nat) :
    p.rounds s call start next (budget + 1) made l₀ =
      (some reply', (p.conclude s call start made reply l).2) := by
  unfold rounds
  have handed' : next (p.announce call made l₀).2 = (some reply, l) := handed
  rw [bind_apply, bind_apply, handed']
  show (p.conclude s call start made reply >>= _) l = _
  rw [bind_apply, finished]
  rfl

end Place

namespace Suspended

variable {call : Call} {s : Setting} {l : Ledger} {f : Frame} {reply : Reply}

theorem deliver_of_finished {reply' : Reply}
    (finished : (f.place.conclude s call f.start f.made reply l).1 =
      .finished reply') (outer : List Frame) (inner : List Place) :
    deliver s call (f :: outer) inner reply l =
      deliver s call outer (f.place :: inner) reply'
        (f.place.conclude s call f.start f.made reply l).2 := by
  rw [deliver, bind_apply, finished]

def wait (call : Call) (f : Frame) (outer : List Frame) (inner : List Place) (attempt : Attempt) :
    Work Progress :=
  match f.place.layer.delay with
  | none => return .suspended (.ready f outer inner)
  | some delay => do
    f.place.report call (.delaying attempt.count)
    return .suspended (.beforeDelay delay attempt (← get).now f outer inner)

theorem deliver_of_again {attempt : Attempt} {l' : Ledger}
    (again : f.place.conclude s call f.start f.made reply l =
      (.again attempt, l'))
    (outer : List Frame) (inner : List Place) :
    deliver s call (f :: outer) inner reply l =
      wait call f outer inner attempt l' := by
  rw [deliver, bind_apply, again]
  rfl

end Suspended

end HttpRetry
