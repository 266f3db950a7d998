import HttpRetry.Metrics
import HttpRetry.Notice
import HttpRetry.Response
/-!
What the calls on one stack of layers share: the responses built so far, the causes given to failures,
the time passed, the counters, and the journal of all that happened.
-/
set_option autoImplicit false

namespace HttpRetry

inductive Event where
  /-- A layer took up a call at the time it read from its clock. -/
  | entered (call layer : Nat) (start : Option Timestamp)
  /-- A layer's clock failed, so that it did not take up a call. -/
  | refused (call layer : Nat)
  /-- A layer bound its injected logger to the request. -/
  | bound (call layer : Nat) (request : Request)
  /-- The innermost transport was asked. -/
  | sent (call : Nat) (request : Request)
  /-- A layer was handed what its send came to. -/
  | received (call layer : Nat) (reply : Reply)
  /-- A retryer was asked; `elapsed` is the time since the attempt's start in microseconds, as far as
  the retryer looked at the clock. -/
  | asked (call layer : Nat) (attempt : Attempt) (elapsed : Option Int) (scripted : Bool)
  | answered (call layer : Nat) (attempt : Attempt) (decision : Decision)
  /-- A layer began to release a response. -/
  | releasing (call layer : Nat) (response : ResponseId)
  | delaying (call layer : Nat) (attempt : Attempt)
  /-- A delayer came back; the readings of the timer before and after. -/
  | delayed (call layer : Nat) (attempt : Attempt) (began ended : Rat)
  /-- A layer was done with a call and handed this on. -/
  | left (call layer : Nat) (reply : Reply)
  | streamClosed (call : Nat) (response : ResponseId) (reads bytes : Nat)
  | transportClosed (call : Nat)
  | logged (call layer : Nat) (entry : LogEntry)

def Event.call : Event → Nat
  | .entered call .. | .refused call _ | .bound call .. | .sent call _ | .received call .. | .asked call ..
  | .answered call .. | .releasing call .. | .delaying call .. | .delayed call .. | .left call ..
  | .streamClosed call .. | .transportClosed call | .logged call .. => call

/-- How far a call has come in using up what it was given. -/
structure CallState where
  sends : Nat := 0
  built : Nat := 0
  failures : Nat := 0
  deriving DecidableEq, Repr, Inhabited

structure ClockUse where
  readings : Nat := 0
  failures : Nat := 0
  deriving DecidableEq, Repr, Inhabited

namespace ClockUse

def read (u : ClockUse) : ClockUse := { u with readings := u.readings + 1 }

def failed (u : ClockUse) : ClockUse := { u with failures := u.failures + 1 }

end ClockUse

structure Ledger where
  /-- In the order in which they were built. -/
  responses : List (ResponseId × Response) := []
  /-- The latest first. -/
  causes : List (FailureId × Failure) := []
  now : Rat := 0
  /-- By the keys of the clocks. -/
  clocks : Nat → ClockUse := fun _ => {}
  /-- How often the retryer, unless it is a default one, and the delayer of each layer were asked. -/
  asks : Nat → Nat := fun _ => 0
  delays : Nat → Nat := fun _ => 0
  calls : Nat → CallState := fun _ => {}
  metrics : Metrics := {}
  /-- The latest first. -/
  journal : List Event := []

instance : Inhabited Ledger := ⟨{}⟩

def updateAt {α : Type} (f : Nat → α) (i : Nat) (g : α → α) : Nat → α :=
  fun j => if j = i then g (f j) else f j

@[simp] theorem updateAt_self {α : Type} (f : Nat → α) (i : Nat) (g : α → α) :
    updateAt f i g i = g (f i) := by simp [updateAt]

theorem updateAt_of_ne {α : Type} {f : Nat → α} {i j : Nat} {g : α → α} (h : j ≠ i) :
    updateAt f i g j = f j := by simp [updateAt, h]

theorem updateAt_keeps {α β : Type} (field : α → β) {g : α → α} (same : ∀ a, field (g a) = field a)
    (f : Nat → α) (i j : Nat) : field (updateAt f i g j) = field (f j) := by
  unfold updateAt
  split
  · exact same _
  · rfl

abbrev Work := StateM Ledger

namespace Ledger

def trace (l : Ledger) : List Event := l.journal.reverse

def note (l : Ledger) (e : Event) : Ledger := { l with journal := e :: l.journal }

def eventsSince (l earlier : Ledger) : List Event :=
  (l.journal.take (l.journal.length - earlier.journal.length)).reverse

@[simp] theorem trace_note (l : Ledger) (e : Event) : (l.note e).trace = l.trace ++ [e] := by
  simp [trace, note]

def response? (l : Ledger) (id : ResponseId) : Option Response := List.lookup id l.responses

def adjust (id : ResponseId) (f : Response → Response) :
    List (ResponseId × Response) → List (ResponseId × Response)
  | [] => []
  | (i, r) :: rest => if i = id then (i, f r) :: rest else (i, r) :: adjust id f rest

def adjustResponse (l : Ledger) (id : ResponseId) (f : Response → Response) : Ledger :=
  { l with responses := adjust id f l.responses }

theorem lookup_adjust_self (id : ResponseId) (f : Response → Response)
    (responses : List (ResponseId × Response)) :
    List.lookup id (adjust id f responses) = (List.lookup id responses).map f := by
  induction responses with
  | nil => rfl
  | cons entry rest ih =>
    obtain ⟨i, r⟩ := entry
    by_cases h : i = id
    · subst h
      simp [adjust]
    · have h' : (id == i) = false := by simpa using Ne.symm h
      simp [adjust, h, List.lookup_cons, h', ih]

theorem lookup_adjust_of_ne {id other : ResponseId} (h : other ≠ id)
    (f : Response → Response) (responses : List (ResponseId × Response)) :
    List.lookup other (adjust id f responses) = List.lookup other responses := by
  induction responses with
  | nil => rfl
  | cons entry rest ih =>
    obtain ⟨i, r⟩ := entry
    by_cases hi : i = id
    · subst hi
      have h' : (other == i) = false := by simpa using h
      simp [adjust, List.lookup_cons, h']
    · simp [adjust, hi, List.lookup_cons, ih]

@[simp] theorem response?_adjustResponse_self (l : Ledger) (id : ResponseId)
    (f : Response → Response) :
    (l.adjustResponse id f).response? id = (l.response? id).map f :=
  lookup_adjust_self id f l.responses

theorem response?_adjustResponse_of_ne (l : Ledger) {id other : ResponseId} (h : other ≠ id)
    (f : Response → Response) :
    (l.adjustResponse id f).response? other = l.response? other :=
  lookup_adjust_of_ne h f l.responses

def adjustCall (l : Ledger) (call : Nat) (f : CallState → CallState) : Ledger :=
  { l with calls := updateAt l.calls call f }

def build (l : Ledger) (call : Nat) (r : Response) : Ledger :=
  { l with
    responses := l.responses ++ [(⟨call, (l.calls call).built⟩, r)]
    calls := updateAt l.calls call fun c => { c with built := c.built + 1 } }

def adjustClock (l : Ledger) (key : Nat) (f : ClockUse → ClockUse) : Ledger :=
  { l with clocks := updateAt l.clocks key f }

def cause? (l : Ledger) (id : FailureId) : Option Failure := List.lookup id l.causes

/-- The cause that a failure is shown with. -/
def causeOf (l : Ledger) : Failure → Option Failure
  | .turned _ _ original => some original
  | e => l.cause? e.id

def buildIndex? (l : Ledger) (id : ResponseId) : Option Nat :=
  l.responses.findIdx? (·.1 = id)

end Ledger

namespace Work

def note (e : Event) : Work Unit := modify (·.note e)

def log (call layer : Nat) (entry : LogEntry) : Work Unit := note (.logged call layer entry)

def advance (seconds : Rat) : Work Unit := modify fun l => { l with now := l.now + seconds }

/-- A failure made on the spot by a call, unless the specification names a shared one. -/
def fail (call : Nat) (spec : FailureSpec) : Work Failure :=
  modifyGet fun l =>
    (spec.failure (.fresh call (l.calls call).failures),
      l.adjustCall call fun c => { c with failures := c.failures + 1 })

def freshFailure (call : Nat) : Work FailureId :=
  modifyGet fun l =>
    (.fresh call (l.calls call).failures,
      l.adjustCall call fun c => { c with failures := c.failures + 1 })

def setCause (id : FailureId) (cause : Failure) : Work Unit :=
  modify fun l => { l with causes := (id, cause) :: l.causes }

def adjustResponse (id : ResponseId) (f : Response → Response) : Work Unit :=
  modify (·.adjustResponse id f)

end Work

end HttpRetry
