import HttpRetry.Reading
/-!
One round of a layer's loop: what a send came to is turned into an attempt, the retryer is asked, and the
response is handed on or released.
-/
set_option autoImplicit false

namespace HttpRetry

namespace Place

def report (p : Place) (call : Call) (n : Notice) : Work Unit :=
  if n.isBound then Work.log call.id p.index ⟨p.layer.sink, some call.request, n⟩
  else Work.log call.id p.index ⟨.standard, none, n⟩

/-- Counts are kept only where the layer's settings ask for them. -/
def measured (p : Place) (f : Metrics → Metrics) (l : Ledger) : Ledger :=
  if p.layer.settings.measures then { l with metrics := f l.metrics } else l

def measure (p : Place) (f : Metrics → Metrics) : Work Unit := modify (p.measured f)

def bind (p : Place) (call : Call) : Work Unit := do
  if p.layer.sink = .injected then Work.note (.bound call.id p.index call.request)

def leave (p : Place) (call : Call) (reply : Reply) : Work Unit :=
  Work.note (.left call.id p.index reply)

def leaveWith (p : Place) (mode : Mode) (call : Call) (spec : FailureSpec) : Work Failure := do
  let e := (← Work.fail call.id spec).outOf mode.routine
  p.leave call (.raised e)
  return e

def useClock (p : Place) (f : ClockUse → ClockUse) : Work Unit :=
  modify (·.adjustClock p.layer.clock.key f)

def refuse (p : Place) (mode : Mode) (call : Call) (spec : FailureSpec) : Work Failure := do
  p.useClock .failed
  Work.note (.refused call.id p.index)
  p.leaveWith mode call spec

def enter (p : Place) (mode : Mode) (call : Call) :
    Work (Except Failure (Option Timestamp)) := do
  p.bind call
  match p.layer.clock.peek (← get) with
  | .error spec => return .error (← p.refuse mode call spec)
  | .ok start =>
    p.useClock .read
    Work.note (.entered call.id p.index start)
    return .ok start

/-- The error of an attempt: the one that its send raised, or the forced one, which joins a response. -/
def errorOf (p : Place) (call : Call) : Reply → Work (Option Failure)
  | .raised e => return some e
  | .nothing => return none
  | .response _ =>
    match p.layer.forced with
    | some spec => some <$> Work.fail call.id spec
    | none => return none

def attemptOf (p : Place) (call : Call) (start : Option Timestamp) (made : Nat) (reply : Reply) :
    Work Attempt := do
  return ⟨start, made + 1, ← p.errorOf call reply, call.request, reply.response?, by omega⟩

def take (call : Call) (attempt : Attempt) :
    Answer → Work (Except Failure (Decision × Option Failure))
  | .decided decision .nothing => return .ok (decision, none)
  | .decided decision .own => return .ok (decision, attempt.error)
  | .decided decision (.given spec) => return .ok (decision, some (← Work.fail call.id spec))
  | .raises spec => return .error (← Work.fail call.id spec)
  | .foreign shown => return .error (← Work.fail call.id
      (.of .typeError (some ("Retryer returned " ++ shown ++ ", expected a Decision"))))

def elapsed? (now start : Option Timestamp) : Option Int := do (← now).since? (← start)

def consult (p : Place) (call : Call) (attempt : Attempt) (elapsed : Option Int)
    (answers : Nat → Answer) : Work (Except Failure (Decision × Option Failure)) := do
  let asked := (← get).asks p.index
  Work.note (.asked call.id p.index attempt elapsed true)
  modify fun l => { l with asks := updateAt l.asks p.index (· + 1) }
  take call attempt (answers asked)

/-- Asks the retryer. Looking at the clock is no reading of it. -/
def ask (p : Place) (call : Call) (attempt : Attempt) :
    Work (Except Failure (Decision × Option Failure)) := do
  match p.layer.retryer with
  | .standard policy =>
    Work.note (.asked call.id p.index attempt none false)
    match policy.decide attempt with
    | .abort =>
      report p call (.outOfAttempts attempt.count policy.shownCap attempt.status?)
      return .ok (.abort, some (.exhausted (← Work.freshFailure call.id) attempt))
    | decision => return .ok (decision, none)
  | .scripted answers => p.consult call attempt none answers
  | .timed answers =>
    match p.layer.clock.peek (← get) with
    | .error spec => return .error (← Work.fail call.id spec)
    | .ok now => p.consult call attempt (elapsed? now attempt.start) answers

def mention (p : Place) (call : Call) (attempt : Attempt) (decision : Decision) :
    Option Failure → Work Unit
  | some e => report p call (.retryerError attempt.count decision e)
  | none => return ()

def decide (p : Place) (call : Call) (attempt : Attempt) :
    Work (Except Failure (Decision × Option Failure)) := do
  match ← ask p call attempt with
  | .error e => return .error e
  | .ok (decision, error) =>
    mention p call attempt decision error
    Work.note (.answered call.id p.index attempt decision)
    measure p (·.countAttempt call.request.method decision)
    return .ok (decision, error)

def drain (p : Place) (mode : Mode) (call : Call) (r : ResponseRef) :
    Work (Except Failure Unit) := do
  match (← get).response? r.id with
  | none => return .ok ()
  | some response =>
    if response.consumed || response.closed then return .ok ()
    else Work.iterate mode call.id (some p.layer.drainLimit) p.layer.limitFailure? r.id

/-- Drains a response and closes it; a failure to close replaces a failure to read. -/
def discard (p : Place) (mode : Mode) (call : Call) (r : ResponseRef) :
    Work (Except Failure Unit) := do
  let drained ← drain p mode call r
  match ← Work.close mode call.id r.id with
  | .error e => return .error e
  | .ok () => return drained

def tolerate (p : Place) (call : Call) (attempt : Attempt) :
    Except Failure Unit → Work (Except Failure Unit)
  | .ok () => return .ok ()
  | .error e => do
    if e.isSwallowed then
      report p call (.drainError attempt.count e)
      measure p Metrics.countDrainError
      return .ok ()
    else return .error e

def release (p : Place) (mode : Mode) (call : Call) (attempt : Attempt) :
    Work (Except Failure Unit) := do
  match attempt.response with
  | none => return .ok ()
  | some r =>
    Work.note (.releasing call.id p.index r.id)
    tolerate p call attempt (← discard p mode call r)

def settle (call : Call) (attempt : Attempt) : Work Reply := do
  match attempt.error, attempt.response with
  | some e, _ => return .raised e
  | none, some r => return .response r
  | none, none => return .raised (← Work.fail call.id (.of .typeError
      (some "Wrapped transport returned neither a response nor an error")))

def abortError (call : Call) (attempt : Attempt) : Option Failure → Work Failure
  | some e => return e
  | none => return .aborted (← Work.freshFailure call.id) attempt

/-- Makes the attempt's error the cause of another one that is raised in its place. -/
def chain (attempt : Attempt) (error : Failure) : Work Unit :=
  match attempt.error with
  | some cause => if cause.is error then return () else Work.setCause error.id cause
  | none => return ()

def abort (p : Place) (call : Call) (attempt : Attempt) (error : Option Failure) :
    Work Failure := do
  let error ← abortError call attempt error
  report p call (.aborting attempt.count error)
  chain attempt error
  return error

end Place

inductive Verdict where
  | finished (reply : Reply)
  | again (attempt : Attempt)

/-- Whether an attempt is handed on with its response as it is. -/
def Attempt.passes (attempt : Attempt) : Except Failure (Decision × Option Failure) → Bool
  | .ok (.ignore, _) => attempt.error.isNone
  | _ => false

def Place.resolve (p : Place) (call : Call) (attempt : Attempt) :
    Except Failure (Decision × Option Failure) → Work Verdict
  | .error e => return .finished (.raised e)
  | .ok (.ignore, _) => return .finished (← settle call attempt)
  | .ok (.abort, error) => return .finished (.raised (← p.abort call attempt error))
  | .ok (.retry, _) => return .again attempt

/-- Follows the retryer's answer. The failure of a release takes the place of all that would come. -/
def Place.follow (p : Place) (mode : Mode) (call : Call) (attempt : Attempt)
    (answer : Except Failure (Decision × Option Failure)) : Work Verdict := do
  if attempt.passes answer then p.resolve call attempt answer
  else
    match ← p.release mode call attempt with
    | .error e => return .finished (.raised e)
    | .ok () => p.resolve call attempt answer

def Place.reportError (p : Place) (call : Call) (made : Nat) : Reply → Work Unit
  | .raised e => p.report call (.requestError (made + 1) e)
  | _ => return ()

def Reply.isInterrupt : Reply → Bool
  | .raised e => e.isInterrupt
  | _ => false

@[simp] theorem Reply.isInterrupt_outOf (routine : Routine) (reply : Reply) :
    (reply.outOf routine).isInterrupt = reply.isInterrupt := by
  cases reply <;> simp [outOf, isInterrupt]

def Place.weigh (p : Place) (call : Call) (start : Option Timestamp) (made : Nat)
    (reply : Reply) : Work (Attempt × Except Failure (Decision × Option Failure)) := do
  p.reportError call made reply
  let attempt ← p.attemptOf call start made reply
  return (attempt, ← p.decide call attempt)

/-- Interrupts pass through; everything else becomes an attempt for the retryer to judge. -/
def Place.judge (p : Place) (s : Setting) (call : Call) (start : Option Timestamp) (made : Nat)
    (reply : Reply) : Work Verdict := do
  if reply.isInterrupt then return .finished reply
  else
    let (attempt, answer) ← p.weigh call start made reply
    p.follow s.mode call attempt answer

def Place.finish (p : Place) (mode : Mode) (call : Call) : Verdict → Work Verdict
  | .finished reply => do
    let reply := reply.outOf mode.routine
    p.leave call reply
    return .finished reply
  | .again attempt => return .again attempt

def Place.conclude (p : Place) (s : Setting) (call : Call) (start : Option Timestamp) (made : Nat)
    (reply : Reply) : Work Verdict := do
  Work.note (.received call.id p.index reply)
  p.finish s.mode call (← p.judge s call start made reply)

def Place.delayWork (p : Place) (mode : Mode) (delay : Delayer) (call : Call) (attempt : Attempt) :
    Work (Except Failure Unit) := do
  Work.note (.delaying call.id p.index attempt)
  let wait := delay ((← get).delays p.index)
  modify fun l => { l with delays := updateAt l.delays p.index (· + 1) }
  Work.advance wait.seconds
  match wait.failure with
  | some spec => return .error (← p.leaveWith mode call spec)
  | none => return .ok ()

def Place.delayDone (p : Place) (timer : Timer) (call : Call) (attempt : Attempt) (began : Rat) :
    Work Unit := do
  let ended := (← get).now
  Work.note (.delayed call.id p.index attempt began ended)
  p.measure (·.observeDelay (timer.between began ended))

end HttpRetry
