import HttpRetry.Round
/-!
Sending step by step. A stopped call is the stack of the layers it has entered, together with the point
where it stands: before the innermost transport sends, before or after a delayer's work, or between two
rounds of a layer, where it does not wait for anything. Going on runs to the next such point or to the
end of the call.
-/
set_option autoImplicit false

namespace HttpRetry

structure Frame where
  place : Place
  start : Option Timestamp
  made : Nat

/-- Frames begin with the innermost layer entered; `inner` are the layers below it. -/
inductive Suspended where
  | sending (frames : List Frame)
  | beforeDelay (delay : Delayer) (attempt : Attempt) (began : Rat) (waiting : Frame)
      (outer : List Frame) (inner : List Place)
  | afterDelay (attempt : Attempt) (began : Rat) (waiting : Frame) (outer : List Frame)
      (inner : List Place)
  | ready (next : Frame) (outer : List Frame) (inner : List Place)

inductive Progress where
  | suspended (s : Suspended)
  | finished (reply : Reply)

namespace Suspended

/-- Whether others may go on while the call stands there. -/
def pauses : Suspended → Bool
  | .ready .. => false
  | _ => true

def deliver (s : Setting) (call : Call) : List Frame → List Place → Reply → Work Progress
  | [], _, reply => return .finished reply
  | f :: outer, inner, reply => do
    match ← f.place.conclude s call f.start f.made reply with
    | .finished reply => deliver s call outer (f.place :: inner) reply
    | .again attempt =>
      match f.place.layer.delay with
      | none => return .suspended (.ready f outer inner)
      | some delay =>
        f.place.report call (.delaying attempt.count)
        return .suspended (.beforeDelay delay attempt (← get).now f outer inner)

def descend (s : Setting) (call : Call) : List Frame → List Place → Work Progress
  | frames, [] => return .suspended (.sending frames)
  | frames, p :: inner => do
    match ← p.enter s.mode call with
    | .error e => deliver s call frames (p :: inner) (.raised e)
    | .ok start => descend s call (⟨p, start, 0⟩ :: frames) inner

def nextRound (s : Setting) (call : Call) (f : Frame) (outer : List Frame) (inner : List Place) :
    Work Progress := do
  f.place.report call (.retrying (f.made + 2))
  descend s call ({ f with made := f.made + 1 } :: outer) inner

def resume (s : Setting) (call : Call) : Suspended → Work Progress
  | .sending frames => do
    deliver s call frames [] (← call.transmit s.mode)
  | .beforeDelay delay attempt began f outer inner => do
    match ← f.place.delayWork s.mode delay call attempt with
    | .error e => deliver s call outer (f.place :: inner) (.raised e)
    | .ok () => return .suspended (.afterDelay attempt began f outer inner)
  | .afterDelay attempt began f outer inner => do
    f.place.delayDone s.timer call attempt began
    nextRound s call f outer inner
  | .ready f outer inner => nextRound s call f outer inner

/-- The failure is raised where the call stands, within the innermost routine that it has begun. -/
def throw (s : Setting) (call : Call) (e : Failure) : Suspended → Work Progress
  | .sending frames => deliver s call frames [] (.raised (e.outOf s.mode.routine))
  | .beforeDelay _ _ _ f outer inner | .afterDelay _ _ f outer inner | .ready f outer inner => do
    let e := e.outOf s.mode.routine
    f.place.leave call (.raised e)
    deliver s call outer (f.place :: inner) (.raised e)

def drive (s : Setting) (call : Call) : (fuel : Nat) → Progress → Send
  | _, .finished reply => return some reply
  | 0, .suspended _ => return none
  | fuel + 1, .suspended point => do
    drive s call fuel (← point.resume s call)

end Suspended

def Call.begin (s : Setting) (call : Call) (places : List Place) : Work Progress :=
  Suspended.descend s call [] places

def sendStepwise (s : Setting) (call : Call) (fuel : Nat) (places : List Place) : Send := do
  Suspended.drive s call fuel (← call.begin s places)

end HttpRetry
