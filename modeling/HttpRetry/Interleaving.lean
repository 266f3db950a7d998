import HttpRetry.Stack
/-!
Concurrent calls on one stack. In each round every unfinished call is resumed once, in order; a call may
be cancelled in a round instead.
-/
set_option autoImplicit false

namespace HttpRetry

inductive Stage where
  | waiting
  | running (s : Suspended)
  | ended (reply : Reply)

structure Task where
  call : Call
  /-- The round in which the call is cancelled, if it has not ended before. -/
  cancelAt : Option Nat
  stage : Stage

def Progress.stage : Progress → Stage
  | .suspended s => .running s
  | .finished reply => .ended reply

def cancellation : FailureSpec := .of .cancelled (some "cancelled")

namespace Task

def isEnded (t : Task) : Bool :=
  match t.stage with
  | .ended _ => true
  | _ => false

/-- Cancels a call: one that has not begun ends without having done anything. -/
def cancel (s : Setting) (t : Task) : Work Stage := do
  match t.stage with
  | .waiting => return .ended (.raised (← Work.fail t.call.id cancellation))
  | .running point =>
    let e ← Work.fail t.call.id cancellation
    return (← point.throw s t.call e).stage
  | .ended reply => return .ended reply

def advance (s : Setting) (places : List Place) (t : Task) : Work Stage := do
  match t.stage with
  | .waiting => return (← t.call.begin s places).stage
  | .running point => return (← point.resume s t.call).stage
  | .ended reply => return .ended reply

/-- Goes on, at most so often, while the call does not wait for anything. -/
def settle (s : Setting) (call : Call) : (fuel : Nat) → Stage → Work Stage
  | fuel + 1, .running point => do
    if point.pauses then return .running point
    else settle s call fuel (← point.resume s call).stage
  | _, stage => return stage

def move (s : Setting) (places : List Place) (round : Nat) (t : Task) : Work Stage :=
  if t.cancelAt = some round then t.cancel s else t.advance s places

def turn (s : Setting) (places : List Place) (fuel round : Nat) (t : Task) : Work Task := do
  return { t with stage := ← settle s t.call fuel (← t.move s places round) }

end Task

def turnAll (s : Setting) (places : List Place) (fuel round : Nat) : List Task → Work (List Task)
  | [] => return []
  | t :: rest => do
    let t ← t.turn s places fuel round
    return t :: (← turnAll s places fuel round rest)

def runRounds (s : Setting) (places : List Place) (fuel : Nat) : (rounds round : Nat) → List Task →
    Work (List Task)
  | 0, _, tasks => return tasks
  | rounds + 1, round, tasks => do
    if tasks.all Task.isEnded then return tasks
    else runRounds s places fuel rounds (round + 1) (← turnAll s places fuel round tasks)

def Stack.interleave (s : Stack) (tasks : List Task) : Work (List Task) :=
  runRounds s.setting s.places s.fuel (s.fuel + 1) 0 tasks

end HttpRetry
