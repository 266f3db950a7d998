import HttpRetry.Interleaving
import HttpRetry.Url
set_option autoImplicit false

namespace HttpRetry

structure Order where
  method : String
  url : String
  feed : Feed
  /-- In concurrent calls, the round in which to cancel. -/
  cancelAt : Option Nat := none

inductive Step where
  | request (order : Order) (read : Bool)
  | interleave (orders : List Order)
  | close
  | describe
  | properties

structure ResponseView where
  ref : ResponseRef
  built : Nat
  closed : Bool
  consumed : Bool

/-- A body that was read: its text if it is short, else its size in bytes, or what reading raised. -/
inductive BodyView where
  | text (s : String)
  | size (n : Nat)
  | failed (e : Failure)

inductive StepResult where
  | response (view : ResponseView) (body : Option BodyView)
  | raised (e : Failure)
  | results (results : List (Except Failure ResponseView))
  | done
  | description (text : String)
  | properties (layer : Layer) (inner : String)

structure StepReport where
  result : StepResult
  events : List Event
  ledger : Ledger

namespace Ledger

def view (l : Ledger) (r : ResponseRef) : ResponseView :=
  let response := l.response? r.id
  { ref := r
    built := (l.buildIndex? r.id).getD 0
    closed := (response.map (·.closed)).getD true
    consumed := (response.map (·.consumed)).getD true }

def bodyView (l : Ledger) (r : ResponseRef) : BodyView :=
  match l.response? r.id with
  | none => .text ""
  | some response =>
    if response.contentSize ≤ 64 then .text (String.ofList response.content)
    else .size response.contentSize

end Ledger

/-- A send that was not given enough budget has no reply; no stack that was built asks for more. -/
def Stack.reply (s : Stack) (call : Call) : Work Reply :=
  return (← s.send call).getD .nothing

namespace Session

def noReply : FailureSpec := .of .typeError (some "the transport returned nothing")

def outcomeOf (l : Ledger) (call : Nat) : Reply → Except Failure ResponseView
  | .response r => .ok (l.view r)
  | .raised e => .error e
  | .nothing => .error (noReply.failure (.fresh call 0))

def request (s : Stack) (call : Nat) (order : Order) (read : Bool) : Work StepResult := do
  match Request.make order.method order.url with
  | .error e => return .raised (← Work.fail call e.failure)
  | .ok request =>
    match ← s.reply ⟨call, request, order.feed⟩ with
    | .raised e => return .raised e
    | .nothing => return .raised (← Work.fail call noReply)
    | .response r =>
      let view := (← get).view r
      if read then
        match ← Work.read s.setting.mode call r.id with
        | .ok () => return .response view (some ((← get).bodyView r))
        | .error e => return .response view (some (.failed e))
      else return .response view none

def tasksOf : (call : Nat) → List Order → Except UrlError (List Task)
  | _, [] => return []
  | call, order :: rest => do
    let request ← Request.make order.method order.url
    return ⟨⟨call, request, order.feed⟩, order.cancelAt, .waiting⟩ :: (← tasksOf (call + 1) rest)

/-- Runs requests side by side. All of them are made before any is sent. -/
def interleave (s : Stack) (call : Nat) (orders : List Order) : Work StepResult := do
  match tasksOf call orders with
  | .error e => return .raised (← Work.fail call e.failure)
  | .ok tasks =>
    let tasks ← s.interleave tasks
    let l ← get
    return .results (tasks.map fun task =>
      match task.stage with
      | .ended reply => outcomeOf l task.call.id reply
      | _ => outcomeOf l task.call.id .nothing)

def close (s : Stack) (call : Nat) : Work StepResult := do
  match ← s.close call with
  | .ok () => return .done
  | .error e => return .raised e

def properties (s : Stack) : StepResult :=
  match s.layers with
  | layer :: _ => .properties layer s.wrappedName
  | [] => .done

def step (s : Stack) (call : Nat) : Step → Work StepResult
  | .request order read => request s call order read
  | .interleave orders => interleave s call orders
  | .close => close s call
  | .describe => return .description s.describe
  | .properties => return properties s

def callsOf : Step → Nat
  | .interleave orders => orders.length
  | _ => 1

def run (s : Stack) : (call : Nat) → Ledger → List Step → List StepReport
  | _, _, [] => []
  | call, l, st :: rest =>
    let (result, l') := step s call st l
    ⟨result, l'.eventsSince l, l'⟩ :: run s (call + callsOf st) l' rest

end Session

end HttpRetry
