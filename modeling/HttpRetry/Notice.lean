import HttpRetry.Attempt
import HttpRetry.Decision
import HttpRetry.Json.Display
set_option autoImplicit false

namespace HttpRetry

inductive Level where
  | debug
  | info
  | warning
  | error
  | critical
  deriving DecidableEq, Repr, Inhabited

def Level.name : Level → String
  | .debug => "debug"
  | .info => "info"
  | .warning => "warning"
  | .error => "error"
  | .critical => "critical"

inductive Notice where
  | retrying (count : Nat)
  | requestError (count : Nat) (error : Failure)
  | retryerError (count : Nat) (decision : Decision) (error : Failure)
  | drainError (count : Nat) (error : Failure)
  | aborting (count : Nat) (error : Failure)
  | delaying (count : Nat)
  /-- The default retryer's own report that it gives up. -/
  | outOfAttempts (count : Nat) (cap : Json) (status : Option Int)
  /-- A client was made around a stack. -/
  | created (suspending : Bool) (stack : String) (timeout : Json)

namespace Notice

def level : Notice → Level
  | .retrying _ | .delaying _ | .outOfAttempts .. | .created .. => .debug
  | .requestError .. | .retryerError .. => .info
  | .drainError .. | .aborting .. => .error

def event : Notice → String
  | .retrying _ => "Retrying request"
  | .requestError .. => "Request error"
  | .retryerError .. => "Retryer error"
  | .drainError .. => "Error draining response body"
  | .aborting .. => "Aborting request"
  | .delaying _ => "Delaying before retry"
  | .outOfAttempts .. => "Default retryer out of attempts"
  | .created suspending .. =>
    if suspending then "Created async retrying client" else "Created retrying client"

def errorFields (error : Failure) : Members :=
  [("error_type", .str error.typeName), ("error", .str error.text)]

def fields : Notice → Members
  | .retrying count | .delaying count => [("attempt", .int count)]
  | .requestError count error | .drainError count error | .aborting count error =>
    ("attempt", .int count) :: errorFields error
  | .retryerError count decision error =>
    ("attempt", .int count) :: ("decision", .str decision.value) :: errorFields error
  | .outOfAttempts count cap status =>
    [("attempt", .int count), ("max_attempts", cap.reported),
      ("status_code", Failure.optionalInt status)]
  | .created _ stack timeout => [("transport", .str stack), ("timeout", timeout.reported)]

/-- Whether the report goes through the logger that the layer has bound to its request. -/
def isBound : Notice → Bool
  | .outOfAttempts .. | .created .. => false
  | _ => true

def loggerName : Notice → String
  | .outOfAttempts .. => "roundtrip_retry.retry.strategies"
  | .created .. => "roundtrip_retry.client"
  | _ => "roundtrip_retry.retry.engine"

end Notice

inductive Sink where
  | standard
  | injected
  deriving DecidableEq, Repr, Inhabited

structure LogEntry where
  sink : Sink
  request : Option Request
  notice : Notice

def boundFields (request : Request) : Members :=
  [("method", .str request.method), ("url", .str request.url)]

def LogEntry.fields (entry : LogEntry) : Members :=
  (entry.request.map boundFields).getD [] ++ entry.notice.fields

end HttpRetry
