import HttpRetry.Json.Display
set_option autoImplicit false

namespace HttpRetry

inductive Entry (α : Type) where
  | checked (a : α)
  | unchecked (value : Json)
  deriving Repr, Inhabited

def Entry.json {α : Type} (f : α → Json) : Entry α → Json
  | .checked a => f a
  | .unchecked value => value

structure Settings where
  logLevel : Entry String := .checked "INFO"
  environment : Entry String := .checked "development"
  transportLogLevel : Entry (Option String) := .checked none
  /-- Bytes read from a rejected response before it is closed. -/
  bodyDrainLimit : Entry Int := .checked 4096
  defaultMaxAttempts : Entry Int := .checked 3
  defaultRetryStatuses : Entry (List Int) := .checked [429, 502, 503, 504]
  httpTimeout : Entry Binary64 := .checked (.ofDecimal (.ofInt 30))
  metricsEnabled : Entry Bool := .checked true
  deriving Repr, Inhabited

namespace Settings

def measures (s : Settings) : Bool :=
  match s.metricsEnabled with
  | .checked b => b
  | .unchecked value => value.truthy

def timeoutText (s : Settings) : String :=
  match s.httpTimeout with
  | .checked x => x.text
  | .unchecked value => value.display

def view (s : Settings) : Json :=
  .obj [("LOG_LEVEL", s.logLevel.json .str), ("ENVIRONMENT", s.environment.json .str),
    ("TRANSPORT_LOG_LEVEL", s.transportLogLevel.json fun level => (level.map Json.str).getD .null),
    ("BODY_DRAIN_LIMIT", s.bodyDrainLimit.json .int),
    ("DEFAULT_MAX_ATTEMPTS", s.defaultMaxAttempts.json .int),
    ("DEFAULT_RETRY_STATUSES", s.defaultRetryStatuses.json fun statuses => .arr (statuses.map .int)),
    ("HTTP_TIMEOUT", .str s.timeoutText), ("METRICS_ENABLED", s.metricsEnabled.json .bool)]

def put (s : Settings) (name : String) (value : Json) : Settings :=
  match name with
  | "LOG_LEVEL" => { s with logLevel := .unchecked value }
  | "ENVIRONMENT" => { s with environment := .unchecked value }
  | "TRANSPORT_LOG_LEVEL" => { s with transportLogLevel := .unchecked value }
  | "BODY_DRAIN_LIMIT" => { s with bodyDrainLimit := .unchecked value }
  | "DEFAULT_MAX_ATTEMPTS" => { s with defaultMaxAttempts := .unchecked value }
  | "DEFAULT_RETRY_STATUSES" => { s with defaultRetryStatuses := .unchecked value }
  | "HTTP_TIMEOUT" => { s with httpTimeout := .unchecked value }
  | "METRICS_ENABLED" => { s with metricsEnabled := .unchecked value }
  | _ => s

def force (s : Settings) (values : Members) : Settings :=
  values.foldl (fun s (name, value) => s.put name value) s

end Settings

end HttpRetry
