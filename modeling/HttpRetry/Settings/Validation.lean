import HttpRetry.Settings
import HttpRetry.Settings.Numeral
/-!
Turning given values into settings. A value may have another type than its field as long as it stands for
a value of that type; all fields that do not fit are reported, in the order of the fields.
-/
set_option autoImplicit false

namespace HttpRetry.Settings

def isSmall (n : Int) : Bool := -(pow2 63 : Nat) ≤ n && n < (pow2 63 : Nat)

def intOfFloat (x : Binary64) : Except Complaint Int :=
  if !x.isFinite then .error .finiteNumber
  else
    match x.toInt? with
    | none => .error .intFromFloat
    | some n => if n.natAbs < pow2 63 then .ok n else .error .intParsingSize

def asInt : Json → Except Complaint Int
  | .int n => .ok n
  | .bool b => .ok (if b then 1 else 0)
  | .real x => intOfFloat x.toBinary64
  | .str s => intOfText s
  | .unpaired _ => .error .stringUnicode
  | _ => .error .intType

def asFloat : Json → Except Complaint Binary64
  | .int n =>
    let value := Binary64.ofDecimal (.ofInt n)
    if value.isFinite then .ok value else .error .floatType
  | .bool b => .ok (.ofDecimal (.ofInt (if b then 1 else 0)))
  | .real x => .ok x.toBinary64
  | .str s => floatOfText s
  | .unpaired _ => .error .stringUnicode
  | _ => .error .floatType

def yesWords : List String := ["1", "true", "t", "yes", "y", "on"]

def noWords : List String := ["0", "false", "f", "no", "n", "off"]

def boolOfInt : Int → Except Complaint Bool
  | 0 => .ok false
  | 1 => .ok true
  | _ => .error .boolParsing

def asBool : Json → Except Complaint Bool
  | .bool b => .ok b
  | .int n => if isSmall n then boolOfInt n else .error .boolType
  | .real x =>
    match intOfFloat x.toBinary64 with
    | .ok n => boolOfInt n
    | .error _ => .error .boolType
  | .str s =>
    let word := String.ofList (s.toList.map Char.toLower)
    if yesWords.contains word then .ok true
    else if noWords.contains word then .ok false
    else .error .boolParsing
  | .unpaired _ => .error .stringUnicode
  | _ => .error .boolType

def asString : Json → Except Complaint String
  | .str s => .ok s
  | .unpaired _ => .error .stringUnicode
  | _ => .error .stringType

def above (bound : Int) (n : Int) : Except Complaint Int :=
  if bound < n then .ok n else .error (.greaterThan bound)

def atLeast (bound : Int) (n : Int) : Except Complaint Int :=
  if bound ≤ n then .ok n else .error (.greaterThanEqual bound)

def field {α : Type} (given : Members) (name : String) (default : Entry α)
    (read : Json → Except Complaint α) : List FieldError × Entry α :=
  match given.get? name with
  | none => ([], default)
  | some value =>
    match read value with
    | .ok a => ([], .checked a)
    | .error complaint => ([{ field := name, complaint }], default)

def statusField : String := "DEFAULT_RETRY_STATUSES"

def asStatuses : (index : Nat) → List Json → List FieldError × List Int
  | _, [] => ([], [])
  | index, item :: rest =>
    let (errors, statuses) := asStatuses (index + 1) rest
    match asInt item with
    | .ok n => (errors, n :: statuses)
    | .error complaint => (⟨statusField, some index, complaint⟩ :: errors, statuses)

def statuses (given : Members) (default : Entry (List Int)) :
    List FieldError × Entry (List Int) :=
  match given.get? statusField with
  | none => ([], default)
  | some (.arr items) =>
    let (errors, statuses) := asStatuses 0 items
    (errors, .checked statuses)
  | some _ => ([⟨statusField, none, .listType⟩], default)

def asOptionalString : Json → Except Complaint (Option String)
  | .null => .ok none
  | value => some <$> asString value

def validate (given : Members) : Except (List FieldError) Settings :=
  let default : Settings := {}
  let (e₁, logLevel) := field given "LOG_LEVEL" default.logLevel asString
  let (e₂, environment) := field given "ENVIRONMENT" default.environment asString
  let (e₃, transportLogLevel) :=
    field given "TRANSPORT_LOG_LEVEL" default.transportLogLevel asOptionalString
  let (e₄, bodyDrainLimit) :=
    field given "BODY_DRAIN_LIMIT" default.bodyDrainLimit fun v => do above 0 (← asInt v)
  let (e₅, defaultMaxAttempts) :=
    field given "DEFAULT_MAX_ATTEMPTS" default.defaultMaxAttempts fun v => do atLeast 1 (← asInt v)
  let (e₆, defaultRetryStatuses) := statuses given default.defaultRetryStatuses
  let (e₇, httpTimeout) := field given "HTTP_TIMEOUT" default.httpTimeout asFloat
  let (e₈, metricsEnabled) := field given "METRICS_ENABLED" default.metricsEnabled asBool
  match e₁ ++ e₂ ++ e₃ ++ e₄ ++ e₅ ++ e₆ ++ e₇ ++ e₈ with
  | [] => .ok { logLevel, environment, transportLogLevel, bodyDrainLimit, defaultMaxAttempts,
                defaultRetryStatuses, httpTimeout, metricsEnabled }
  | errors => .error errors

end HttpRetry.Settings
