import HttpRetry.Json.Printer
import HttpRetry.Logging.Context
set_option autoImplicit false

namespace HttpRetry.Logging

def needsQuotes (c : Char) : Bool :=
  [' ', '\t', '=', '\r', '\n', '\x22', '\x27'].contains c

def consoleValue : Json → String
  | .str s => if s.toList.any needsQuotes then Text.quoted s else s
  | value => value.display

def plainField (event : Members) (name : String) : String :=
  ((event.get? name).map Json.plain).getD ""

def padded (width : Nat) (s : String) : String :=
  String.ofList (s.toList ++ List.replicate (width - s.length) ' ')

def placedFields : List String :=
  ["timestamp", "level", "event", "logger", "logger_name", "stack", "exception", "exc_info"]

def consoleLine (event : Members) : String :=
  let others := (event.filter fun (name, _) => !placedFields.contains name).mergeSort
    fun a b => !(b.1 < a.1)
  let fields := others.map fun (name, value) => " " ++ name ++ "=" ++ consoleValue value
  let name := ((event.get? "logger_name").map fun value => " [" ++ value.plain ++ "]").getD ""
  plainField event "timestamp" ++ " [" ++ padded 9 (plainField event "level") ++ "] " ++
    padded 30 (plainField event "event") ++ " [" ++ plainField event "logger" ++ "]" ++ name ++
    String.join fields

/-- A field that is to be a text: absent, the text, or, for any other value, no way to go on. -/
def textField? (event : Members) (name : String) : Option (Option String) :=
  match event.get? name with
  | none | some .null => some none
  | some (.str s) => some (some s)
  | some _ => none

def ruler : String := String.ofList (List.replicate 79 '=')

def console? (event : Members) : Option String := do
  let stack ← textField? event "stack"
  let exception ← textField? event "exception"
  let failing := exception.isSome || ((event.get? "exc_info").map Json.truthy).getD false
  let below := match stack with
    | none => ""
    | some stack => "\n" ++ stack ++ (if failing then "\n\n" ++ ruler ++ "\n" else "")
  return consoleLine event ++ below ++ ((exception.map fun text => "\n" ++ text).getD "")

def json (event : Members) : String := (Json.obj event).render .line

end HttpRetry.Logging
