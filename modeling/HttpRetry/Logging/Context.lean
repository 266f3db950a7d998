import HttpRetry.Attempt
import HttpRetry.Json.Display
set_option autoImplicit false

namespace HttpRetry.Logging

def transportLogger : String := "roundtrip_retry"

def isUnder (ancestor name : String) : Bool :=
  name = ancestor || (ancestor ++ ".").toList.isPrefixOf name.toList

def component : String := "retry-transport"

def tagName (name : String) (event : Members) : Members :=
  if isUnder transportLogger name then event.put "component" (.str component) else event

def lacking (value : Json) (member : String) : FailureSpec :=
  .of .attributeError
    (some ("'" ++ value.kind ++ "' object has no attribute '" ++ member ++ "'"))

/-- Tags an event by the name of its record, or without a record by its field `logger`. -/
def tag (record : Option String) (event : Members) : Except FailureSpec Members :=
  match record with
  | some name => .ok (tagName name event)
  | none =>
    match event.get? "logger" with
    | none => .ok event
    | some (.str name) => .ok (tagName name event)
    | some (.unpaired points) => .ok (tagName (String.ofList (points.map Char.ofNat)) event)
    | some value => if value.truthy then .error (lacking value "startswith") else .ok event

end HttpRetry.Logging
