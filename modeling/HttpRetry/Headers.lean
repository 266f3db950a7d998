import HttpRetry.Attempt
import HttpRetry.Json.Scalar
import HttpRetry.Text.Ascii
set_option autoImplicit false

namespace HttpRetry.Headers

def typeError (message : String) : FailureSpec := .of .typeError (some message)

def valueError (message : String) : FailureSpec := .of .valueError (some message)

def checkAscii (text : String) : Except FailureSpec Unit :=
  match Text.notAscii? text.toList with
  | none => .ok ()
  | some complaint => .error (.of .encodeError (some complaint))

def checkName : Json → Except FailureSpec Unit
  | .str name => checkAscii name
  | value =>
    .error (.of .attributeError (some ("'" ++ value.kind ++ "' object has no attribute 'encode'")))

def checkValue : Json → Except FailureSpec Unit
  | .str text => checkAscii text
  | value =>
    .error (typeError ("Header value must be str or bytes, not <class '" ++ value.kind ++ "'>"))

def checkPair (item : Json) : Except FailureSpec Unit :=
  match item.elements? with
  | none => .error (typeError ("cannot unpack non-iterable " ++ item.kind ++ " object"))
  | some [name, value] => do
    checkName name
    checkValue value
  | some parts =>
    if parts.length < 2 then
      .error (valueError
        ("not enough values to unpack (expected 2, got " ++ toString parts.length ++ ")"))
    else .error (valueError "too many values to unpack (expected 2)")

def check : Json → Except FailureSpec Unit
  | .null => .ok ()
  | .obj members => members.forM fun (name, value) => do
    checkAscii name
    checkValue value
  | value =>
    match value.elements? with
    | none => .error (typeError ("'" ++ value.kind ++ "' object is not iterable"))
    | some items => items.forM checkPair

def nameOf? (item : Json) : Option String :=
  match item.elements? with
  | some (.str name :: _) => some name
  | _ => none

def names (headers : Json) : List String :=
  match headers with
  | .obj members => members.map (·.1)
  | value => (value.elements?.getD []).filterMap nameOf?

def haveHost (headers : Json) : Bool := (names headers).any fun name => name.map Char.toLower = "host"

end HttpRetry.Headers
