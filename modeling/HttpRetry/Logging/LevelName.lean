import HttpRetry.Attempt
import HttpRetry.Notice
import HttpRetry.Text.Case
/-!
Levels by name. Besides the levels themselves two other names are known to stand for something, which
then cannot serve as a level.
-/
set_option autoImplicit false

namespace HttpRetry

def Level.number : Level → Nat
  | .debug => 10
  | .info => 20
  | .warning => 30
  | .error => 40
  | .critical => 50

inductive LevelValue where
  | number (n : Nat)
  | format
  | styles
  deriving DecidableEq, Repr, Inhabited

namespace LevelValue

def formatText : String := "%(levelname)s:%(name)s:%(message)s"

def ofUpper (name : String) : LevelValue :=
  match name with
  | "DEBUG" => .number 10
  | "INFO" => .number 20
  | "WARNING" | "WARN" => .number 30
  | "ERROR" => .number 40
  | "CRITICAL" | "FATAL" => .number 50
  | "NOTSET" => .number 0
  | "BASIC_FORMAT" => .format
  | "_STYLES" => .styles
  | _ => .number 20

def ofName (name : String) : LevelValue := ofUpper (Text.upper name)

def kindName : LevelValue → String
  | .number _ => "int"
  | .format => "str"
  | .styles => "dict"

def incomparable (a b : LevelValue) : FailureSpec :=
  .of .typeError (some ("'<' not supported between instances of '" ++ a.kindName ++ "' and '" ++
    b.kindName ++ "'"))

def lesser (root transport : LevelValue) : Except FailureSpec LevelValue :=
  match root, transport with
  | .number r, .number t => .ok (.number (min r t))
  | .format, .format => .ok .format
  | r, t => .error (incomparable t r)

def handlerLevel : LevelValue → Except FailureSpec Nat
  | .number n => .ok n
  | .format => .error (.of .valueError (some ("Unknown level: " ++ Text.quoted formatText)))
  | .styles => .error (.of .typeError (some "Level not an integer or a valid string"))

def nameOf (n : Nat) : String :=
  match n with
  | 0 => "NOTSET"
  | 10 => "DEBUG"
  | 20 => "INFO"
  | 30 => "WARNING"
  | 40 => "ERROR"
  | 50 => "CRITICAL"
  | n => "Level " ++ toString n

end LevelValue

end HttpRetry
