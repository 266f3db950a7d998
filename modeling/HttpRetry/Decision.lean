set_option autoImplicit false

namespace HttpRetry

inductive Decision where
  /-- The attempt is final. -/
  | ignore
  /-- The response is discarded and the request sent again. -/
  | retry
  /-- The response is discarded and the retryer's error raised. -/
  | abort
  deriving DecidableEq, Repr, Inhabited

namespace Decision

def all : List Decision := [.ignore, .retry, .abort]

def value : Decision → String
  | .ignore => "ignore"
  | .retry => "retry"
  | .abort => "abort"

def name : Decision → String
  | .ignore => "IGNORE"
  | .retry => "RETRY"
  | .abort => "ABORT"

def ofValue? (value : String) : Option Decision := all.find? (·.value = value)

theorem ofValue?_value (d : Decision) : ofValue? d.value = some d := by cases d <;> rfl

end Decision

end HttpRetry
