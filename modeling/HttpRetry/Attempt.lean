import HttpRetry.Failure.Kind
import HttpRetry.Json.Value
import HttpRetry.Time
/-!
Failures and attempts. A failure has an identity besides its content, since the same failure may be
raised again and again; the errors that the retry loop raises itself hold the attempt they are about.
-/
set_option autoImplicit false

namespace HttpRetry

/-- Who made a request object: the caller of the outermost layer, or the client on his behalf. -/
inductive Maker where
  | caller
  | client
  deriving DecidableEq, Repr, Inhabited

structure Request where
  method : String
  url : String
  maker : Maker := .caller
  body : String := ""
  deriving DecidableEq, Repr, Inhabited

structure ResponseId where
  call : Nat
  serial : Nat
  deriving DecidableEq, Repr, Inhabited

structure ResponseRef where
  id : ResponseId
  status : Int
  deriving DecidableEq, Repr, Inhabited

/-- Which failure object this is: one with a name that several places use, or one made on the spot
during a call. -/
inductive FailureId where
  | shared (name : String)
  | fresh (call serial : Nat)
  deriving DecidableEq, Repr, Inhabited

mutual

inductive Failure where
  | raised (id : FailureId) (kind : FailureKind) (text : String)
  | detailed (id : FailureId) (text : String) (details : Members)
  /-- The retryer aborted and gave no error. -/
  | aborted (id : FailureId) (attempt : Attempt)
  /-- The default retryer has used up its attempts. -/
  | exhausted (id : FailureId) (attempt : Attempt)
  /-- Raised where another one could not leave a routine; it goes by the other's identity. -/
  | turned (id : FailureId) (text : String) (original : Failure)

structure Attempt where
  /-- When the first attempt of the same call was made. -/
  start : Option Timestamp
  count : Nat
  error : Option Failure
  request : Request
  response : Option ResponseRef
  one_le_count : 1 ≤ count

end

def Attempt.status? (a : Attempt) : Option Int := a.response.map (·.status)

inductive Reply where
  | response (r : ResponseRef)
  | raised (e : Failure)
  /-- Neither a response nor an error. -/
  | nothing

def Reply.response? : Reply → Option ResponseRef
  | .response r => some r
  | _ => none

def Reply.error? : Reply → Option Failure
  | .raised e => some e
  | _ => none

namespace Failure

def id : Failure → FailureId
  | .raised id .. | .detailed id .. | .aborted id .. | .exhausted id .. | .turned id .. => id

def kind : Failure → FailureKind
  | .raised _ kind _ => kind
  | .detailed .. => .retryBase
  | .aborted .. => .retryAborted
  | .exhausted .. => .retryLimitExceeded
  | .turned .. => .runtimeError

def isTurned : Failure → Bool
  | .turned .. => true
  | _ => false

/-- Whether two failures are one object. -/
def is (e e' : Failure) : Bool := e.id = e'.id && e.isTurned = e'.isTurned

theorem is_of_id_ne {e e' : Failure} (h : e.id ≠ e'.id) : e.is e' = false := by simp [is, h]

def typeName (e : Failure) : String := e.kind.name

def isInterrupt (e : Failure) : Bool := e.kind.isInterrupt

def isTransport (e : Failure) : Bool := e.kind.isTransport

def isSwallowed (e : Failure) : Bool := e.kind.isSwallowed

def statusText : Option Int → String
  | none => "None"
  | some n => toString n

def text : Failure → String
  | .raised _ _ text | .detailed _ text _ | .turned _ text _ => text
  | .aborted _ attempt =>
    attempt.request.method ++ " " ++ attempt.request.url ++ " aborted after " ++
      toString attempt.count ++ " attempt(s)"
  | .exhausted _ ⟨_, count, some last, request, _, _⟩ =>
    request.method ++ " " ++ request.url ++ " failed after " ++ toString count ++
      " attempts (last error: " ++ last.typeName ++ ": " ++ last.text ++ ")"
  | .exhausted _ ⟨_, count, none, request, response, _⟩ =>
    request.method ++ " " ++ request.url ++ " failed after " ++ toString count ++
      " attempts (last status: " ++ statusText (response.map (·.status)) ++ ")"

def optionalInt : Option Int → Json
  | none => .null
  | some n => .int n

/-- The last error's kind; a failure that counts as false is passed over. -/
def reportedKind (attempt : Attempt) : Json :=
  match attempt.error with
  | some last => if last.kind.falsy then .null else .str last.typeName
  | none => .null

def details? : Failure → Option Members
  | .raised .. | .turned .. => none
  | .detailed _ _ details => some details
  | .aborted _ attempt => some [("attempts", .int attempt.count)]
  | .exhausted _ attempt => some
    [("attempts", .int attempt.count), ("status_code", optionalInt attempt.status?),
      ("error_type", reportedKind attempt)]

def attempt? : Failure → Option Attempt
  | .aborted _ attempt | .exhausted _ attempt => some attempt
  | _ => none

def lastError? : Failure → Option Failure
  | .exhausted _ attempt => attempt.error
  | _ => none

def statusCode? : Failure → Option Int
  | .exhausted _ attempt => attempt.status?
  | _ => none

/-- What comes of a failure that leaves a routine. -/
def outOf (routine : Routine) (e : Failure) : Failure :=
  match routine.objection? e.kind.family with
  | some text => .turned e.id text e
  | none => e

variable {routine : Routine} {e : Failure}

@[simp] theorem outOf_function (e : Failure) : e.outOf .function = e := by simp [outOf]

theorem outOf_of_allowed (h : routine.objection? e.kind.family = none) : e.outOf routine = e := by
  simp [outOf, h]

theorem outOf_cases (routine : Routine) (e : Failure) :
    e.outOf routine = e ∨ ∃ text, routine.objection? e.kind.family = some text ∧
      e.outOf routine = .turned e.id text e := by
  cases h : routine.objection? e.kind.family with
  | none => exact .inl (outOf_of_allowed h)
  | some text => exact .inr ⟨text, rfl, by simp [outOf, h]⟩

@[simp] theorem id_outOf (routine : Routine) (e : Failure) : (e.outOf routine).id = e.id := by
  rcases outOf_cases routine e with h | ⟨text, _, h⟩
  · rw [h]
  · rw [h]
    rfl

theorem outOf_of_general (routine : Routine) (h : e.kind.family = .general) :
    e.outOf routine = e :=
  outOf_of_allowed (by rw [h, Routine.objection?_general])

theorem outOf_of_isInterrupt (routine : Routine) (h : e.isInterrupt = true) : e.outOf routine = e := by
  have family : e.kind.family = .interrupt := by
    simpa [isInterrupt, FailureKind.isInterrupt] using h
  exact outOf_of_allowed (by rw [family, Routine.objection?_interrupt])

@[simp] theorem isInterrupt_outOf (routine : Routine) (e : Failure) :
    (e.outOf routine).isInterrupt = e.isInterrupt := by
  rcases outOf_cases routine e with h | ⟨text, objected, h⟩
  · rw [h]
  · have family : e.kind.family ≠ .interrupt := by
      intro family
      simp [family] at objected
    have still : e.isInterrupt = false := by simp [isInterrupt, FailureKind.isInterrupt, family]
    rw [h, still]
    rfl

@[simp] theorem outOf_outOf (routine : Routine) (e : Failure) :
    (e.outOf routine).outOf routine = e.outOf routine := by
  rcases outOf_cases routine e with same | ⟨text, _, turned⟩
  · rw [same, same]
  · rw [turned]
    cases routine <;> rfl

theorem isSwallowed_outOf (routine : Routine) (h : e.isSwallowed = true) :
    (e.outOf routine).isSwallowed = true := by
  rcases outOf_cases routine e with same | ⟨text, _, turned⟩
  · rw [same]
    exact h
  · rw [turned]
    rfl

end Failure

def Reply.outOf (routine : Routine) : Reply → Reply
  | .raised e => .raised (e.outOf routine)
  | reply => reply

@[simp] theorem Reply.response?_outOf (routine : Routine) (reply : Reply) :
    (reply.outOf routine).response? = reply.response? := by cases reply <;> rfl

@[simp] theorem Reply.outOf_eq_response {routine : Routine} {reply : Reply} {r : ResponseRef} :
    reply.outOf routine = .response r ↔ reply = .response r := by cases reply <;> simp [outOf]

@[simp] theorem Reply.outOf_eq_nothing {routine : Routine} {reply : Reply} :
    reply.outOf routine = .nothing ↔ reply = .nothing := by cases reply <;> simp [outOf]

@[simp] theorem Reply.outOf_outOf (routine : Routine) (reply : Reply) :
    (reply.outOf routine).outOf routine = reply.outOf routine := by cases reply <;> simp [outOf]

/-- What to raise: a failure of a kind with a message, the same object each time if it has a name. -/
structure FailureSpec where
  kind : FailureKind
  text : String
  name : Option String := none
  deriving Inhabited

namespace FailureSpec

def of (kind : FailureKind) (message : Option String) : FailureSpec :=
  { kind, text := kind.textOf message }

/-- The failure raised, where `fresh` is the identity it has unless it is a shared one. -/
def failure (spec : FailureSpec) (fresh : FailureId) : Failure :=
  let id := match spec.name with
    | some name => .shared name
    | none => fresh
  if spec.kind = .retryBase then .detailed id spec.text [] else .raised id spec.kind spec.text

@[simp] theorem kind_failure (spec : FailureSpec) (fresh : FailureId) :
    (spec.failure fresh).kind = spec.kind := by
  by_cases h : spec.kind = .retryBase <;> simp [failure, h, Failure.kind]

end FailureSpec

end HttpRetry
