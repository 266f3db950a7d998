import HttpRetry.Attempt
import HttpRetry.Decision
import HttpRetry.Json.Scalar
import HttpRetry.Settings
/-!
The policies of a layer: the default one, which retries connection failures and listed statuses up to a
cap, any other retryer as the sequence of its answers, and delayers.
-/
set_option autoImplicit false

namespace HttpRetry

inductive BuildError where
  /-- The cap on attempts is below one. -/
  | attempts
  /-- The limit on what is read of a rejected response is below one. -/
  | drain
  /-- A limit is of a kind that has no order among numbers. -/
  | unordered (kind : String)
  /-- The statuses are of a kind that has no elements. -/
  | notIterable (kind : String)
  /-- A status is of a kind that sets do not take. -/
  | unhashable (kind : String)
  deriving DecidableEq, Repr, Inhabited

def BuildError.failure : BuildError → FailureSpec
  | .attempts => .of .valueError (some "max_attempts must be >= 1")
  | .drain => .of .valueError (some "drain_limit must be >= 1")
  | .unordered kind => .of .typeError
      (some ("'<' not supported between instances of '" ++ kind ++ "' and 'int'"))
  | .notIterable kind => .of .typeError (some ("'" ++ kind ++ "' object is not iterable"))
  | .unhashable kind => .of .typeError (some ("unhashable type: '" ++ kind ++ "'"))

/-- A limit as it acts on whole numbers, and as it is shown. -/
structure Limit where
  value : Int
  shown : Json
  deriving Repr, Inhabited

namespace Limit

theorem one_le_toNat {limit : Limit} (h : 1 ≤ limit.value) : 1 ≤ limit.value.toNat := by omega

def ofInt (n : Int) : Limit := ⟨n, .int n⟩

def unreached : Nat := pow10 18

/-- The least whole number that reaches a binary fraction; one that is below one counts as zero. -/
def reaching (x : Binary64) : Int :=
  match x with
  | .nan | .infinity false => unreached
  | .infinity true => 0
  | finite =>
    match finite.toRat? with
    | some q => if q < 1 then 0 else q.ceil
    | none => unreached

def ofJson? (value : Json) : Option Limit :=
  match value with
  | .int n => some ⟨n, value⟩
  | .bool b => some ⟨if b then 1 else 0, value⟩
  | .real x => some ⟨reaching x.toBinary64, value⟩
  | _ => none

def ofEntry : Entry Int → Except BuildError Limit
  | .checked n => .ok (ofInt n)
  | .unchecked value =>
    match ofJson? value with
    | some limit => .ok limit
    | none => .error (.unordered value.kind)

end Limit

structure DefaultPolicy where
  cap : Nat
  shownCap : Json
  /-- The statuses worth retrying, ascending; they may be values that no response has as its status. -/
  statuses : List Json
  one_le_cap : 1 ≤ cap
  deriving Repr

namespace DefaultPolicy

def normal (statuses : List Json) : List Json :=
  (statuses.eraseDupsBy Json.same).mergeSort Json.notAfter

def statusesOf : Entry (List Int) → Except BuildError (List Json)
  | .checked statuses => .ok (normal (statuses.map .int))
  | .unchecked value =>
    match value.elements? with
    | none => .error (.notIterable value.kind)
    | some items =>
      match items.find? (!·.isScalar) with
      | some item => .error (.unhashable item.kind)
      | none => .ok (normal items)

def build (maxAttempts : Option (Entry Int)) (statuses : Option (Entry (List Int)))
    (settings : Settings) : Except BuildError DefaultPolicy := do
  let cap ← Limit.ofEntry (maxAttempts.getD settings.defaultMaxAttempts)
  if h : 1 ≤ cap.value then
    let statuses ← statusesOf (statuses.getD settings.defaultRetryStatuses)
    return {
      cap := cap.value.toNat
      shownCap := cap.shown
      statuses
      one_le_cap := Limit.one_le_toNat h }
  else throw .attempts

def hasStatus (p : DefaultPolicy) (status : Option Int) : Bool :=
  p.statuses.any (Json.same (Failure.optionalInt status))

def isRetryable (p : DefaultPolicy) (attempt : Attempt) : Bool :=
  match attempt.error with
  | some e => e.isTransport
  | none => p.hasStatus attempt.status?

def decide (p : DefaultPolicy) (attempt : Attempt) : Decision :=
  if p.isRetryable attempt then if p.cap ≤ attempt.count then .abort else .retry else .ignore

def describe (p : DefaultPolicy) : String :=
  "DefaultRetryer(max_attempts=" ++ p.shownCap.display ++ ", retry_statuses=" ++
    (Json.arr p.statuses).display ++ ")"

end DefaultPolicy

inductive ErrorSource where
  | nothing
  /-- The attempt's own error, if it has one. -/
  | own
  | given (spec : FailureSpec)
  deriving Inhabited

inductive Answer where
  | decided (decision : Decision) (error : ErrorSource)
  | raises (spec : FailureSpec)
  /-- A value that is no decision, as it is shown in the complaint. -/
  | foreign (shown : String)
  deriving Inhabited

/-- Once its answers are used up a retryer fails. -/
def Answer.listed (answers : List Answer) (asked : Nat) : Answer :=
  (answers[asked]?).getD (.raises (.of .indexError (some "retryer script exhausted")))

inductive Retryer where
  | standard (policy : DefaultPolicy)
  /-- Answers by the number of times the retryer was asked before. -/
  | scripted (answers : Nat → Answer)
  /-- Answers likewise, but looks at the layer's clock first and fails with it. -/
  | timed (answers : Nat → Answer)

def Retryer.describe : Retryer → String
  | .standard policy => policy.describe
  | .scripted _ | .timed _ => "ScriptedRetryer()"

/-- A retryer as it is asked for: a default policy, or a list of answers, with or without a look at
the clock before each. -/
inductive RetryerSpec where
  | standard (policy : DefaultPolicy)
  | listed (answers : List Answer)
  | timed (answers : List Answer)

namespace RetryerSpec

def retryer : RetryerSpec → Retryer
  | .standard policy => .standard policy
  | .listed answers => .scripted (.listed answers)
  | .timed answers => .timed (.listed answers)

/-- A number of rounds that no call exceeds. -/
def patience : RetryerSpec → Nat
  | .standard policy => policy.cap
  | .listed answers | .timed answers => answers.length + 1

end RetryerSpec

structure Wait where
  seconds : Rat := 0
  failure : Option FailureSpec := none
  deriving Inhabited

abbrev Delayer := Nat → Wait

def Delayer.ofList (waits : List Wait) : Delayer :=
  fun asked => (waits[min asked (waits.length - 1)]?).getD {}

end HttpRetry
