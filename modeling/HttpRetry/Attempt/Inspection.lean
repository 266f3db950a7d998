import HttpRetry.Json.Display
import HttpRetry.Notice
import HttpRetry.Policy
import HttpRetry.Time.Iso
import HttpRetry.Url
set_option autoImplicit false

namespace HttpRetry

def IsoError.failure (e : IsoError) : FailureSpec := .of .valueError (some e.message)

structure AttemptSpec where
  start : String
  count : Int
  error : Option FailureSpec
  method : String
  url : String
  status : Option Int

def countTooSmall : FailureSpec := .of .valueError (some "count must be >= 1")

def AttemptSpec.build (spec : AttemptSpec) : Except FailureSpec Attempt := do
  let start ← (Timestamp.ofIso spec.start).mapError IsoError.failure
  let request ← (Request.make spec.method spec.url).mapError UrlError.failure
  if h : 1 ≤ spec.count then
    return { start := some start
             count := spec.count.toNat
             error := spec.error.map (·.failure (.fresh 0 0))
             request
             response := spec.status.map fun status => ⟨⟨0, 0⟩, status⟩
             one_le_count := by omega }
  else throw countTooSmall

inductive Inquiry where
  | get (field : String)
  | set (field : String)
  | delete (field : String)
  | elapsed (now : String)
  | replace (count : Int)
  | equalsCopy (count : Option Int)

inductive Finding where
  | number (n : Int)
  | time (t : Option Timestamp)
  | failure (e : Option Failure)
  | request (r : Request)
  | status (s : Option Int)
  | elapsed (e : Elapsed)
  | truth (b : Bool)

namespace Attempt

def frozen (verb field : String) : FailureSpec :=
  .of .frozenField (some ("cannot " ++ verb ++ " field " ++ Text.quoted field))

def field? (a : Attempt) (name : String) : Except FailureSpec Finding :=
  match name with
  | "start" => .ok (.time a.start)
  | "count" => .ok (.number a.count)
  | "error" => .ok (.failure a.error)
  | "request" => .ok (.request a.request)
  | "response" | "status_code" => .ok (.status a.status?)
  | _ => .error (.of .attributeError
      (some ("'Attempt' object has no attribute " ++ Text.quoted name)))

def elapsed (a : Attempt) (now : Timestamp) : Except FailureSpec Elapsed :=
  match a.start.bind (now.since? ·) with
  | some micros => .ok (.ofMicros micros)
  | none => .error (.of .typeError
      (some "can't subtract offset-naive and offset-aware datetimes"))

def withCount (a : Attempt) (count : Int) : Except FailureSpec Attempt :=
  if h : 1 ≤ count then .ok { a with count := count.toNat, one_le_count := by omega }
  else .error countTooSmall

def inspect (a : Attempt) : Inquiry → Except FailureSpec (Finding × Attempt)
  | .get name => do return (← a.field? name, a)
  | .set name => .error (frozen "assign to" name)
  | .delete name => .error (frozen "delete" name)
  | .elapsed now => do
    let now ← (Timestamp.ofIso now).mapError IsoError.failure
    return (.elapsed (← a.elapsed now), a)
  | .replace count => do return (.number count, ← a.withCount count)
  | .equalsCopy none => .ok (.truth true, a)
  | .equalsCopy (some count) => do
    let copy ← a.withCount count
    return (.truth (copy.count = a.count), a)

def inspectAll (a : Attempt) : List Inquiry → List (Except FailureSpec Finding)
  | [] => []
  | inquiry :: rest =>
    match a.inspect inquiry with
    | .ok (finding, a) => .ok finding :: a.inspectAll rest
    | .error e => .error e :: a.inspectAll rest

end Attempt

structure Judgement where
  retryable : Bool
  decision : Decision
  error : Option Failure
  notices : List Notice

def DefaultPolicy.judge (p : DefaultPolicy) (fresh : FailureId) (attempt : Attempt) : Judgement :=
  let decision := p.decide attempt
  { retryable := p.isRetryable attempt
    decision
    error := if decision = .abort then some (.exhausted fresh attempt) else none
    notices := if decision = .abort then [.outOfAttempts attempt.count p.shownCap attempt.status?]
      else [] }

def Decision.ofJson (value : Json) : Except FailureSpec Decision :=
  match value.string?.bind ofValue? with
  | some decision => .ok decision
  | none => .error (.of .valueError (some (value.display ++ " is not a valid Decision")))

end HttpRetry
