import HttpRetry.Layer
set_option autoImplicit false

namespace HttpRetry

inductive Preparation where
  | fresh
  | read
  /-- Reading begun and given up with the first byte. -/
  | begun
  | closed
  deriving DecidableEq, Repr, Inhabited

inductive Act where
  | raise (spec : FailureSpec)
  | nothing
  /-- Returns again the response that was built at this place of the order. -/
  | again (index : Nat)
  /-- Returns again the response that was built at this place of the order for the same call. -/
  | repeated (serial : Nat)
  | respondText (status : Int) (text : String)
  | respond (status : Int) (stream : Stream) (preparation : Preparation)
  deriving Inhabited

structure Outcome where
  advance : Rat := 0
  act : Act
  deriving Inhabited

abbrev Feed := Nat → Outcome

def Feed.ofList (outcomes : List Outcome) : Feed :=
  fun sent => (outcomes[min sent (outcomes.length - 1)]?).getD { act := .nothing }

structure Call where
  id : Nat
  request : Request
  feed : Feed

/-- A send that gives no reply if what it was allowed to do does not suffice. -/
abbrev Send := Work (Option Reply)

end HttpRetry
