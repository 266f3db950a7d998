import HttpRetry.Round
/-!
Sending while the caller waits. A layer repeats the send of the layer below it until a round is final; a
send is given a budget of rounds for each entry into a layer and comes to nothing when that is used up.
-/
set_option autoImplicit false

namespace HttpRetry

namespace Place

def waitBlocking (p : Place) (s : Setting) (call : Call) (attempt : Attempt) :
    Work (Except Failure Unit) := do
  match p.layer.delay with
  | none => return .ok ()
  | some delay =>
    p.report call (.delaying attempt.count)
    let began := (← get).now
    match ← p.delayWork s.mode delay call attempt with
    | .error e => return .error e
    | .ok () =>
      p.delayDone s.timer call attempt began
      return .ok ()

def announce (p : Place) (call : Call) (made : Nat) : Work Unit :=
  if made = 0 then return () else p.report call (.retrying (made + 1))

/-- The rounds from the one that follows `made` others. -/
def rounds (p : Place) (s : Setting) (call : Call) (start : Option Timestamp) (next : Send) :
    (budget made : Nat) → Send
  | 0, _ => return none
  | budget + 1, made => do
    p.announce call made
    match ← next with
    | none => return none
    | some reply =>
      match ← p.conclude s call start made reply with
      | .finished reply => return some reply
      | .again attempt =>
        match ← p.waitBlocking s call attempt with
        | .error e => return some (.raised e)
        | .ok () => rounds p s call start next budget (made + 1)

end Place

/-- Sends a request through layers, the outermost first. -/
def sendThrough (s : Setting) (call : Call) (budget : Nat) : List Place → Send
  | [] => some <$> call.transmit s.mode
  | p :: inner => do
    match ← p.enter s.mode call with
    | .error e => return some (.raised e)
    | .ok start => p.rounds s call start (sendThrough s call budget inner) budget 0

end HttpRetry
