import HttpRetry.Outcome
/-!
Reading and closing responses. Reading marks a response consumed before the first chunk is asked for,
and closes it at the end of its stream; the first close reaches the stream, later ones do nothing.
-/
set_option autoImplicit false

namespace HttpRetry

def wrongReader : Mode → String
  | .blocking => "Attempted to call a sync iterator on an async stream."
  | .suspending => "Attempted to call an async iterator on an sync stream."

def wrongCloser : Mode → String
  | .blocking => "Attempted to call an sync close on an async stream."
  | .suspending => "Attempted to call an async close on an sync stream."

namespace Work

def failWith (routine : Routine) (call : Nat) (spec : FailureSpec) : Work (Except Failure Unit) :=
  return .error ((← fail call spec).outOf routine)

def close (mode : Mode) (call : Nat) (id : ResponseId) : Work (Except Failure Unit) := do
  match (← get).response? id with
  | none => return .ok ()
  | some r =>
    match r.body with
    | .memory _ => return .ok ()
    | .stream s =>
      if s.mode ≠ mode then failWith mode.routine call (.of .runtimeError (some (wrongCloser mode)))
      else if r.closed then return .ok ()
      else
        adjustResponse id .shut
        note (.streamClosed call id r.reads r.bytes)
        match s.closeFailure with
        | none => return .ok ()
        | some spec => failWith mode.routine call spec

/-- Reads until `limit` bytes have come, which fails in the given way if any, or without a limit to
the end. -/
def iterate (mode : Mode) (call : Nat) (limit : Option Nat) (atLimit : Option FailureSpec)
    (id : ResponseId) : Work (Except Failure Unit) := do
  match (← get).response? id with
  | none => return .ok ()
  | some r =>
    if r.consumed then failWith mode.reader call (.of .streamConsumed none)
    else if r.closed then failWith mode.reader call (.of .streamClosed none)
    else
      match r.body with
      | .memory _ => return .ok ()
      | .stream s =>
        if s.mode ≠ mode then
          failWith mode.reader call (.of .runtimeError (some (wrongReader mode)))
        else
          let given := takeChunks limit s.chunks
          adjustResponse id (.drawn given.chunks)
          match if given.stopped then atLimit else s.failure with
          | some spec => failWith mode.reader call spec
          | none =>
            if given.stopped then return .ok ()
            else return (← close mode call id).mapError (·.outOf mode.reader)

def read (mode : Mode) (call : Nat) (id : ResponseId) : Work (Except Failure Unit) := do
  match (← get).response? id with
  | none => return .ok ()
  | some r =>
    if r.loaded then return .ok ()
    else
      match ← iterate mode call none none id with
      | .ok () =>
        adjustResponse id .kept
        return .ok ()
      | .error e => return .error e

/-- Reading that is given up ends with the first byte. -/
def prepare (mode : Mode) (call : Nat) (id : ResponseId) :
    Preparation → Work (Except Failure Unit)
  | .fresh => return .ok ()
  | .read => read mode call id
  | .begun => iterate mode call (some 1) none id
  | .closed => close mode call id

def addResponse (call : Nat) (r : Response) : Work ResponseId :=
  modifyGet fun l => (⟨call, (l.calls call).built⟩, l.build call r)

def nextSend (call : Nat) : Work Nat :=
  modifyGet fun l =>
    ((l.calls call).sends, l.adjustCall call fun c => { c with sends := c.sends + 1 })

def unbuilt : FailureSpec := .of .indexError (some "list index out of range")

def perform (mode : Mode) (call : Nat) : Act → Work Reply
  | .raise spec => return .raised (← fail call spec)
  | .nothing => return .nothing
  | .again index => do
    match (← get).responses[index]? with
    | some (id, r) => return .response ⟨id, r.status⟩
    | none => return .raised (← fail call unbuilt)
  | .repeated serial => do
    match (← get).response? ⟨call, serial⟩ with
    | some r => return .response ⟨⟨call, serial⟩, r.status⟩
    | none => return .raised (← fail call unbuilt)
  | .respondText status text =>
    return .response ⟨← addResponse call (.ofText status text), status⟩
  | .respond status stream preparation => do
    let id ← addResponse call (.ofStream status stream)
    match ← prepare mode call id preparation with
    | .ok () => return .response ⟨id, status⟩
    | .error e => return .raised e

end Work

def Call.transmit (mode : Mode) (call : Call) : Work Reply := do
  Work.note (.sent call.id call.request)
  let outcome := call.feed (← Work.nextSend call.id)
  Work.advance outcome.advance
  return (← Work.perform mode call.id outcome.act).outOf mode.routine

end HttpRetry
