import HttpRetry.Attempt
/-!
Responses and the streams that their bodies come from. A stream gives its chunks one at a time and then
ends or fails; a response remembers whether reading it has begun and whether it is closed.
-/
set_option autoImplicit false

namespace HttpRetry

inductive Mode where
  | blocking
  | suspending
  deriving DecidableEq, Repr, Inhabited

def Mode.routine : Mode → Routine
  | .blocking => .function
  | .suspending => .coroutine

def Mode.reader : Mode → Routine
  | .blocking => .generator
  | .suspending => .asyncGenerator

inductive Chunk where
  /-- So many times the letter x. -/
  | filler (size : Nat)
  | text (s : String)
  deriving DecidableEq, Repr, Inhabited

def Chunk.size : Chunk → Nat
  | .filler size => size
  | .text s => s.utf8ByteSize

def totalSize (chunks : List Chunk) : Nat := chunks.foldr (·.size + ·) 0

def Chunk.chars : Chunk → List Char
  | .filler size => List.replicate size 'x'
  | .text s => s.toList

structure Stream where
  /-- The mode in which the stream can be read and closed. -/
  mode : Mode
  chunks : List Chunk
  /-- What asking for a further chunk raises after the chunks; without it the stream ends. -/
  failure : Option FailureSpec
  closeFailure : Option FailureSpec
  deriving Inhabited

inductive Body where
  /-- Held in memory: there is nothing left to read or to close. -/
  | memory (text : String)
  | stream (s : Stream)
  deriving Inhabited

structure Response where
  status : Int
  body : Body
  consumed : Bool
  closed : Bool
  loaded : Bool
  reads : Nat
  bytes : Nat
  closes : Nat
  deriving Inhabited

namespace Response

def ofText (status : Int) (text : String) : Response :=
  ⟨status, .memory text, true, true, true, 0, 0, 0⟩

def ofStream (status : Int) (stream : Stream) : Response :=
  ⟨status, .stream stream, false, false, false, 0, 0, 0⟩

def chunks (r : Response) : List Chunk :=
  match r.body with
  | .memory text => [.text text]
  | .stream s => s.chunks

def content (r : Response) : List Char := r.chunks.flatMap Chunk.chars

def contentSize (r : Response) : Nat := totalSize r.chunks

def drawn (taken : List Chunk) (r : Response) : Response :=
  { r with consumed := true, reads := r.reads + taken.length, bytes := r.bytes + totalSize taken }

def kept (r : Response) : Response := { r with loaded := true }

def shut (r : Response) : Response := { r with closed := true, closes := r.closes + 1 }

end Response

/-- Cuts what is held back, together with a new chunk, into pieces of the asked size; gives the number
of full pieces and the size of the rest. -/
def cutPieces (size held chunk : Nat) : Nat × Nat := ((held + chunk) / size, (held + chunk) % size)

/-- Counts pieces of one size until the count reaches the limit; gives the count, and whether it did. -/
def countPieces (limit size : Nat) : (pieces drained : Nat) → Nat × Bool
  | 0, drained => (drained, false)
  | pieces + 1, drained =>
    if limit ≤ drained + size then (drained + size, true)
    else countPieces limit size pieces (drained + size)

structure Taken where
  chunks : List Chunk
  /-- How often he has asked for a chunk. -/
  asks : Nat
  /-- The bytes that have come in full pieces, and those held back for a further one. -/
  counted : Nat
  held : Nat
  stopped : Bool

/-- What is taken from a stream by someone who stops once `limit` bytes have come in pieces of `limit`. -/
def takeUntil (limit : Nat) : (held drained : Nat) → List Chunk → Taken
  | held, drained, [] => ⟨[], 1, drained, held, false⟩
  | held, drained, chunk :: rest =>
    let (pieces, held) := cutPieces limit held chunk.size
    match countPieces limit limit pieces drained with
    | (drained, true) => ⟨[chunk], 1, drained, held, true⟩
    | (drained, false) =>
      let taken := takeUntil limit held drained rest
      { taken with chunks := chunk :: taken.chunks, asks := taken.asks + 1 }

/-- As `takeUntil`; without a limit everything is taken, and nothing held back. -/
def takeChunks (limit : Option Nat) (chunks : List Chunk) : Taken :=
  match limit with
  | some limit => takeUntil limit 0 0 chunks
  | none => ⟨chunks, chunks.length + 1, totalSize chunks, 0, false⟩

end HttpRetry
