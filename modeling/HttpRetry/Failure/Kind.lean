import HttpRetry.Text.Quoted
/-!
The kinds of failure that can end a send, the reading of a body or a policy's work, the families that
the retry loop tells apart, and the routines that some of them cannot leave.
-/
set_option autoImplicit false

namespace HttpRetry

inductive Family where
  | transport
  /-- Other failures of an HTTP exchange. -/
  | exchange
  /-- Failures of the program's own state, the misuse of streams among them. -/
  | runtime
  /-- Failures of the operating system. -/
  | system
  | general
  /-- What says that an iteration has come to its end, and below the same for one that may wait. -/
  | ending
  | asyncEnding
  /-- Not a failure of the work but an order to stop it. -/
  | interrupt
  deriving DecidableEq, Repr, Inhabited

inductive Wording where
  | plain
  | quoted
  | fixed (text : String)
  deriving DecidableEq, Repr, Inhabited

structure FailureKind where
  name : String
  family : Family
  wording : Wording := .plain
  /-- Failures of this kind count as false in a condition. -/
  falsy : Bool := false
  deriving DecidableEq, Repr, Inhabited

namespace FailureKind

def isTransport (k : FailureKind) : Bool := k.family = .transport

def isInterrupt (k : FailureKind) : Bool := k.family = .interrupt

/-- Whether a failure of this kind, met while a rejected body is released, is reported and dropped. -/
def isSwallowed (k : FailureKind) : Bool :=
  match k.family with
  | .transport | .exchange | .runtime | .system => true
  | .general | .ending | .asyncEnding | .interrupt => false

theorem isSwallowed_eq_false_of_isInterrupt {k : FailureKind} (h : k.isInterrupt = true) :
    k.isSwallowed = false := by
  have h' : k.family = .interrupt := by simpa [isInterrupt] using h
  simp [isSwallowed, h']

theorem isSwallowed_of_isTransport {k : FailureKind} (h : k.isTransport = true) :
    k.isSwallowed = true := by
  have h' : k.family = .transport := by simpa [isTransport] using h
  simp [isSwallowed, h']

def textOf (k : FailureKind) (message : Option String) : String :=
  match k.wording, message with
  | .fixed text, _ => text
  | .plain, some m => m
  | .quoted, some m => Text.quoted m
  | _, none => ""

def typeError : FailureKind := { name := "TypeError", family := .general }

def valueError : FailureKind := { name := "ValueError", family := .general }

def keyError : FailureKind := { name := "KeyError", family := .general, wording := .quoted }

def indexError : FailureKind := { name := "IndexError", family := .general }

def attributeError : FailureKind := { name := "AttributeError", family := .general }

def assertionError : FailureKind := { name := "AssertionError", family := .general }

def runtimeError : FailureKind := { name := "RuntimeError", family := .runtime }

def stopIteration : FailureKind := { name := "StopIteration", family := .ending }

def stopAsyncIteration : FailureKind := { name := "StopAsyncIteration", family := .asyncEnding }

def osError : FailureKind := { name := "OSError", family := .system }

def encodeError : FailureKind := { name := "UnicodeEncodeError", family := .general }

def overflowError : FailureKind := { name := "OverflowError", family := .general }

def invalidURL : FailureKind := { name := "InvalidURL", family := .general }

def frozenField : FailureKind := { name := "FrozenInstanceError", family := .general }

def cancelled : FailureKind := { name := "CancelledError", family := .interrupt }

def retryBase : FailureKind := { name := "RetryTransportError", family := .general }

def retryAborted : FailureKind := { name := "RetryAborted", family := .general }

def retryLimitExceeded : FailureKind := { name := "RetryLimitExceeded", family := .general }

def streamConsumed : FailureKind :=
  { name := "StreamConsumed", family := .runtime, wording := .fixed
      ("Attempted to read or stream some content, but the content has already been streamed. " ++
        "For requests, this could be due to passing a generator as request content, and then " ++
        "receiving a redirect response or a secondary request as part of an authentication flow." ++
        "For responses, this could be due to attempting to stream the response content more than " ++
        "once.") }

def streamClosed : FailureKind :=
  { name := "StreamClosed", family := .runtime, wording := .fixed
      "Attempted to read or stream content, but the stream has been closed." }

def unreadText (part : String) : String :=
  "Attempted to access streaming " ++ part ++ " content, without having called \x60read()\x60."

def transportNames : List String :=
  ["TransportError", "TimeoutException", "ConnectTimeout", "ReadTimeout", "WriteTimeout",
    "PoolTimeout", "NetworkError", "ConnectError", "ReadError", "WriteError", "CloseError",
    "ProxyError", "UnsupportedProtocol", "ProtocolError", "LocalProtocolError",
    "RemoteProtocolError"]

def exchangeNames : List String :=
  ["HTTPError", "RequestError", "HTTPStatusError", "DecodingError", "TooManyRedirects"]

def runtimeNames : List String :=
  ["StreamError", "NotImplementedError", "RecursionError"]

def systemNames : List String :=
  ["ConnectionError", "ConnectionResetError", "BrokenPipeError", "TimeoutError",
    "PermissionError", "BlockingIOError"]

def generalNames : List String :=
  ["CookieConflict", "LookupError", "ZeroDivisionError", "ArithmeticError", "EOFError",
    "Exception", "PolicyError"]

def interruptNames : List String :=
  ["KeyboardInterrupt", "SystemExit", "BaseException"]

def all : List FailureKind :=
  transportNames.map (⟨·, .transport, .plain, false⟩) ++
  exchangeNames.map (⟨·, .exchange, .plain, false⟩) ++
  runtimeNames.map (⟨·, .runtime, .plain, false⟩) ++
  systemNames.map (⟨·, .system, .plain, false⟩) ++
  generalNames.map (⟨·, .general, .plain, false⟩) ++
  interruptNames.map (⟨·, .interrupt, .plain, false⟩) ++
  [ { name := "FalsyTransportError", family := .transport, falsy := true },
    streamConsumed, streamClosed,
    { name := "ResponseNotRead", family := .runtime, wording := .fixed (unreadText "response") },
    { name := "RequestNotRead", family := .runtime, wording := .fixed (unreadText "request") },
    runtimeError, stopIteration, stopAsyncIteration, osError, typeError, valueError, keyError,
    indexError, attributeError, assertionError, invalidURL, cancelled, retryBase]

def ofName? (name : String) : Option FailureKind := all.find? (·.name = name)

end FailureKind

inductive Routine where
  | function
  | coroutine
  | generator
  | asyncGenerator
  deriving DecidableEq, Repr, Inhabited

/-- What is raised in place of a failure that must not leave a routine, where its kind would be taken
for the routine's own end. -/
def Routine.objection? : Routine → Family → Option String
  | .coroutine, .ending => some "coroutine raised StopIteration"
  | .generator, .ending => some "generator raised StopIteration"
  | .asyncGenerator, .ending => some "async generator raised StopIteration"
  | .asyncGenerator, .asyncEnding => some "async generator raised StopAsyncIteration"
  | _, _ => none

namespace Routine

@[simp] theorem objection?_function (family : Family) : function.objection? family = none := by
  cases family <;> rfl

@[simp] theorem objection?_general (routine : Routine) : routine.objection? .general = none := by
  cases routine <;> rfl

@[simp] theorem objection?_interrupt (routine : Routine) : routine.objection? .interrupt = none := by
  cases routine <;> rfl

end Routine

end HttpRetry
