import HttpRetry.Logging.LevelName
import HttpRetry.Logging.Line
import HttpRetry.Logging.Template
import HttpRetry.Settings
import HttpRetry.Text.Lines
/-!
The logging of a process: the loggers with the levels of their own, the handler that prints, and what is
added to every event. Loggers form a tree by the dots of their names, and one without a level takes the
level of the nearest above it that has one. Configuring sets the levels and the handler from the settings.
-/
set_option autoImplicit false

namespace HttpRetry.Logging

structure Handler where
  level : Nat
  /-- Whether events are printed as JSON. -/
  production : Bool
  deriving DecidableEq, Repr, Inhabited

structure Setup where
  root : Nat := 30
  /-- The loggers that have been asked for, with the levels of their own, the latest first; 0 is none. -/
  loggers : List (String × Nat) := []
  /-- The handlers of the root. -/
  handlers : List Handler := []
  /-- Fields that are added to every event that has none of the name. -/
  context : Members := []
  deriving Repr, Inhabited

def clientLogger : String := "httpx"

def networkLogger : String := "httpcore"

def setupLogger : String := "roundtrip_retry.logging_config"

/-- Clients and connections report everything they do; only warnings and worse are let through. -/
def quietLevel : Nat := 30

def now : String := "T"

def loggerName (name : String) : String := if name = "" then "root" else name

/-- The fields that connect an event with its record; they are not printed. -/
def recordFields : List String := ["_record", "_from_structlog"]

namespace Handler

def render? (h : Handler) (event : Members) : Option String :=
  let event := event.filter fun (name, _) => !recordFields.contains name
  if h.production then some (json (event.filter (·.1 ≠ "exc_info"))) else console? event

def written (h : Handler) (event : Members) : List String :=
  ((h.render? event).map fun text => Text.shownLines (text ++ "\n")).getD []

def print (h : Handler) (level : Nat) (event : Members) : List String :=
  if h.level ≤ level then h.written event else []

end Handler

namespace Setup

def own (s : Setup) (name : String) : Nat := (s.loggers.lookup name).getD 0

def setLevel (s : Setup) (name : String) (level : Nat) : Setup :=
  { s with loggers := (name, level) :: s.loggers }

/-- Makes a logger of a name that has none yet. The root's is always there. -/
def register (s : Setup) (name : String) : Setup :=
  if loggerName name = "root" ∨ (s.loggers.lookup name).isSome then s else s.setLevel name 0

/-- The level from above of a logger whose name is given backwards. The logger above has the longest part
of the name before a dot that is a logger's. After a part that is none's, the search for a dot leaves
out the character before the last one. -/
def inherited (s : Setup) : List Char → Nat
  | '.' :: c :: rest =>
    match s.loggers.lookup (String.ofList (c :: rest).reverse) with
    | some 0 => s.inherited (c :: rest)
    | some level => level
    | none => s.inherited rest
  | _ :: rest => s.inherited rest
  | [] => s.root

/-- The level that an event must have to pass a logger. -/
def threshold (s : Setup) (name : String) : Nat :=
  if s.own name = 0 then s.inherited name.toList.reverse else s.own name

def transport (s : Setup) : Nat := s.own transportLogger

def client (s : Setup) : Nat := s.own clientLogger

def network (s : Setup) : Nat := s.own networkLogger

def handler (s : Setup) : Option Nat := s.handlers.head?.map (·.level)

def complete (name : String) (level : Level) (event : Members) : Members :=
  tagName name
    (((event.put "level" (.str level.name)).put "logger" (.str name)).put "timestamp" (.str now))

def addContext (s : Setup) (event : Members) : Members :=
  s.context.foldl (fun acc (key, value) =>
    if (acc.get? key).isSome then acc else acc.put key value) event

def emit (s : Setup) (name : String) (level : Level) (event : Members) : List String :=
  if s.threshold name ≤ level.number then
    s.handlers.flatMap fun handler =>
      handler.print level.number (complete (loggerName name) level event)
  else []

/-- An event with fields: bound ones, given ones, and the event's text. Whatever is given as its record
must be one; no value is. -/
def emitEvent (s : Setup) (name : String) (level : Level) (bound fields : Members)
    (event : String) : Except FailureSpec (List String) :=
  let event := s.addContext ((bound.putAll fields).put "event" (.str event))
  match event.get? "_record" with
  | none | some .null => .ok (s.emit name level event)
  | some value => .error (lacking value "name")

def emitMessage (s : Setup) (name : String) (level : Level) (template : String)
    (args : List Json) : List String :=
  match Template.message? template args with
  | some message => s.emit name level (s.addContext [("event", .str message)])
  | none => []

def emitNotice (s : Setup) (entry : LogEntry) : Except FailureSpec (List String) :=
  s.emitEvent entry.notice.loggerName entry.notice.level
    ((entry.request.map boundFields).getD []) entry.notice.fields entry.notice.event

def announce (s : Setup) (settings : Settings) : Except FailureSpec (List String) :=
  s.emitEvent setupLogger .debug []
    [("log_level", settings.logLevel.json .str),
      ("transport_log_level", .str (LevelValue.nameOf s.transport)),
      ("renderer", .str (if s.handlers.any (·.production) then "json" else "console"))]
    "Logging configured"

def textOf (member : String) : Entry String → Except FailureSpec String
  | .checked text | .unchecked (.str text) => .ok text
  | .unchecked value => .error (lacking value member)

/-- The levels that settings ask for: of the root, and of the transport's loggers, which follow the
root unless they are given a level of their own. -/
def levels (settings : Settings) : Except FailureSpec (LevelValue × LevelValue) := do
  let root := LevelValue.ofName (← textOf "upper" settings.logLevel)
  match settings.transportLogLevel with
  | .checked none => return (root, root)
  | .checked (some name) | .unchecked (.str name) =>
    return (root, if name = "" then root else .ofName name)
  | .unchecked value =>
    if value.truthy then throw (lacking value "upper") else return (root, root)

def isProduction (settings : Settings) : Except FailureSpec Bool :=
  (fun name => decide (Text.lower name = "production")) <$> textOf "lower" settings.environment

def settle (s : Setup) (handler : Handler) (root transport : Nat) : Setup :=
  let cleared : Setup := { s with root, handlers := [handler] }
  ((cleared.setLevel transportLogger transport).setLevel clientLogger
    (max root quietLevel)).setLevel networkLogger (max root quietLevel)

/-- Replaces the handlers and the levels; nothing changes if the settings cannot be used. -/
def configure (s : Setup) (settings : Settings) : Except FailureSpec Setup := do
  let (root, transport) ← levels settings
  let production ← isProduction settings
  let level ← (← LevelValue.lesser root transport).handlerLevel
  match root, transport with
  | .number root, .number transport => return s.settle ⟨level, production⟩ root transport
  | _, _ => throw (LevelValue.incomparable transport root)

end Setup

end HttpRetry.Logging
