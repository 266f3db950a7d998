import HttpRetry.Json.Parser
import HttpRetry.Settings.EnvFile
import HttpRetry.Settings.Validation
import HttpRetry.Text.Case
/-!
Where settings come from: explicit values, then environment variables, then a file of variables, then the
defaults. Names match without regard to case.
-/
set_option autoImplicit false

namespace HttpRetry.Settings

def fieldNames : List String :=
  ["LOG_LEVEL", "ENVIRONMENT", "TRANSPORT_LOG_LEVEL", "BODY_DRAIN_LIMIT", "DEFAULT_MAX_ATTEMPTS",
    "DEFAULT_RETRY_STATUSES", "HTTP_TIMEOUT", "METRICS_ENABLED"]

def fieldOf? (name : String) : Option String :=
  fieldNames.find? fun field => Text.lower field = Text.lower name

inductive SourceError where
  /-- A list in a source of texts that cannot be read. -/
  | unreadable (source : String)
  /-- A text whose brackets are nested too deeply, with the bracket that goes too far. -/
  | tooDeep (bracket : Char)
  | invalid (errors : List FieldError)
  deriving Repr

namespace SourceError

def message : SourceError → String
  | .unreadable source =>
    "error parsing value for field \"" ++ statusField ++ "\" from source \"" ++ source ++ "\""
  | .tooDeep bracket =>
    "maximum recursion depth exceeded while decoding a JSON " ++
      (if bracket = '[' then "array" else "object") ++ " from a unicode string"
  | .invalid _ => ""

def kindName : SourceError → String
  | .unreadable _ => "SettingsError"
  | .tooDeep _ => "RecursionError"
  | .invalid _ => "ValidationError"

end SourceError

/-- Values that are given by name, under the names of the fields. A name written as the field's own
comes before one that differs in case, and of those the first counts. -/
def collect (entries : Members) : Members :=
  fieldNames.filterMap fun field =>
    ((entries.get? field).or
      ((entries.find? fun (name, _) => fieldOf? name = some field).map (·.2))).map fun value =>
        (field, value)

/-- Texts that are given by name, under the names of the fields; the last of several counts. -/
def collectTexts (entries : List (String × String)) : Members :=
  entries.foldl (fun acc (name, text) =>
    match fieldOf? name with
    | some field => acc.put field (.str text)
    | none => acc) []

mutual

def isReadable : Json → Bool
  | .int n => n.natAbs < pow10 Text.mostDigits
  | .arr items => areReadable items
  | .obj members => membersReadable members
  | _ => true

def areReadable : List Json → Bool
  | [] => true
  | item :: rest => isReadable item && areReadable rest

def membersReadable : List (String × Json) → Bool
  | [] => true
  | (_, value) :: rest => isReadable value && membersReadable rest

end

def mostNested : Nat := 985

/-- The bracket that opens one level too many, if there is one; brackets in quotes do not count. -/
def tooDeep? : (depth : Nat) → (inQuotes : Bool) → List Char → Option Char
  | _, _, [] => none
  | depth, true, '\\' :: _ :: rest => tooDeep? depth true rest
  | depth, true, c :: rest => tooDeep? depth (c ≠ '\x22') rest
  | depth, false, c :: rest =>
    if c = '[' ∨ c = '\x7b' then
      if depth = mostNested then some c else tooDeep? (depth + 1) false rest
    else if c = ']' ∨ c = '\x7d' then tooDeep? (depth - 1) false rest
    else tooDeep? depth (c = '\x22') rest

/-- A source of texts, in which a list is written as JSON and `null` gives no value. -/
def ofTexts (source : String) (entries : List (String × String)) :
    Except SourceError Members :=
  let given := collectTexts entries
  match given.get? statusField with
  | some (.str text) =>
    match tooDeep? 0 false text.toList with
    | some bracket => .error (.tooDeep bracket)
    | none =>
      match (Json.parse? text).filter isReadable with
      | none => .error (.unreadable source)
      | some .null => .ok (given.filter (·.1 ≠ statusField))
      | some value => .ok (given.put statusField value)
  | _ => .ok given

/-- The bindings of a file by name, the last value of a name in the place of its first. A value may
refer to the environment and to the bindings before it, of which the latter count. -/
def fileEntries (env : List (String × String)) (text : String) : List (String × Option String) :=
  (EnvFile.parse text).foldl (fun acc binding =>
    let lookup := fun name => (List.lookup name acc).or ((List.lookup name env).map some)
    putEntry acc binding.key (binding.value.map (EnvFile.expand lookup))) []
where
  putEntry : List (String × Option String) → String → Option String →
      List (String × Option String)
    | [], key, value => [(key, value)]
    | (k, v) :: rest, key, value =>
      if k = key then (k, value) :: rest else (k, v) :: putEntry rest key value

/-- The texts of a file by field; a name without a value hides an earlier value of its field. -/
def fileTexts (env : List (String × String)) (text : String) : List (String × String) :=
  (fileEntries env text).foldl (fun acc (name, value) =>
    let field := Text.lower name
    let others := acc.filter fun (n, _) => Text.lower n ≠ field
    match value with
    | some v => others ++ [(name, v)]
    | none => others) []

/-- Reads the sources from the lowest in rank to the highest, later values replacing earlier ones. -/
def load (env : List (String × String)) (file : Option String) (kwargs : Members) :
    Except SourceError Settings := do
  let fromEnv ← ofTexts "EnvSettingsSource" env
  let fromFile ← ofTexts "DotEnvSettingsSource" ((file.map (fileTexts env)).getD [])
  match validate ((fromFile.putAll fromEnv).putAll (collect kwargs)) with
  | .ok settings => .ok settings
  | .error errors => .error (.invalid errors)

end HttpRetry.Settings
