import HttpRetry.Text.Blank
/-!
Files of environment variables: lines of the form `KEY=value`, with an optional `export`, comments, and
values in quotes that may run over several lines. A line that cannot be read is passed over.
-/
set_option autoImplicit false

namespace HttpRetry.EnvFile

def isLineBlank (c : Char) : Bool := Text.isSpacing c && c ≠ '\n' && c ≠ '\r'

def skipBlanks (text : List Char) : List Char := text.dropWhile isLineBlank

def restOfLine (text : List Char) : List Char :=
  (text.dropWhile fun c => c ≠ '\n' && c ≠ '\r').drop 1

def skipExport (text : List Char) : List Char :=
  let word := "export".toList
  if word.isPrefixOf text && ((text.drop word.length).head?.map isLineBlank).getD false then
    skipBlanks (text.drop word.length)
  else text

def isKeyChar (c : Char) : Bool := c ≠ '=' && c ≠ '#' && !Text.isSpacing c

def key? : List Char → Option (Option (List Char) × List Char)
  | '#' :: rest => some (none, '#' :: rest)
  | '\x27' :: rest =>
    let name := rest.takeWhile (· ≠ '\x27')
    match name, rest.drop name.length with
    | _ :: _, _ :: tail => some (some name, tail)
    | _, _ => none
  | text =>
    let name := text.takeWhile isKeyChar
    if name.isEmpty then none else some (some name, text.drop name.length)

/-- A quoted value as it is written, without its quotes, and what follows. A backslash and the character
after it belong together. -/
def quotedValue? (quote : Char) : List Char → Option (List Char × List Char)
  | [] => none
  | '\\' :: c :: rest => (quotedValue? quote rest).map fun (value, tail) => ('\\' :: c :: value, tail)
  | c :: rest =>
    if c = quote then some ([], rest)
    else (quotedValue? quote rest).map fun (value, tail) => (c :: value, tail)

def singleEscape? : Char → Option Char
  | '\\' => some '\\'
  | '\x27' => some '\x27'
  | _ => none

def doubleEscape? : Char → Option Char
  | '\\' => some '\\'
  | '\x27' => some '\x27'
  | '\x22' => some '\x22'
  | 'a' => some '\x07'
  | 'b' => some '\x08'
  | 'f' => some '\x0c'
  | 'n' => some '\n'
  | 'r' => some '\r'
  | 't' => some '\t'
  | 'v' => some '\x0b'
  | _ => none

def unescape (escape? : Char → Option Char) : List Char → List Char
  | '\\' :: c :: rest =>
    match escape? c with
    | some d => d :: unescape escape? rest
    | none => '\\' :: unescape escape? (c :: rest)
  | c :: rest => c :: unescape escape? rest
  | [] => []

def commentFollows (text : List Char) : Bool :=
  (text.head?.map Text.isSpacing).getD false &&
    (text.dropWhile Text.isSpacing).head? = some '#'

def beforeComment : List Char → List Char
  | [] => []
  | c :: rest => if commentFollows (c :: rest) then [] else c :: beforeComment rest

def value? (text : List Char) : Option (List Char × List Char) :=
  match skipBlanks text with
  | '\x27' :: rest =>
    (quotedValue? '\x27' rest).map fun (value, tail) => (unescape singleEscape? value, tail)
  | '\x22' :: rest =>
    (quotedValue? '\x22' rest).map fun (value, tail) => (unescape doubleEscape? value, tail)
  | _ =>
    let line := text.takeWhile fun c => c ≠ '\n' && c ≠ '\r'
    some (Text.trimBy Text.isSpacing (beforeComment line), text.drop line.length)

def endOfLine? (text : List Char) : Option (List Char) :=
  let text := skipBlanks text
  let text :=
    match text with
    | '#' :: _ => text.dropWhile fun c => c ≠ '\n' && c ≠ '\r'
    | _ => text
  match text with
  | [] => some []
  | '\r' :: '\n' :: rest => some rest
  | c :: rest => if c = '\n' || c = '\r' then some rest else none

structure Binding where
  key : String
  value : Option String
  deriving DecidableEq, Repr

/-- A reading that fails leaves the text from the place where it failed. -/
def orStop {α : Type} (text : List Char) : Option α → Except (List Char) α
  | some a => .ok a
  | none => .error text

def binding (text : List Char) : Except (List Char) (Option Binding × List Char) := do
  let text := skipExport text
  let (key, text) ← orStop text (key? text)
  let text := skipBlanks text
  let (value, text) ← match text with
    | '=' :: rest =>
      (orStop (skipBlanks rest) (value? rest)).map fun (value, tail) => (some value, tail)
    | _ => .ok (none, text)
  let text ← orStop text (endOfLine? text)
  return (key.map fun k => ⟨String.ofList k, value.map String.ofList⟩, text)

def bindings : (fuel : Nat) → List Char → List Binding
  | 0, _ => []
  | fuel + 1, text =>
    let text := text.dropWhile Text.isSpacing
    if text.isEmpty then []
    else
      match binding text with
      | .ok (some binding, rest) => binding :: bindings fuel rest
      | .ok (none, rest) => bindings fuel rest
      | .error rest => bindings fuel (restOfLine rest)

def unifyLines : List Char → List Char
  | '\r' :: '\n' :: rest => '\n' :: unifyLines rest
  | '\r' :: rest => '\n' :: unifyLines rest
  | c :: rest => c :: unifyLines rest
  | [] => []

def reference? : List Char → Option (List Char × List Char × List Char)
  | '$' :: '\x7b' :: rest =>
    let name := rest.takeWhile fun c => c ≠ '\x7d' && c ≠ ':'
    match rest.drop name.length with
    | '\x7d' :: tail => some (name, [], tail)
    | ':' :: '-' :: more =>
      let default := more.takeWhile (· ≠ '\x7d')
      match more.drop default.length with
      | _ :: tail => some (name, default, tail)
      | [] => none
    | _ => none
  | _ => none

/-- Puts in the values of variables. One that is unknown has its default, and one that is known without
a value is empty; each takes a character at least, so that the length of the text bounds their number. -/
def expandAll (lookup : String → Option (Option String)) : (fuel : Nat) → List Char → List Char
  | 0, text => text
  | _, [] => []
  | fuel + 1, c :: text =>
    match reference? (c :: text) with
    | some (name, default, rest) =>
      let value := ((lookup (String.ofList name)).getD (some (String.ofList default))).getD ""
      value.toList ++ expandAll lookup fuel rest
    | none => c :: expandAll lookup fuel text

def expand (lookup : String → Option (Option String)) (text : String) : String :=
  String.ofList (expandAll lookup text.length text.toList)

def parse (text : String) : List Binding := bindings (text.length + 1) (unifyLines text.toList)

end HttpRetry.EnvFile
