import HttpRetry.Json.Display
import HttpRetry.Number.Places
/-!
Messages with slots for arguments. A slot is a percent sign, an optional name in parentheses, flags, a
width, a precision, and a letter for the form in which its argument is shown; two percent signs stand
for one.
-/
set_option autoImplicit false

namespace HttpRetry.Logging.Template

inductive Measure where
  | absent
  | written (n : Nat)
  | asked
  deriving DecidableEq, Repr, Inhabited

structure Slot where
  key : Option String
  flags : List Char
  width : Measure
  precision : Measure
  form : Char
  deriving Repr, Inhabited

namespace Slot

def left (s : Slot) : Bool := s.flags.contains '-'

def alternate (s : Slot) : Bool := s.flags.contains '#'

def zeros (s : Slot) : Bool := s.flags.contains '0'

end Slot

def untilClosed? : (depth : Nat) → List Char → Option (List Char × List Char)
  | _, [] => none
  | depth, c :: rest =>
    if c = ')' ∧ depth ≤ 1 then some ([], rest)
    else
      let depth := if c = '(' then depth + 1 else if c = ')' then depth - 1 else depth
      (untilClosed? depth rest).map fun (inside, rest) => (c :: inside, rest)

def key? : List Char → Option (Option String × List Char)
  | '(' :: rest => (untilClosed? 1 rest).map fun (name, rest) => (some (String.ofList name), rest)
  | rest => some (none, rest)

def isFlag (c : Char) : Bool := ['-', '+', ' ', '#', '0'].contains c

def measure : List Char → Measure × List Char
  | '*' :: rest => (.asked, rest)
  | text =>
    let digits := text.takeWhile Char.isDigit
    (if digits.isEmpty then .absent
      else .written (digits.foldl (fun n c => 10 * n + (c.toNat - 48)) 0), text.drop digits.length)

def precision : List Char → Measure × List Char
  | '.' :: rest =>
    match measure rest with
    | (.absent, rest) => (.written 0, rest)
    | found => found
  | rest => (.absent, rest)

def skipSize : List Char → List Char
  | 'h' :: rest | 'l' :: rest | 'L' :: rest => rest
  | rest => rest

def slot? (text : List Char) : Option (Slot × List Char) := do
  let (key, rest) ← key? text
  let flags := rest.takeWhile isFlag
  let (width, rest) := measure (rest.drop flags.length)
  let (precision, rest) := precision rest
  match skipSize rest with
  | form :: rest => some (⟨key, flags, width, precision, form⟩, rest)
  | [] => none

def asciiOnly (s : List Char) : List Char :=
  s.flatMap fun c => if c.toNat < 128 then [c] else Text.hexEscape c

def wholePart? : Json → Option Int
  | .int n => some n
  | .bool b => some (if b then 1 else 0)
  | .real x =>
    match x.toBinary64 with
    | .finite negative significand exponent =>
      let n := significand * pow2 exponent.toNat / pow2 (-exponent).toNat
      some (if negative then -n else n)
    | _ => none
  | _ => none

def index? : Json → Option Int
  | .real _ => none
  | value => wholePart? value

def fraction? : Json → Option Binary64
  | .int n =>
    let x := Binary64.ofDecimal (.ofInt n)
    if x.isFinite then some x else none
  | .bool b => some (.ofDecimal (.ofInt (if b then 1 else 0)))
  | .real x => some x.toBinary64
  | _ => none

def character? : Json → Option (List Char)
  | .str s => if s.length = 1 then some s.toList else none
  | value => do
    let n ← index? value
    if 0 ≤ n ∧ n.toNat.isValidChar then some [Char.ofNat n.toNat] else none

/-- An argument as it is shown before it is brought to its width: a sign, the mark of its base, and the
rest; `numeric` tells whether zeros may fill it up. -/
structure Shown where
  numeric : Bool
  sign : List Char
  mark : List Char
  body : List Char

def upperIf (upper : Bool) (s : List Char) : List Char := if upper then s.map Char.toUpper else s

def signOf (s : Slot) (negative : Bool) : List Char :=
  if negative then ['-']
  else if s.flags.contains '+' then ['+'] else if s.flags.contains ' ' then [' '] else []

def showWhole (s : Slot) (precision : Option Nat) (base : Nat) (n : Int) : Shown :=
  let digits := Nat.toDigits base n.natAbs
  let mark := if s.alternate && base ≠ 10 then ['0', if base = 8 then 'o' else 'x'] else []
  { numeric := true
    sign := signOf s (n < 0)
    mark := upperIf (s.form = 'X') mark
    body := upperIf (s.form = 'X')
      (List.replicate (precision.getD 0 - digits.length) '0' ++ digits) }

def showFraction (s : Slot) (precision : Option Nat) (form : Places.Form) (x : Binary64) : Shown :=
  let text := upperIf s.form.isUpper (Places.text form (precision.getD 6) s.alternate x)
  let negative := text.head? = some '-'
  ⟨true, signOf s negative, [], if negative then text.drop 1 else text⟩

def showText (precision : Option Nat) (text : List Char) : Shown :=
  ⟨false, [], [], match precision with
    | some n => text.take n
    | none => text⟩

def show? (s : Slot) (precision : Option Nat) (value : Json) : Option Shown :=
  match s.form with
  | 's' => some (showText precision value.plain.toList)
  | 'r' => some (showText precision value.display.toList)
  | 'a' => some (showText precision (asciiOnly value.display.toList))
  | 'd' | 'i' | 'u' => (wholePart? value).map (showWhole s precision 10)
  | 'o' => (index? value).map (showWhole s precision 8)
  | 'x' | 'X' => (index? value).map (showWhole s precision 16)
  | 'e' | 'E' => (fraction? value).map (showFraction s precision .scientific)
  | 'f' | 'F' => (fraction? value).map (showFraction s precision .fixed)
  | 'g' | 'G' => (fraction? value).map (showFraction s precision .general)
  | 'c' => (character? value).map (showText none)
  | _ => none

def fit (left zeros : Bool) (width : Nat) (shown : Shown) : List Char :=
  let length := shown.sign.length + shown.mark.length + shown.body.length
  let gap := width - length
  let head := shown.sign ++ shown.mark
  if left then head ++ shown.body ++ List.replicate gap ' '
  else if zeros && shown.numeric then head ++ List.replicate gap '0' ++ shown.body
  else List.replicate gap ' ' ++ head ++ shown.body

/-- What the slots are filled from: the values that come next, and the names, if there are any. -/
structure Supply where
  values : List Json
  names : Option Members

def Supply.of : List Json → Supply
  | [.obj []] => ⟨[.obj []], none⟩
  | [.obj members] => ⟨[.obj members], some members⟩
  | values => ⟨values, none⟩

def Supply.next? (s : Supply) : Option (Json × Supply) :=
  match s.values with
  | value :: rest => some (value, { s with values := rest })
  | [] => none

def Supply.isSpent (s : Supply) : Bool := s.names.isSome || s.values.isEmpty

def Supply.select? (s : Supply) : Option String → Option Supply
  | none => some s
  | some key => do
    let value ← (← s.names).get? key
    return { s with values := [value] }

def wantsInt? : Json → Option Int
  | .int n => some n
  | .bool b => some (if b then 1 else 0)
  | _ => none

def measured? (n : Int) : Option Int := if n.natAbs < pow2 31 then some n else none

def Supply.measure? (s : Supply) : Measure → Option (Option Int × Supply)
  | .absent => some (none, s)
  | .written n => (measured? n).map fun n => (some n, s)
  | .asked => do
    let (value, s) ← s.next?
    return (some (← measured? (← wantsInt? value)), s)

/-- A negative width asks for blanks at the end; a negative precision counts as zero. -/
def fillSlot? (slot : Slot) (s : Supply) : Option (List Char × Supply) := do
  let s ← s.select? slot.key
  let (width, s) ← s.measure? slot.width
  let (precision, s) ← s.measure? slot.precision
  let (value, s) ← s.next?
  let shown ← show? slot (precision.map Int.toNat) value
  let width := width.getD 0
  return (fit (slot.left || width < 0) slot.zeros width.natAbs shown, s)

/-- The message; every slot takes a character at least, so that the text bounds their number. -/
def fill? : (fuel : Nat) → Supply → List Char → Option (List Char)
  | _, s, [] => if s.isSpent then some [] else none
  | 0, _, _ => none
  | fuel + 1, s, '%' :: '%' :: rest => (fill? fuel s rest).map ('%' :: ·)
  | fuel + 1, s, '%' :: rest => do
    let (slot, rest) ← slot? rest
    let (text, s) ← fillSlot? slot s
    return text ++ (← fill? fuel s rest)
  | fuel + 1, s, c :: rest => (fill? fuel s rest).map (c :: ·)

def message? (template : String) (args : List Json) : Option String :=
  if args.isEmpty then some template
  else (fill? template.length (.of args) template.toList).map String.ofList

end HttpRetry.Logging.Template
