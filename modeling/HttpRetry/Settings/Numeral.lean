import HttpRetry.Number.Binary64
import HttpRetry.Settings.Complaint
import HttpRetry.Text.Blank
import HttpRetry.Text.Numeral
/-!
Numbers that settings are given as text. A whole number is a plain literal, or becomes one by tidying:
blanks around it, a plus sign, zeros before it, a fraction of zeros and single underscores are taken
away. A number with a fraction may have blanks around it, or else single underscores.
-/
set_option autoImplicit false

namespace HttpRetry.Settings

/-- The text without its underscores, unless one of them begins or ends it or stands beside another. -/
def withoutUnderscores? (text : List Char) : Option (List Char) :=
  let groups := text.splitOn '_'
  if groups.length ≤ 1 || groups.any List.isEmpty then none else some groups.flatten

def mostIntChars : Nat := 4300

def literalInt (text : List Char) : Except Complaint Int :=
  let (negative, body) :=
    match text with
    | '-' :: rest => (true, rest)
    | _ => (false, text)
  let digits := body.takeWhile Char.isDigit
  let ended := digits.length = body.length
  match digits with
  | [] => .error .intParsing
  | ['0'] => if ended then .ok 0 else .error .intParsing
  | '0' :: _ => .error .intParsing
  | _ =>
    if mostIntChars < digits.length + (if negative then 1 else 0) then .error .intParsingSize
    else if ended then
      .ok (if negative then -Text.natOfDigits digits else Text.natOfDigits digits)
    else .error .intParsing

/-- What follows zeros and the underscores among them; of nothing but zeros the last is kept, and a
zero before a point. `previous` is the character before. -/
def afterZeros? (previous : Char) : List Char → Option (List Char)
  | [] => some [previous]
  | c :: rest =>
    if c = '0' || c = '_' then afterZeros? c rest
    else if c.isDigit || c = '-' then some (c :: rest)
    else if c = '.' then some (previous :: c :: rest)
    else none

def withoutZeros? : List Char → Option (List Char)
  | '0' :: rest => afterZeros? '0' rest
  | c :: rest => if c.isDigit || c = '-' then some (c :: rest) else none
  | [] => none

/-- The text before a point that only zeros follow, at least one of them. -/
def withoutFraction (text : List Char) : List Char :=
  let whole := text.takeWhile (· ≠ '.')
  match text.drop whole.length with
  | '.' :: '0' :: zeros => if zeros.all (· = '0') then whole else text
  | _ => text

def withoutPlus : List Char → List Char
  | '+' :: rest => rest
  | text => text

def tidyInt? (text : List Char) : Option (List Char) :=
  (withoutZeros? (withoutPlus (Text.trim text))).map fun rest =>
    let whole := withoutFraction rest
    (withoutUnderscores? whole).getD whole

def intOfText (s : String) : Except Complaint Int :=
  match literalInt s.toList, tidyInt? s.toList with
  | .error .intParsing, some tidy => literalInt tidy
  | result, _ => result

/-! ### Numbers with a fraction -/

def exponent? (text : List Char) : Option Int :=
  let (negative, digits) := Text.splitSign text
  if digits.isEmpty || !digits.all Char.isDigit then none
  else some (if negative then -Text.natOfDigits digits else Text.natOfDigits digits)

/-- Digits with an optional point among or beside them, and an optional exponent. -/
def decimal? (negative : Bool) (text : List Char) : Option Decimal := do
  let mantissa := text.takeWhile fun c => c ≠ 'e' && c ≠ 'E'
  let whole := mantissa.takeWhile (· ≠ '.')
  let places := (mantissa.drop whole.length).drop 1
  let exponent ← match text.drop mantissa.length with
    | [] => some 0
    | _ :: rest => exponent? rest
  if (whole ++ places).isEmpty || !(whole ++ places).all Char.isDigit then none
  else some ⟨negative, Text.natOfDigits (whole ++ places), exponent - places.length⟩

/-- A numeral, or one of the words for the values that are not finite. -/
def literalFloat? (text : List Char) : Option Binary64 :=
  let (negative, body) := Text.splitSign text
  let word := String.ofList (body.map Char.toLower)
  if word = "inf" || word = "infinity" then some (.infinity negative)
  else if word = "nan" then some .nan
  else (decimal? negative body).map .ofDecimal

def floatOfText (s : String) : Except Complaint Binary64 :=
  let grouped := (withoutUnderscores? s.toList).bind literalFloat?
  match (literalFloat? (Text.trim s.toList)).or grouped with
  | some x => .ok x
  | none => .error .floatParsing

end HttpRetry.Settings
