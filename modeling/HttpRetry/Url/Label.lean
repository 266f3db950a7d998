import HttpRetry.Text.Ascii
import HttpRetry.Text.Composition
import HttpRetry.Text.Direction
import HttpRetry.Text.HostLetters
import HttpRetry.Text.Joining
import HttpRetry.Text.Script
import HttpRetry.Url.Punycode
set_option autoImplicit false

namespace HttpRetry.Url

/-- Why a label is refused. Positions count from one; labels are given by their code points. -/
inductive LabelFault where
  | empty
  | uncomposed
  | innerHyphens
  | outerHyphen
  | leadingMark
  | letter (point position : Nat) (label : List Nat)
  | joiner (point position : Nat) (label : List Nat)
  | place (point position : Nat) (label : List Nat)
  | firstDirection (label : List Nat)
  | intoLeftward (position : Nat)
  | intoRightward (position : Nat)
  | mixedNumbers
  | lastDirection
  /-- The mark of an encoded label, with nothing after it. -/
  | noContent
  | encodedHyphen
  | unreadable
  | tooLong
  deriving DecidableEq, Repr, Inhabited

namespace LabelFault

def pointName (n : Nat) : String :=
  "U+" ++ ((String.ofList (Text.hexDigits 4 n)).map Char.toUpper)

def message : LabelFault → String
  | .empty => "Empty Label"
  | .uncomposed => "Label must be in Normalization Form C"
  | .innerHyphens => "Label has disallowed hyphens in 3rd and 4th position"
  | .outerHyphen => "Label must not start or end with a hyphen"
  | .leadingMark => "Label begins with an illegal combining character"
  | .letter point position label =>
    "Codepoint " ++ pointName point ++ " at position " ++ toString position ++ " of " ++
      Text.quotedPoints label ++ " not allowed"
  | .joiner point position label =>
    "Joiner " ++ pointName point ++ " not allowed at position " ++ toString position ++ " in " ++
      Text.quotedPoints label
  | .place point position label =>
    "Codepoint " ++ pointName point ++ " not allowed at position " ++ toString position ++ " in " ++
      Text.quotedPoints label
  | .firstDirection label =>
    "First codepoint in label " ++ Text.quotedPoints label ++ " must be directionality L, R or AL"
  | .intoLeftward position =>
    "Invalid direction for codepoint at position " ++ toString position ++ " in a right-to-left label"
  | .intoRightward position =>
    "Invalid direction for codepoint at position " ++ toString position ++ " in a left-to-right label"
  | .mixedNumbers => "Can not mix numeral types in a right-to-left label"
  | .lastDirection => "Label ends with illegal codepoint directionality"
  | .noContent => "Malformed A-label, no Punycode eligible content found"
  | .encodedHyphen => "A-label must not end with a hyphen"
  | .unreadable => "Invalid A-label"
  | .tooLong => "Label too long"

def kindName : LabelFault → String
  | .letter .. => "InvalidCodepoint"
  | .joiner .. | .place .. => "InvalidCodepointContext"
  | .firstDirection _ | .intoLeftward _ | .intoRightward _ | .mixedNumbers | .lastDirection =>
    "IDNABidiError"
  | _ => "IDNAError"

end LabelFault

def joinsFrom (kinds : List Text.Joining) (s : List Char) : Bool :=
  ((s.dropWhile Text.isTransparent).head?.map fun c => kinds.contains (Text.joining c)).getD false

def isEasternDigit (c : Char) : Bool := 0x6F0 ≤ c.toNat && c.toNat ≤ 0x6F9

def isArabicDigit (c : Char) : Bool := 0x660 ≤ c.toNat && c.toNat ≤ 0x669

/-- Whether a character that is allowed in some places only may stand where it does; `before` begins
with its neighbour and runs back to the start of the label. -/
def fitsPlace (label before : List Char) (c : Char) (after : List Char) : Bool :=
  let next := fun (p : Char → Bool) (s : List Char) => (s.head?.map p).getD false
  match c.toNat with
  | 0x200C => next Text.isVirama before ||
      (joinsFrom [.onlyAfter, .both] before && joinsFrom [.onlyBefore, .both] after)
  | 0x200D => next Text.isVirama before
  | 0xB7 => before.head? = some 'l' && after.head? = some 'l'
  | 0x375 => next Text.isGreek after
  | 0x5F3 | 0x5F4 => next Text.isHebrew before
  | 0x30FB => label.any Text.isJapanese
  | _ =>
    if isArabicDigit c then !label.any isEasternDigit
    else isEasternDigit c && !label.any isArabicDigit

def isJoiner (c : Char) : Bool := c.toNat = 0x200C || c.toNat = 0x200D

def isPlaced (c : Char) : Bool :=
  [0xB7, 0x375, 0x5F3, 0x5F4, 0x30FB].contains c.toNat || isArabicDigit c || isEasternDigit c

def checkLetters (points : List Nat) (label : List Char) :
    (position : Nat) → (before : List Char) → List Char → Except LabelFault Unit
  | _, _, [] => .ok ()
  | position, before, c :: after =>
    if Text.isHostLetter c || fitsPlace label before c after then
      checkLetters points label (position + 1) (c :: before) after
    else
      let point := (points[position - 1]?).getD 0
      if isJoiner c then .error (.joiner point position points)
      else if isPlaced c then .error (.place point position points)
      else .error (.letter point position points)

def isNumber (d : Text.Direction) : Bool := d = .europeanNumber || d = .arabicNumber

/-- Checks a label that begins leftwards: nothing in it runs rightwards, it has numbers of one kind only,
and ends with a letter or a number, marks aside. -/
def checkLeftward : (position : Nat) → (number : Option Text.Direction) → (ends : Bool) →
    List Text.Direction → Except LabelFault Unit
  | _, _, ends, [] => if ends then .ok () else .error .lastDirection
  | position, number, ends, d :: rest =>
    if d = .rightward then .error (.intoLeftward position)
    else if isNumber d && number.isSome && number ≠ some d then .error .mixedNumbers
    else
      checkLeftward (position + 1) (if isNumber d then some d else number)
        (if d = .mark then ends else d = .leftward || isNumber d) rest

def checkDirections (points : List Nat) (label : List Char) : Except LabelFault Unit :=
  let directions := label.map Text.direction
  let isForeign := fun d => d = Text.Direction.leftward || d = .arabicNumber
  match directions.findIdx? isForeign with
  | none => .ok ()
  | some index =>
    match directions.head? with
    | some .leftward => checkLeftward 1 none false directions
    | some .rightward => .error (.intoRightward (index + 1))
    | _ => .error (.firstDirection points)

/-- Checks a label, given by its code points. A label may neither begin nor end with a hyphen, nor have
two as its third and fourth character, nor begin with a mark. -/
def checkLabel (points : List Nat) : Except LabelFault Unit := do
  let label := points.map Char.ofNat
  if label.isEmpty then throw .empty
  if !Text.isComposed label then throw .uncomposed
  if (label.drop 2).take 2 = ['-', '-'] then throw .innerHyphens
  if label.head? = some '-' || label.getLast? = some '-' then throw .outerHyphen
  if (label.head?.map Text.isMark).getD false then throw .leadingMark
  checkLetters points label 1 [] label
  checkDirections points label

def encodedMark : List Char := "xn--".toList

def isMarked (label : List Char) : Bool := encodedMark.isPrefixOf label

def checkEncoded (text : List Char) : Except LabelFault Unit :=
  if text.isEmpty then .error .noContent
  else if text.getLast? = some '-' then .error .encodedHyphen
  else
    match Punycode.decode? text with
    | none => .error .unreadable
    | some points => checkLabel points

def checkAsciiLabel (label : List Char) : Except LabelFault Unit :=
  if isMarked label then checkEncoded (label.drop encodedMark.length)
  else checkLabel (label.map Char.toNat)

def encodeLabel (label : List Char) : Except LabelFault (List Char) := do
  let encoded ← if Text.isAscii label then do
      checkAsciiLabel label
      pure label
    else do
      checkLabel (label.map Char.toNat)
      pure (encodedMark ++ Punycode.encode label)
  if 63 < encoded.length then throw .tooLong
  return encoded

end HttpRetry.Url
