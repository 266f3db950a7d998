import HttpRetry.Text.Numeral
import HttpRetry.Text.Sigma
import HttpRetry.Url.Label
import HttpRetry.Url.Percent
set_option autoImplicit false

namespace HttpRetry.Url

inductive HostError where
  | dottedAddress
  | bracketedAddress
  | name
  deriving DecidableEq, Repr, Inhabited

def parts (separator : Char → Bool) : List Char → List (List Char)
  | [] => [[]]
  | c :: rest =>
    if separator c then [] :: parts separator rest
    else
      match parts separator rest with
      | first :: others => (c :: first) :: others
      | [] => [[c]]

def looksDotted (host : List Char) : Bool :=
  let numbers := parts (· = '.') host
  numbers.length = 4 && numbers.all fun number => !number.isEmpty && number.all Char.isDigit

def isOctet (part : List Char) : Bool :=
  !part.isEmpty && part.all Char.isDigit && part.length ≤ 3 && Text.natOfDigits part ≤ 255 &&
    (part.length = 1 || part.head? ≠ some '0')

def isDottedAddress (host : List Char) : Bool :=
  let octets := parts (· = '.') host
  octets.length = 4 && octets.all isOctet

def isHexDigit (c : Char) : Bool :=
  c.isDigit || ('a' ≤ c && c ≤ 'f') || ('A' ≤ c && c ≤ 'F')

def isHexGroup (part : List Char) : Bool :=
  !part.isEmpty && part.length ≤ 4 && part.all isHexDigit

def isZone : List Char → Bool
  | [] => true
  | _ :: zone => !zone.isEmpty && !zone.contains '%'

def areGroups (groups : List (List Char)) : Bool :=
  let inner := (groups.drop 1).dropLast
  match inner.findIdx? List.isEmpty with
  | none => groups.length = 8 && groups.all isHexGroup
  | some gap =>
    let side := fun (part : List (List Char)) => if part = [[]] then [] else part
    let left := side (groups.take (gap + 1))
    let right := side (groups.drop (gap + 2))
    left.all isHexGroup && right.all isHexGroup && left.length + right.length ≤ 7

/-- A dotted address may take the place of the last two groups. -/
def isColonAddress (text : List Char) : Bool :=
  let address := text.takeWhile (· ≠ '%')
  let groups := parts (· = ':') address
  let last := groups.getLast?.getD []
  let dotted := last.contains '.'
  let spelled := if dotted then groups.dropLast ++ [['0'], ['0']] else groups
  isZone (text.drop address.length) && 3 ≤ groups.length && spelled.length ≤ 9 &&
    (!dotted || isDottedAddress last) && areGroups spelled

def isLabelDot (c : Char) : Bool :=
  c = '.' || c.toNat = 0x3002 || c.toNat = 0xFF0E || c.toNat = 0xFF61

def encodeName? (host : List Char) : Option (List Char) :=
  let labels := parts isLabelDot host
  let (labels, dotted) :=
    if labels.getLast? = some [] then (labels.dropLast, true) else (labels, false)
  if labels.isEmpty then none
  else
    match labels.mapM encodeLabel with
    | .error _ => none
    | .ok encoded =>
      let name := (['.'].intercalate encoded) ++ (if dotted then ['.'] else [])
      if name.length ≤ (if dotted then 254 else 253) then some name else none

def encodeHost (host : List Char) : Except HostError (List Char) :=
  if host.isEmpty then .ok []
  else if looksDotted host then
    if isDottedAddress host then .ok host else .error .dottedAddress
  else if host.head? = some '[' && host.getLast? = some ']' then
    let inside := (host.drop 1).dropLast
    if isColonAddress inside then .ok inside else .error .bracketedAddress
  else if Text.isAscii host then .ok (encode hostSafe (host.map Char.toLower))
  else
    match encodeName? (Text.lowerName host) with
    | some name => .ok name
    | none => .error .name

/-- A request shows its host to the user, for which the labels of one that begins with an encoded label
are decoded. -/
def checkShown (host : List Char) : Except LabelFault Unit :=
  if isMarked host then
    let labels := parts (· = '.') (host.map Char.toLower)
    (if labels.getLast? = some [] then labels.dropLast else labels).forM checkAsciiLabel
  else .ok ()

end HttpRetry.Url
