import HttpRetry.Json.Value
/-!
Reading JSON text. Besides the standard's values the reader takes `NaN`, `Infinity` and `-Infinity`.
Every reader returns what it read with the characters that follow, and the fuel that bounds nesting
is the length of the text, since each level of nesting takes a character.
-/
set_option autoImplicit false

namespace HttpRetry.Json.Parser

def skipBlank : List Char → List Char
  | ' ' :: rest | '\t' :: rest | '\n' :: rest | '\r' :: rest => skipBlank rest
  | rest => rest

def digitsOf : List Char → List Char × List Char
  | c :: rest =>
    if c.isDigit then
      let (digits, rest') := digitsOf rest
      (c :: digits, rest')
    else ([], c :: rest)
  | [] => ([], [])

def natOf (digits : List Char) : Nat :=
  digits.foldl (fun n c => 10 * n + (c.toNat - 48)) 0

def fraction? : List Char → Option (List Char × List Char)
  | '.' :: rest =>
    match digitsOf rest with
    | ([], _) => none
    | found => some found
  | _ => none

def exponent? : List Char → Option (Int × List Char)
  | c :: rest =>
    if c = 'e' ∨ c = 'E' then
      let (negative, rest) :=
        match rest with
        | '+' :: tail => (false, tail)
        | '-' :: tail => (true, tail)
        | tail => (false, tail)
      match digitsOf rest with
      | ([], _) => none
      | (digits, tail) =>
        let n : Int := natOf digits
        some (if negative then -n else n, tail)
    else none
  | [] => none

def number? (negative : Bool) (text : List Char) : Option (Json × List Char) :=
  let (whole, rest) :=
    match text with
    | '0' :: rest => (['0'], rest)
    | _ => digitsOf text
  if whole.isEmpty then none
  else
    let (places, rest) := (fraction? rest).getD ([], rest)
    let power := exponent? rest
    match places, power with
    | [], none =>
      let n : Int := natOf whole
      some (.int (if negative then -n else n), rest)
    | _, _ =>
      let (exponent, rest) := power.getD (0, rest)
      some (.real (.decimal ⟨negative, natOf (whole ++ places), exponent - places.length⟩), rest)

def hexValue? (c : Char) : Option Nat :=
  if c.isDigit then some (c.toNat - 48)
  else if 'a' ≤ c ∧ c ≤ 'f' then some (c.toNat - 87)
  else if 'A' ≤ c ∧ c ≤ 'F' then some (c.toNat - 55)
  else none

def hexQuad? : List Char → Option (Nat × List Char)
  | a :: b :: c :: d :: rest => do
    let a ← hexValue? a
    let b ← hexValue? b
    let c ← hexValue? c
    let d ← hexValue? d
    some (4096 * a + 256 * b + 16 * c + d, rest)
  | _ => none

def isHighSurrogate (n : Nat) : Bool := 0xD800 ≤ n && n < 0xDC00

def isLowSurrogate (n : Nat) : Bool := 0xDC00 ≤ n && n < 0xE000

/-- The text of code points; half of a surrogate pair keeps them from being a text of characters. -/
def textOf (points : List Nat) : Json :=
  if points.all fun n => decide n.isValidChar then .str (String.ofList (points.map Char.ofNat))
  else .unpaired points

def escape? (c : Char) : Option Char :=
  match c with
  | '"' => some '"'
  | '\\' => some '\\'
  | '/' => some '/'
  | 'b' => some '\x08'
  | 'f' => some '\x0c'
  | 'n' => some '\n'
  | 'r' => some '\r'
  | 't' => some '\t'
  | _ => none

def quoted? : (fuel : Nat) → List Nat → List Char → Option (List Nat × List Char)
  | 0, _, _ => none
  | fuel + 1, acc, text =>
    match text with
    | [] => none
    | '"' :: rest => some (acc, rest)
    | '\\' :: 'u' :: rest => do
      let (high, rest) ← hexQuad? rest
      match isHighSurrogate high, rest with
      | true, '\\' :: 'u' :: tail =>
        match hexQuad? tail with
        | some (low, tail) =>
          if isLowSurrogate low then
            let n := 0x10000 + (high - 0xD800) * 1024 + (low - 0xDC00)
            quoted? fuel (n :: acc) tail
          else quoted? fuel (high :: acc) rest
        | none => quoted? fuel (high :: acc) rest
      | _, _ => quoted? fuel (high :: acc) rest
    | '\\' :: c :: rest => do
      let c ← escape? c
      quoted? fuel (c.toNat :: acc) rest
    | c :: rest => if c.toNat < 32 then none else quoted? fuel (c.toNat :: acc) rest

def points? (text : List Char) : Option (List Nat × List Char) :=
  (quoted? (text.length + 1) [] text).map fun (acc, rest) => (acc.reverse, rest)

def nameOf (points : List Nat) : String :=
  String.ofList (points.map fun n => if n.isValidChar then Char.ofNat n else '\uFFFD')

def literal? (word : List Char) (value : Json) (text : List Char) : Option (Json × List Char) :=
  if word.isPrefixOf text then some (value, text.drop word.length) else none

mutual

def value? : (fuel : Nat) → List Char → Option (Json × List Char)
  | 0, _ => none
  | fuel + 1, text =>
    match text with
    | '"' :: rest => (points? rest).map fun (points, tail) => (textOf points, tail)
    | '[' :: rest =>
      match skipBlank rest with
      | ']' :: tail => some (.arr [], tail)
      | inner => (items? fuel inner).map fun (items, tail) => (.arr items, tail)
    | '\x7b' :: rest =>
      match skipBlank rest with
      | '\x7d' :: tail => some (.obj [], tail)
      | inner => (members? fuel [] inner).map fun (members, tail) => (.obj members, tail)
    | '-' :: 'I' :: _ => literal? "-Infinity".toList (.real (.infinity true)) text
    | '-' :: rest => number? true rest
    | 'n' :: _ => literal? "null".toList .null text
    | 't' :: _ => literal? "true".toList (.bool true) text
    | 'f' :: _ => literal? "false".toList (.bool false) text
    | 'N' :: _ => literal? "NaN".toList (.real .nan) text
    | 'I' :: _ => literal? "Infinity".toList (.real (.infinity false)) text
    | _ => number? false text

def items? : (fuel : Nat) → List Char → Option (List Json × List Char)
  | 0, _ => none
  | fuel + 1, text => do
    let (item, rest) ← value? fuel (skipBlank text)
    match skipBlank rest with
    | ',' :: tail =>
      let (items, tail) ← items? fuel tail
      some (item :: items, tail)
    | ']' :: tail => some ([item], tail)
    | _ => none

def members? : (fuel : Nat) → Members → List Char → Option (Members × List Char)
  | 0, _, _ => none
  | fuel + 1, acc, text =>
    match skipBlank text with
    | '"' :: rest => do
      let (name, rest) ← points? rest
      match skipBlank rest with
      | ':' :: rest =>
        let (value, rest) ← value? fuel (skipBlank rest)
        let acc := acc.put (nameOf name) value
        match skipBlank rest with
        | ',' :: tail => members? fuel acc tail
        | '\x7d' :: tail => some (acc, tail)
        | _ => none
      | _ => none
    | _ => none

end

end HttpRetry.Json.Parser

namespace HttpRetry.Json

def parse? (text : String) : Option Json :=
  let chars := Parser.skipBlank text.toList
  match Parser.value? (chars.length + 1) chars with
  | some (value, rest) => if (Parser.skipBlank rest).isEmpty then some value else none
  | none => none

end HttpRetry.Json
