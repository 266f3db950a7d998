import HttpRetry.Json.Value
/-!
Writing JSON text. A `Style` holds what differs between a log line (ASCII only, a blank after each
separator) and a request body (no blanks, characters as they are).
-/
set_option autoImplicit false

namespace HttpRetry.Json

structure Style where
  comma : List Char
  colon : List Char
  ascii : Bool

def Style.line : Style := ⟨[',', ' '], [':', ' '], true⟩

def Style.compact : Style := ⟨[','], [':'], false⟩

namespace Printer

def hexDigit (n : Nat) : Char := Char.ofNat (if n < 10 then 48 + n else 87 + n)

def hexQuad (n : Nat) : List Char :=
  [hexDigit (n / 4096 % 16), hexDigit (n / 256 % 16), hexDigit (n / 16 % 16), hexDigit (n % 16)]

def unicodeEscape (c : Char) : List Char :=
  let n := c.toNat
  if n < 0x10000 then '\\' :: 'u' :: hexQuad n
  else
    let m := n - 0x10000
    '\\' :: 'u' :: hexQuad (0xD800 + m / 1024) ++ '\\' :: 'u' :: hexQuad (0xDC00 + m % 1024)

def escaped (ascii : Bool) (c : Char) : List Char :=
  match c with
  | '"' => ['\\', '"']
  | '\\' => ['\\', '\\']
  | '\n' => ['\\', 'n']
  | '\r' => ['\\', 'r']
  | '\t' => ['\\', 't']
  | '\x08' => ['\\', 'b']
  | '\x0c' => ['\\', 'f']
  | c =>
    if c.toNat < 32 || (ascii && 127 ≤ c.toNat) then unicodeEscape c else [c]

def quoted (ascii : Bool) (s : String) : List Char :=
  '"' :: s.toList.flatMap (escaped ascii) ++ ['"']

def unpaired (ascii : Bool) (points : List Nat) : List Char :=
  '"' :: (points.flatMap fun n =>
    if n.isValidChar then escaped ascii (Char.ofNat n) else '\\' :: 'u' :: hexQuad n) ++ ['"']

def real (x : Numeral) : List Char :=
  match x.toBinary64 with
  | .nan => "NaN".toList
  | .infinity negative => if negative then "-Infinity".toList else "Infinity".toList
  | finite => finite.text.toList

mutual

def value (style : Style) : Json → List Char
  | .null => "null".toList
  | .bool b => if b then "true".toList else "false".toList
  | .int n => (toString n).toList
  | .real x => real x
  | .str s => quoted style.ascii s
  | .unpaired points => unpaired style.ascii points
  | .arr [] => ['[', ']']
  | .arr (item :: rest) => '[' :: value style item ++ items style rest
  | .obj [] => ['\x7b', '\x7d']
  | .obj ((name, v) :: rest) =>
    '\x7b' :: quoted style.ascii name ++ style.colon ++ value style v ++ members style rest

def items (style : Style) : List Json → List Char
  | [] => [']']
  | item :: rest => style.comma ++ value style item ++ items style rest

def members (style : Style) : List (String × Json) → List Char
  | [] => ['\x7d']
  | (name, v) :: rest =>
    style.comma ++ quoted style.ascii name ++ style.colon ++ value style v ++ members style rest

end

end Printer

def render (style : Style) (j : Json) : String := String.ofList (Printer.value style j)

end HttpRetry.Json
