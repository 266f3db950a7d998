import HttpRetry.Text.Printable
/-!
Texts in quotes: single quotes, or double quotes around a text that holds single quotes and no double
ones. The enclosing quote, the backslash and every character that does not print are escaped.
-/
set_option autoImplicit false

namespace HttpRetry.Text

def hexDigits (width n : Nat) : List Char :=
  let digits := Nat.toDigits 16 n
  List.replicate (width - digits.length) '0' ++ digits

def hexEscape (c : Char) : List Char :=
  let n := c.toNat
  if n < 0x100 then '\\' :: 'x' :: hexDigits 2 n
  else if n < 0x10000 then '\\' :: 'u' :: hexDigits 4 n
  else '\\' :: 'U' :: hexDigits 8 n

def quotedChar (quote c : Char) : List Char :=
  if c = quote ∨ c = '\\' then ['\\', c]
  else if c = '\n' then ['\\', 'n']
  else if c = '\r' then ['\\', 'r']
  else if c = '\t' then ['\\', 't']
  else if isPrintable c then [c]
  else hexEscape c

def singleQuote : Char := '\x27'

def doubleQuote : Char := '\x22'

def quoteFor (s : String) : Char :=
  if s.contains singleQuote && !s.contains doubleQuote then doubleQuote else singleQuote

def quoted (s : String) : String :=
  let quote := quoteFor s
  String.ofList (quote :: s.toList.flatMap (quotedChar quote) ++ [quote])

/-- As `quoted`, for code points of which some are halves of surrogate pairs. -/
def quotedPoints (points : List Nat) : String :=
  let quote := if points.contains 39 && !points.contains 34 then doubleQuote else singleQuote
  String.ofList (quote :: (points.flatMap fun n =>
    if n.isValidChar then quotedChar quote (Char.ofNat n) else '\\' :: 'u' :: hexDigits 4 n) ++ [quote])

end HttpRetry.Text
