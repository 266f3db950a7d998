/-!
Percent-encoding. Each part of a URL has its own set of characters that stand for themselves; the
percent sign is in all of them, so that what is already encoded stays as it is.
-/
set_option autoImplicit false

namespace HttpRetry.Url

def upperHex (n : Nat) : Char := Char.ofNat (if n < 10 then 48 + n else 55 + n)

def encodeByte (b : UInt8) : List Char :=
  ['%', upperHex (b.toNat / 16), upperHex (b.toNat % 16)]

def encodeChar (c : Char) : List Char :=
  (String.singleton c).toUTF8.toList.flatMap encodeByte

def encode (safe : Char → Bool) (s : List Char) : List Char :=
  s.flatMap fun c => if safe c then [c] else encodeChar c

def printableExcept (excluded : List Char) (c : Char) : Bool :=
  32 ≤ c.toNat && c.toNat < 127 && !excluded.contains c

def fragmentSafe : Char → Bool := printableExcept [' ', '\x22', '<', '>', '\x60']

def querySafe : Char → Bool := printableExcept [' ', '\x22', '#', '<', '>']

def pathSafe : Char → Bool :=
  printableExcept [' ', '\x22', '#', '<', '>', '?', '\x60', '\x7b', '\x7d']

def userSafe : Char → Bool :=
  printableExcept [' ', '\x22', '#', '<', '>', '?', '\x60', '\x7b', '\x7d', '/', ';', '=', '@',
    '[', '\\', ']', '^', '|']

def isUnreserved (c : Char) : Bool := c.isAlphanum || ['-', '.', '_', '~'].contains c

def hostSafe (c : Char) : Bool :=
  isUnreserved c ||
    ['!', '$', '&', '\x27', '(', ')', '*', '+', ',', ';', '=', '\x22', '\x60', '\x7b', '\x7d', '%',
      '|', '\\'].contains c

end HttpRetry.Url
