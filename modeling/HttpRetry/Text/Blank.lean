set_option autoImplicit false

namespace HttpRetry.Text

def isBlank (c : Char) : Bool :=
  let n := c.toNat
  (9 ≤ n && n ≤ 13) || n = 32 || n = 0x85 || n = 0xA0 || n = 0x1680 || (0x2000 ≤ n && n ≤ 0x200A) ||
    n = 0x2028 || n = 0x2029 || n = 0x202F || n = 0x205F || n = 0x3000

def isSpacing (c : Char) : Bool := isBlank c || (28 ≤ c.toNat && c.toNat ≤ 31)

def trimEndBy (p : Char → Bool) (s : List Char) : List Char := (s.reverse.dropWhile p).reverse

def trimBy (p : Char → Bool) (s : List Char) : List Char := trimEndBy p (s.dropWhile p)

def trim (s : List Char) : List Char := trimBy isBlank s

end HttpRetry.Text
