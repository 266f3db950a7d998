/-!
Sets of code points as ascending ranges, written in hexadecimal: `a-b`, `a` alone, or `a-b/2` for every
second code point from `a` to `b`.
-/
set_option autoImplicit false

namespace HttpRetry.Text

structure CodeRange where
  first : Nat
  last : Nat
  step : Nat := 1
  deriving Inhabited

namespace Ranges

def hexOf (s : List Char) : Nat :=
  s.foldl (fun n c => 16 * n + (if c.isDigit then c.toNat - 48 else c.toNat - 87)) 0

def readSpan (step : Nat) (s : String) : CodeRange :=
  match s.splitOn "-" with
  | [first, last] => ⟨hexOf first.toList, hexOf last.toList, step⟩
  | _ => ⟨hexOf s.toList, hexOf s.toList, step⟩

def readOne (s : String) : CodeRange :=
  match s.splitOn "/" with
  | [span, _] => readSpan 2 span
  | _ => readSpan 1 s

def read (lines : List String) : Array CodeRange :=
  (lines.flatMap fun line => (line.splitOn " ").map readOne).toArray

def search (table : Array CodeRange) (n : Nat) : (fuel low high : Nat) → Bool
  | 0, _, _ => false
  | fuel + 1, low, high =>
    if low < high then
      let middle := (low + high) / 2
      match table[middle]? with
      | some range =>
        if n < range.first then search table n fuel low middle
        else if range.last < n then search table n fuel (middle + 1) high
        else (n - range.first) % range.step = 0
      | none => false
    else false

def contains (table : Array CodeRange) (n : Nat) : Bool :=
  search table n (table.size + 1) 0 table.size

end Ranges

end HttpRetry.Text
