/-!
The ASCII form of a label with other characters: its ASCII characters, then the others as a sequence of
differences in a numeral system whose digits' weights adapt to the sizes met.
-/
set_option autoImplicit false

namespace HttpRetry.Url.Punycode

def digit (n : Nat) : Char := Char.ofNat (if n < 26 then 97 + n else 22 + n)

def threshold (position bias : Nat) : Nat :=
  if position ≤ bias then 1 else if bias + 26 ≤ position then 26 else position - bias

theorem threshold_pos (position bias : Nat) : 1 ≤ threshold position bias := by
  unfold threshold
  split
  · omega
  · split <;> omega

def shrink (delta steps : Nat) : Nat × Nat :=
  if 455 < delta then shrink (delta / 35) (steps + 36) else (delta, steps)
termination_by delta
decreasing_by omega

def adapt (delta points : Nat) (first : Bool) : Nat :=
  let scaled := if first then delta / 700 else delta / 2
  let (rest, steps) := shrink (scaled + scaled / points) 0
  steps + 36 * rest / (rest + 38)

def digits (bias position n : Nat) : List Char :=
  let t := threshold position bias
  if n < t then [digit n]
  else digit (t + (n - t) % (36 - t)) :: digits bias (position + 36) ((n - t) / (36 - t))
termination_by n
decreasing_by
  have := threshold_pos position bias
  have := Nat.div_le_self (n - threshold position bias) (36 - threshold position bias)
  omega

structure Writer where
  out : List Char
  delta : Nat
  bias : Nat
  handled : Nat

/-- Passes over one character of the label while the code point `n` is being written. -/
def Writer.pass (ascii n : Nat) (w : Writer) (c : Char) : Writer :=
  if c.toNat < n then { w with delta := w.delta + 1 }
  else if c.toNat = n then
    { out := w.out ++ digits w.bias 36 w.delta
      delta := 0
      bias := adapt w.delta (w.handled + 1) (w.handled = ascii)
      handled := w.handled + 1 }
  else w

def writeAll (label : List Char) (ascii : Nat) : (previous : Nat) → List Nat → Writer → Writer
  | _, [], w => w
  | previous, n :: rest, w =>
    let w := { w with delta := w.delta + (n - previous) * (w.handled + 1) }
    let w := label.foldl (Writer.pass ascii n) w
    writeAll label ascii (n + 1) rest { w with delta := w.delta + 1 }

def encode (label : List Char) : List Char :=
  let ascii := label.filter fun c => c.toNat < 128
  let others := ((label.map Char.toNat).filter (128 ≤ ·)).eraseDups.mergeSort (· ≤ ·)
  let start := if ascii.isEmpty then [] else ascii ++ ['-']
  (writeAll label ascii.length 128 others ⟨start, 0, 72, ascii.length⟩).out

def digitValue? (c : Char) : Option Nat :=
  if 'a' ≤ c && c ≤ 'z' then some (c.toNat - 97)
  else if c.isDigit then some (c.toNat - 22)
  else none

def number? (bias : Nat) : (position weight : Nat) → List Char → Option (Nat × List Char)
  | _, _, [] => none
  | position, weight, c :: rest => do
    let d ← digitValue? c
    let t := threshold position bias
    if d < t then return (d * weight, rest)
    else
      let (n, rest) ← number? bias (position + 36) (weight * (36 - t)) rest
      return (d * weight + n, rest)

/-- The code points read, the place in them that comes next, the code point that comes next, the bias,
and whether none has been put in. -/
structure Reader where
  out : List Nat
  place : Nat
  point : Nat
  bias : Nat
  first : Bool

def Reader.insert? (r : Reader) (delta : Nat) : Option Reader :=
  let size := r.out.length + 1
  let place := r.place + delta
  let point := r.point + place / size
  if 0x10FFFF < point then none
  else some
    { out := r.out.take (place % size) ++ point :: r.out.drop (place % size)
      place := place % size + 1
      point
      bias := adapt delta size r.first
      first := false }

/-- Reads the differences; every one takes a digit at least, so that their text bounds their number. -/
def readAll : (fuel : Nat) → Reader → List Char → Option Reader
  | _, r, [] => some r
  | 0, _, _ => none
  | fuel + 1, r, text => do
    let (delta, rest) ← number? r.bias 36 1 text
    readAll fuel (← r.insert? delta) rest

def decode? (text : List Char) : Option (List Nat) := do
  let differences := (text.reverse.takeWhile (· ≠ '-')).reverse
  let ascii := (text.take (text.length - differences.length)).dropLast
  (readAll differences.length ⟨ascii.map Char.toNat, 0, 128, 72, true⟩ differences).map (·.out)

end HttpRetry.Url.Punycode
