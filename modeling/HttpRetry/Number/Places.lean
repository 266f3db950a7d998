import HttpRetry.Number.Binary64
/-!
Binary fractions written with a given number of digits: positionally, with an exponent, or in the shorter
of the two. The exact value is rounded once, halves going to the even neighbour.
-/
set_option autoImplicit false

namespace HttpRetry.Places

def nearest (num den : Nat) : Nat :=
  let low := num / den
  let twice := 2 * (num % den)
  if twice < den then low else if den < twice then low + 1 else if low % 2 = 0 then low else low + 1

def digitsOf (n width : Nat) : List Char :=
  let digits := Nat.toDigits 10 n
  List.replicate (width - digits.length) '0' ++ digits

/-- A point before the digits that follow it; without such digits it is left out unless it is to be kept. -/
def withPoint (whole places : List Char) (keep : Bool) : List Char :=
  if places.isEmpty then (if keep then whole ++ ['.'] else whole) else whole ++ '.' :: places

def fixedDigits (num den places : Nat) : List Char × List Char :=
  let digits := digitsOf (nearest (num * pow10 places) den) (places + 1)
  (digits.take (digits.length - places), digits.drop (digits.length - places))

def exponentOf (num den : Nat) : Int :=
  if den ≤ num then Decimal.lengthOf (num / den) - 1 else -(Decimal.lengthOf ((den - 1) / num) : Int)

def leadingDigits (num den places : Nat) : List Char × Int :=
  if num = 0 then (List.replicate (places + 1) '0', 0)
  else
    let exponent := exponentOf num den
    let shift := (places : Int) - exponent
    let n := nearest (num * pow10 shift.toNat) (den * pow10 (-shift).toNat)
    if n = pow10 (places + 1) then (digitsOf (pow10 places) 0, exponent + 1)
    else (digitsOf n (places + 1), exponent)

def exponentText (exponent : Int) : List Char :=
  'e' :: (if exponent < 0 then '-' else '+') :: digitsOf exponent.natAbs 2

def withoutZeros (digits : List Char) : List Char := (digits.reverse.dropWhile (· = '0')).reverse

inductive Form where
  | fixed
  | scientific
  | general
  deriving DecidableEq, Repr, Inhabited

def quotient (form : Form) (precision : Nat) (keep : Bool) (num den : Nat) : List Char :=
  match form with
  | .fixed =>
    let (whole, places) := fixedDigits num den precision
    withPoint whole places keep
  | .scientific =>
    let (digits, exponent) := leadingDigits num den precision
    withPoint (digits.take 1) (digits.drop 1) keep ++ exponentText exponent
  | .general =>
    let precision := max precision 1
    let (digits, exponent) := leadingDigits num den (precision - 1)
    let kept := fun (places : List Char) => if keep then places else withoutZeros places
    if exponent < -4 ∨ precision ≤ exponent then
      withPoint (digits.take 1) (kept (digits.drop 1)) keep ++ exponentText exponent
    else
      let (whole, places) := fixedDigits num den (precision - 1 - exponent).toNat
      withPoint whole (kept places) keep

def text (form : Form) (precision : Nat) (keep : Bool) (x : Binary64) : List Char :=
  match x with
  | .nan => "nan".toList
  | .infinity negative => if negative then "-inf".toList else "inf".toList
  | .finite negative significand exponent =>
    let body := quotient form precision keep (significand * pow2 exponent.toNat)
      (pow2 (-exponent).toNat)
    if negative then '-' :: body else body

end HttpRetry.Places
