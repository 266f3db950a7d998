import HttpRetry.Number.Binary64
set_option autoImplicit false

namespace HttpRetry

/-- The reals that round to one value, as numerators over a common denominator. -/
structure RoundingInterval where
  low : Nat
  value : Nat
  high : Nat
  den : Nat
  closed : Bool
  deriving Repr

namespace RoundingInterval

def of (significand : Nat) (exponent : Int) : RoundingInterval :=
  let scale := pow2 exponent.toNat
  let lowGap := if significand = pow2 52 ∧ -1074 < exponent then 1 else 2
  { low := (4 * significand - lowGap) * scale
    value := 4 * significand * scale
    high := (4 * significand + 2) * scale
    den := 4 * pow2 (-exponent).toNat
    closed := significand % 2 = 0 }

def contains (i : RoundingInterval) (digits : Nat) (exponent : Int) : Bool :=
  let point := digits * pow10 exponent.toNat * i.den
  let unit := pow10 (-exponent).toNat
  if i.closed then i.low * unit ≤ point && point ≤ i.high * unit
  else i.low * unit < point && point < i.high * unit

def scale (i : RoundingInterval) : Int :=
  if i.den ≤ i.value then Decimal.lengthOf (i.value / i.den)
  else 1 - (Decimal.lengthOf ((i.den - 1) / i.value) : Int)

/-- The neighbour of the value on the grid of multiples of `10 ^ exponent` that lies in the
interval; of two the nearer, and the even one of two equally near. -/
def onGrid? (i : RoundingInterval) (exponent : Int) : Option Nat :=
  let top := i.value * pow10 (-exponent).toNat
  let bottom := i.den * pow10 exponent.toNat
  let low := top / bottom
  match i.contains low exponent, i.contains (low + 1) exponent with
  | false, false => none
  | true, false => some low
  | false, true => some (low + 1)
  | true, true =>
    let twice := 2 * (top % bottom)
    if twice < bottom then some low
    else if bottom < twice then some (low + 1)
    else if low % 2 = 0 then some low else some (low + 1)

def search (i : RoundingInterval) (scale : Int) : (remaining : Nat) → Nat × Int
  | 0 => (i.value / i.den, 0)
  | remaining + 1 =>
    let exponent := scale - (17 - remaining : Nat)
    match i.onGrid? exponent with
    | some digits => Decimal.strip 20 digits exponent
    | none => search i scale remaining

end RoundingInterval

/-- The fewest digits, with their exponent, that read back as `significand · 2 ^ exponent`. -/
def shortestDigits (significand : Nat) (exponent : Int) : Nat × Int :=
  if significand = 0 then (0, 0)
  else
    let interval := RoundingInterval.of significand exponent
    interval.search interval.scale 17

namespace Binary64

def layout (s : List Char) (point : Int) : List Char :=
  if -4 < point ∧ point ≤ 16 then
    if point ≤ 0 then '0' :: '.' :: List.replicate (-point).toNat '0' ++ s
    else if (s.length : Int) ≤ point then
      s ++ List.replicate (point.toNat - s.length) '0' ++ ['.', '0']
    else s.take point.toNat ++ '.' :: s.drop point.toNat
  else
    let exponent := point - 1
    let digits := Nat.toDigits 10 exponent.natAbs
    let padded := if digits.length < 2 then '0' :: digits else digits
    let mantissa :=
      match s with
      | d :: e :: rest => d :: '.' :: e :: rest
      | short => short
    mantissa ++ 'e' :: (if exponent < 0 then '-' else '+') :: padded

def text : Binary64 → String
  | .nan => "nan"
  | .infinity negative => if negative then "-inf" else "inf"
  | .finite negative significand exponent =>
    let body :=
      if significand = 0 then ['0', '.', '0']
      else
        let (digits, place) := shortestDigits significand exponent
        let s := Nat.toDigits 10 digits
        layout s (place + s.length)
    String.ofList (if negative then '-' :: body else body)

end Binary64

end HttpRetry
