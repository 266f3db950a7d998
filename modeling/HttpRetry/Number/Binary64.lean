import HttpRetry.Number.Decimal
/-!
Binary floating-point values of 53 significant bits, held exactly. A decimal numeral is read as the
nearest such value, halfway cases going to the even significand.
-/
set_option autoImplicit false

namespace HttpRetry

/-- `finite s m e` is `± m · 2 ^ e` with `m < 2 ^ 53` and `-1074 ≤ e`; unless `e = -1074`, also
`2 ^ 52 ≤ m`. -/
inductive Binary64 where
  | nan
  | infinity (negative : Bool)
  | finite (negative : Bool) (significand : Nat) (exponent : Int)
  deriving DecidableEq, Repr, Inhabited

namespace Binary64

def zero (negative : Bool) : Binary64 := .finite negative 0 (-1074)

/-- The least exponent at which `num / den` fits into 53 bits, given an estimate that is exact or
one too high. -/
def exponentOf (num den : Nat) : Int :=
  let estimate : Int := (Nat.log2 num : Int) - Nat.log2 den - 52
  let exponent :=
    if num * pow2 (-estimate).toNat < pow2 52 * (den * pow2 estimate.toNat) then estimate - 1
    else estimate
  max exponent (-1074)

def round (negative : Bool) (num den : Nat) : Binary64 :=
  let exponent := exponentOf num den
  let top := num * pow2 (-exponent).toNat
  let bottom := den * pow2 exponent.toNat
  let low := top / bottom
  let twice := 2 * (top % bottom)
  let significand :=
    if twice < bottom then low
    else if bottom < twice then low + 1
    else if low % 2 = 0 then low else low + 1
  let (significand, exponent) :=
    if significand = pow2 53 then (pow2 52, exponent + 1) else (significand, exponent)
  if 971 < exponent then .infinity negative else .finite negative significand exponent

def ofDecimal (d : Decimal) : Binary64 :=
  let magnitude : Int := d.exponent + Decimal.lengthOf d.digits
  if d.digits = 0 ∨ magnitude < -330 then zero d.negative
  else if 400 < magnitude then .infinity d.negative
  else round d.negative (d.digits * pow10 d.exponent.toNat) (pow10 (-d.exponent).toNat)

def isFinite : Binary64 → Bool
  | .finite .. => true
  | _ => false

def toRat? : Binary64 → Option Rat
  | .nan => none
  | .infinity negative => some (if negative then -(pow2 1024 : Nat) else (pow2 1024 : Nat))
  | .finite negative significand exponent =>
    let magnitude : Rat :=
      if 0 ≤ exponent then ((significand * pow2 exponent.toNat : Nat) : Rat)
      else mkRat significand (pow2 (-exponent).toNat)
    some (if negative then -magnitude else magnitude)

def ofRat (q : Rat) : Binary64 :=
  if q = 0 then zero false else round (q < 0) q.num.natAbs q.den

/-- Arithmetic on finite values: the exact result is rounded once. -/
def ofExact (f : Rat → Rat → Rat) (x y : Binary64) : Binary64 :=
  match x.toRat?, y.toRat? with
  | some a, some b => ofRat (f a b)
  | _, _ => .nan

def value (x : Binary64) : Rat := x.toRat?.getD 0

def nearest (q : Rat) : Rat := (ofRat q).value

def add (x y : Binary64) : Binary64 := ofExact (· + ·) x y

def sub (x y : Binary64) : Binary64 := ofExact (· - ·) x y

def mul (x y : Binary64) : Binary64 := ofExact (· * ·) x y

/-- Seconds as microseconds: the whole ones exactly, the fraction by one multiplication, and the sum to
the nearest, halfway cases going to the even one. -/
def micros (x : Binary64) : Int :=
  match x.toRat? with
  | none => 0
  | some q =>
    let whole := if q < 0 then q.ceil else q.floor
    let fraction := mul (ofRat (q - whole)) (ofRat 1000000)
    whole * 1000000 + roundHalfEven (fraction.toRat?.getD 0)

def toInt? : Binary64 → Option Int
  | .finite negative significand exponent =>
    let magnitude : Option Nat :=
      if 0 ≤ exponent then some (significand * pow2 exponent.toNat)
      else if significand % pow2 (-exponent).toNat = 0 then
        some (significand / pow2 (-exponent).toNat)
      else none
    magnitude.map fun n => if negative then -(n : Int) else n
  | _ => none

end Binary64

end HttpRetry
