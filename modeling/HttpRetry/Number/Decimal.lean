set_option autoImplicit false

namespace HttpRetry

def pow2 (n : Nat) : Nat := Nat.pow 2 n

def pow10 (n : Nat) : Nat := Nat.pow 10 n

/-- The numeral `± digits · 10 ^ exponent`. -/
structure Decimal where
  negative : Bool
  digits : Nat
  exponent : Int
  deriving DecidableEq, Repr, Inhabited

namespace Decimal

def ofInt (n : Int) : Decimal := ⟨n < 0, n.natAbs, 0⟩

def toRat (d : Decimal) : Rat :=
  let magnitude : Rat :=
    if 0 ≤ d.exponent then ((d.digits * pow10 d.exponent.toNat : Nat) : Rat)
    else mkRat d.digits (pow10 (-d.exponent).toNat)
  if d.negative then -magnitude else magnitude

def lengthOf (n : Nat) : Nat :=
  if h : n = 0 then 0 else lengthOf (n / 10) + 1
termination_by n
decreasing_by exact Nat.div_lt_self (Nat.pos_of_ne_zero h) (by decide)

def strip (fuel : Nat) (digits : Nat) (exponent : Int) : Nat × Int :=
  match fuel with
  | 0 => (digits, exponent)
  | fuel + 1 =>
    if digits ≠ 0 ∧ digits % 10 = 0 then strip fuel (digits / 10) (exponent + 1)
    else (digits, exponent)

end Decimal

/-- The integer nearest to `q`; halfway cases go to the even neighbour. -/
def roundHalfEven (q : Rat) : Int :=
  let low := q.floor
  let twice := 2 * (q - low)
  if twice < 1 then low
  else if 1 < twice then low + 1
  else if low % 2 = 0 then low else low + 1

end HttpRetry
