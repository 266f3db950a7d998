import HttpRetry.Text.Blank
import HttpRetry.Text.Digit
set_option autoImplicit false

namespace HttpRetry.Text

def digitValues? : List Char → Option (List Nat)
  | [] => none
  | [c] => (digitValue? c).map ([·])
  | c :: '_' :: rest => do return (← digitValue? c) :: (← digitValues? rest)
  | c :: rest => do return (← digitValue? c) :: (← digitValues? rest)

def natOfValues (digits : List Nat) : Nat := digits.foldl (fun n d => 10 * n + d) 0

def natOfDigits (digits : List Char) : Nat := natOfValues (digits.map fun c => c.toNat - 48)

def splitSign : List Char → Bool × List Char
  | '+' :: rest => (false, rest)
  | '-' :: rest => (true, rest)
  | rest => (false, rest)

def mostDigits : Nat := 4300

def int? (text : List Char) : Option Int :=
  let (negative, rest) := splitSign (trimBy isSpacing text)
  match digitValues? rest with
  | none => none
  | some digits =>
    if mostDigits < digits.length then none
    else some (if negative then -natOfValues digits else natOfValues digits)

end HttpRetry.Text
