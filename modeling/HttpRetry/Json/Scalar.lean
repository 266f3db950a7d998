import HttpRetry.Json.Display
set_option autoImplicit false

namespace HttpRetry.Json

def number? : Json → Option Rat
  | .int n => some n
  | .bool b => some (if b then 1 else 0)
  | .real x => x.toBinary64.toRat?
  | _ => none

def same : Json → Json → Bool
  | .null, .null => true
  | .str a, .str b => a = b
  | .unpaired a, .unpaired b => a = b
  | .real .nan, .real .nan => true
  | a, b =>
    match a.number?, b.number? with
    | some x, some y => x = y
    | _, _ => false

def notAfter : Json → Json → Bool
  | .str a, .str b => a ≤ b
  | a, b =>
    match a.number?, b.number? with
    | some x, some y => x ≤ y
    | _, _ => true

def isScalar : Json → Bool
  | .arr _ | .obj _ => false
  | _ => true

/-- What a value gives one after another: the elements of a list, the characters of a text, the names
of an object. -/
def elements? : Json → Option (List Json)
  | .arr items => some items
  | .str s => some (s.toList.map fun c => .str (String.singleton c))
  | .unpaired points => some (points.map fun n =>
      if n.isValidChar then .str (String.singleton (Char.ofNat n)) else .unpaired [n])
  | .obj members => some (members.map fun (name, _) => .str name)
  | _ => none

end HttpRetry.Json
