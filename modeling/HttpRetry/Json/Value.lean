import HttpRetry.Number.Shortest
set_option autoImplicit false

namespace HttpRetry

/-- A number written with a fraction or an exponent, or one of the three that are not numerals. -/
inductive Numeral where
  | decimal (d : Decimal)
  | nan
  | infinity (negative : Bool)
  deriving DecidableEq, Repr, Inhabited

def Numeral.toBinary64 : Numeral → Binary64
  | .decimal d => .ofDecimal d
  | .nan => .nan
  | .infinity negative => .infinity negative

inductive Json where
  | null
  | bool (b : Bool)
  | int (n : Int)
  | real (x : Numeral)
  | str (s : String)
  /-- A text that holds half of a surrogate pair, by its code points. -/
  | unpaired (points : List Nat)
  | arr (items : List Json)
  | obj (members : List (String × Json))
  deriving Repr, Inhabited

/-- Ordered members with one value a name. -/
abbrev Members := List (String × Json)

namespace Members

def get? (members : Members) (name : String) : Option Json := List.lookup name members

def put : Members → String → Json → Members
  | [], name, value => [(name, value)]
  | (n, v) :: rest, name, value =>
    if n = name then (n, value) :: rest else (n, v) :: put rest name value

def putAll (members : Members) (more : Members) : Members :=
  more.foldl (fun acc (name, value) => acc.put name value) members

theorem get?_put_self (members : Members) (name : String) (value : Json) :
    (members.put name value).get? name = some value := by
  induction members with
  | nil => simp [put, get?]
  | cons entry rest ih =>
    obtain ⟨n, v⟩ := entry
    by_cases h : n = name
    · simp [put, h, get?]
    · have h' : (name == n) = false := by simpa using Ne.symm h
      simp only [get?] at ih
      simp [put, h, get?, List.lookup_cons, h', ih]

end Members

namespace Json

def get? (name : String) : Json → Option Json
  | .obj members => Members.get? members name
  | _ => none

def given? (name : String) (j : Json) : Option Json :=
  match j.get? name with
  | some .null => none
  | other => other

def string? : Json → Option String
  | .str s => some s
  | _ => none

def bool? : Json → Option Bool
  | .bool b => some b
  | _ => none

def int? : Json → Option Int
  | .int n => some n
  | _ => none

def items? : Json → Option (List Json)
  | .arr items => some items
  | _ => none

def members? : Json → Option Members
  | .obj members => some members
  | _ => none

def rat? : Json → Option Rat
  | .int n => some n
  | .real (.decimal d) => some d.toRat
  | _ => none

/-- Whether a value counts as true where a condition is expected: empty and zero values do not. -/
def truthy : Json → Bool
  | .null => false
  | .bool b => b
  | .int n => n ≠ 0
  | .real (.decimal d) => d.toRat ≠ 0
  | .real _ => true
  | .str s => s ≠ ""
  | .unpaired points => !points.isEmpty
  | .arr items => !items.isEmpty
  | .obj members => !members.isEmpty

mutual

def isFinite : Json → Bool
  | .real x => x.toBinary64.isFinite
  | .arr items => areFinite items
  | .obj members => haveFinite members
  | _ => true

def areFinite : List Json → Bool
  | [] => true
  | item :: rest => item.isFinite && areFinite rest

def haveFinite : List (String × Json) → Bool
  | [] => true
  | (_, value) :: rest => value.isFinite && haveFinite rest

end

end Json

end HttpRetry
