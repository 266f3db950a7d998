set_option autoImplicit false

namespace HttpRetry.Text

def endsLine (c : Char) : Bool :=
  (10 ≤ c.toNat && c.toNat ≤ 13) || (28 ≤ c.toNat && c.toNat ≤ 30) || c.toNat = 0x85 ||
    c.toNat = 0x2028 || c.toNat = 0x2029

def lines : List Char → List (List Char)
  | [] => []
  | '\r' :: '\n' :: rest => [] :: lines rest
  | c :: rest =>
    if endsLine c then [] :: lines rest
    else
      match rest, lines rest with
      | [], _ | _, [] => [[c]]
      | _, first :: others => (c :: first) :: others

def afterColour? : List Char → Option (List Char)
  | '[' :: rest =>
    match rest.dropWhile fun c => c.isDigit || c = ';' with
    | 'm' :: rest => some rest
    | _ => none
  | _ => none

/-- Takes the codes for colours out; each is longer than what bounds their number. -/
def withoutColours : (fuel : Nat) → List Char → List Char
  | 0, text => text
  | _, [] => []
  | fuel + 1, c :: rest =>
    match if c = '\x1b' then afterColour? rest else none with
    | some rest => withoutColours fuel rest
    | none => c :: withoutColours fuel rest

def shownLines (text : String) : List String :=
  (lines (withoutColours text.length text.toList)).map String.ofList

end HttpRetry.Text
