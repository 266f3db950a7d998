import HttpRetry.Text.Quoted
set_option autoImplicit false

namespace HttpRetry.Text

def isAsciiChar (c : Char) : Bool := c.toNat < 128

def isAscii (s : List Char) : Bool := s.all isAsciiChar

def notAscii? (s : List Char) : Option String :=
  let before := s.takeWhile isAsciiChar
  let run := (s.drop before.length).takeWhile (!isAsciiChar ·)
  run.head?.map fun first =>
    let which :=
      if run.length = 1 then
        "character '" ++ String.ofList (hexEscape first) ++ "' in position " ++ toString before.length
      else
        "characters in position " ++ toString before.length ++ "-" ++
          toString (before.length + run.length - 1)
    "'ascii' codec can't encode " ++ which ++ ": ordinal not in range(128)"

end HttpRetry.Text
