import HttpRetry.Json.Value
import HttpRetry.Text.Quoted
set_option autoImplicit false

namespace HttpRetry.Json

mutual

def display : Json → String
  | .null => "None"
  | .bool b => if b then "True" else "False"
  | .int n => toString n
  | .real x => x.toBinary64.text
  | .str s => Text.quoted s
  | .unpaired points => Text.quotedPoints points
  | .arr items => "[" ++ displayItems items ++ "]"
  | .obj members => "\x7b" ++ displayMembers members ++ "\x7d"

def displayItems : List Json → String
  | [] => ""
  | [item] => item.display
  | item :: rest => item.display ++ ", " ++ displayItems rest

def displayMembers : List (String × Json) → String
  | [] => ""
  | [(name, value)] => Text.quoted name ++ ": " ++ value.display
  | (name, value) :: rest =>
    Text.quoted name ++ ": " ++ value.display ++ ", " ++ displayMembers rest

end

def kind : Json → String
  | .null => "NoneType"
  | .bool _ => "bool"
  | .int _ => "int"
  | .real _ => "float"
  | .str _ | .unpaired _ => "str"
  | .arr _ => "list"
  | .obj _ => "dict"

def plain : Json → String
  | .str s => s
  | value => value.display

/-- A value as it stands among the fields of a report: binary fractions as their text. -/
def reported : Json → Json
  | .real x => .str x.toBinary64.text
  | value => value

end HttpRetry.Json
