import InstanceScripts.Json.Basic

/-!
# Writing JSON texts

The compact form, and the form with one member a line.
-/

namespace InstanceScripts
namespace Json

/-- How one character is written inside a string. -/
def escapedChar (char : Char) : List Char :=
  match char with
  | '"' => ['\\', '"']
  | '\\' => ['\\', '\\']
  | '\x08' => ['\\', 'b']
  | '\x0c' => ['\\', 'f']
  | '\n' => ['\\', 'n']
  | '\r' => ['\\', 'r']
  | '\t' => ['\\', 't']
  | char =>
      if char.toNat < 0x20 then
        ['\\', 'u', '0', '0', Nat.digitChar (char.toNat / 16), Nat.digitChar (char.toNat % 16)]
      else [char]

/-- A text as a JSON string. -/
def renderString (text : String) : String :=
  String.ofList ('"' :: text.toList.flatMap escapedChar ++ ['"'])

mutual

/-- The compact form of a value. -/
def render : Json → String
  | .null => "null"
  | .bool true => "true"
  | .bool false => "false"
  | .int value => String.ofList (Text.signedDecimal value)
  | .float value => value.render
  | .str value => renderString value
  | .arr items => "[" ++ ",".intercalate (renderItems items) ++ "]"
  | .obj members => "\x7b" ++ ",".intercalate (renderMembers members) ++ "\x7d"
termination_by structural json => json

def renderItems : List Json → List String
  | [] => []
  | item :: items => render item :: renderItems items
termination_by structural items => items

def renderMembers : List (String × Json) → List String
  | [] => []
  | member :: members => renderMember member :: renderMembers members
termination_by structural members => members

def renderMember : String × Json → String
  | (name, value) => renderString name ++ ":" ++ render value
termination_by structural member => member

end

/-- An object with one member a line, each value in compact form. -/
def renderLines (members : List (String × Json)) : String :=
  if members.isEmpty then "\x7b\x7d"
  else
    "\x7b\n" ++
      ",\n".intercalate
        (members.map fun member => "  " ++ renderString member.1 ++ ": " ++ member.2.render) ++
      "\n\x7d"

end Json
end InstanceScripts
