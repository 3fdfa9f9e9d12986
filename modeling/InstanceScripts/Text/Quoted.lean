import InstanceScripts.Text.Decimal
import InstanceScripts.Text.Hidden

/-!
# Quoted texts

A text between double quotes, as messages show it.  Quotes, backslashes and the
common controls have a short escape; whatever else cannot be seen is spelled out
by its number.
-/

namespace InstanceScripts
namespace Text

/-- How one character is written inside quotes. -/
def quotedChar (char : Char) : List Char :=
  match char with
  | '\x00' => ['\\', '0']
  | '\t' => ['\\', 't']
  | '\r' => ['\\', 'r']
  | '\n' => ['\\', 'n']
  | '"' => ['\\', '"']
  | '\\' => ['\\', '\\']
  | char =>
      if isHidden char then
        ['\\', 'u', '\x7b'] ++ hexadecimal char.toNat ++ ['\x7d']
      else [char]

/-- A text in double quotes. -/
def quoted (text : String) : String :=
  String.ofList ('"' :: text.toList.flatMap quotedChar ++ ['"'])

end Text
end InstanceScripts
