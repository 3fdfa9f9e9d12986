import InstanceScripts.Text.Utf8

/-!
# Base64

Three octets are written as four characters; the last group is filled up with equals
signs.
-/

namespace InstanceScripts
namespace Text

/-- The character for a number below 64. -/
def base64Char (number : Nat) : Char :=
  if number < 26 then Char.ofNat ('A'.toNat + number)
  else if number < 52 then Char.ofNat ('a'.toNat + (number - 26))
  else if number < 62 then Char.ofNat ('0'.toNat + (number - 52))
  else if number = 62 then '+'
  else '/'

/-- Octets in Base64. -/
def base64 : Octets → List Char
  | [] => []
  | [a] =>
      let a := a.toNat
      [base64Char (a / 4), base64Char (a % 4 * 16), '=', '=']
  | [a, b] =>
      let a := a.toNat
      let b := b.toNat
      [base64Char (a / 4), base64Char (a % 4 * 16 + b / 16), base64Char (b % 16 * 4), '=']
  | a :: b :: c :: rest =>
      let a := a.toNat
      let b := b.toNat
      let c := c.toNat
      base64Char (a / 4) :: base64Char (a % 4 * 16 + b / 16) ::
        base64Char (b % 16 * 4 + c / 64) :: base64Char (c % 64) :: base64 rest

end Text
end InstanceScripts
