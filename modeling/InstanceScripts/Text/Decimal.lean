/-!
# Decimal and hexadecimal digits

Reading and writing natural numbers in the bases that the formats of this
library use.
-/

namespace InstanceScripts
namespace Text

/-- Value of a digit in a base up to sixteen. -/
def digitValue? (base : Nat) (char : Char) : Option Nat :=
  let value? :=
    if '0' ≤ char ∧ char ≤ '9' then some (char.toNat - '0'.toNat)
    else if 'a' ≤ char ∧ char ≤ 'f' then some (char.toNat - 'a'.toNat + 10)
    else if 'A' ≤ char ∧ char ≤ 'F' then some (char.toNat - 'A'.toNat + 10)
    else none
  value?.filter (· < base)

/-- A character that is a decimal digit. -/
def isDigit (char : Char) : Bool :=
  '0' ≤ char && char ≤ '9'

/-- Continue a number with the digits of a text; any other character refuses it. -/
def numberFrom? (base : Nat) (number : Nat) : List Char → Option Nat
  | [] => some number
  | char :: chars =>
      match digitValue? base char with
      | some value => numberFrom? base (number * base + value) chars
      | none => none

/-- A number written as one or more digits. -/
def number? (base : Nat) (chars : List Char) : Option Nat :=
  if chars.isEmpty then none else numberFrom? base 0 chars

/-- The decimal digits of a number. -/
def decimal (number : Nat) : List Char :=
  Nat.toDigits 10 number

/-- The decimal digits of an integer, with a minus sign below zero. -/
def signedDecimal (number : Int) : List Char :=
  match number with
  | .ofNat number => decimal number
  | .negSucc number => '-' :: decimal (number + 1)

/-- Lower-case hexadecimal digits of a number. -/
def hexadecimal (number : Nat) : List Char :=
  Nat.toDigits 16 number

/-- The upper-case hexadecimal digit of a number below sixteen. -/
def upperHexDigit (number : Nat) : Char :=
  (Nat.digitChar number).toUpper

end Text
end InstanceScripts
