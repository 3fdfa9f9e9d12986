import InstanceScripts.Json.Basic

/-!
# Numbers in JSON texts

An integer that fits into 64 bits stays an integer.  Everything else becomes a
double: up to nineteen or twenty significant digits are gathered exactly and then
scaled once by a power of ten, so the result may be a neighbour of the nearest
double, and a magnitude beyond the doubles is refused.
-/

namespace InstanceScripts
namespace Json
namespace Number

/-- The largest significand that is gathered. -/
def significandLimit : Nat :=
  Nat.pow 2 64 - 1

/-- Extend a significand by digits while it fits; the second component counts the
digits taken. -/
def absorb (significand : Nat) : List Char → Nat × Nat
  | [] => (significand, 0)
  | char :: chars =>
      let extended := significand * 10 + (char.toNat - '0'.toNat)
      if significandLimit < extended then (significand, 0)
      else
        let (result, taken) := absorb extended chars
        (result, taken + 1)

/-- Scale a magnitude by a power of ten, in steps that stay within the table of
powers that are doubles.  The first argument bounds the steps: three of them take
every significand to zero. -/
def scale : Nat → Binary64 → Int → Option Binary64
  | 0, magnitude, _ => some magnitude
  | steps + 1, magnitude, exponent =>
      if exponent.natAbs ≤ 308 then
        let power := Binary64.ofDecimal 1 exponent.natAbs
        if 0 ≤ exponent then
          some (magnitude.mulMagnitude power) |>.filter (·.isFinite)
        else some (magnitude.divMagnitude power)
      else if magnitude.isZero then some magnitude
      else if 0 ≤ exponent then none
      else scale steps (magnitude.divMagnitude (Binary64.ofDecimal 1 308)) (exponent + 308)

/-- The double for a significand and a decimal exponent. -/
def ofParts (negative : Bool) (significand : Nat) (exponent : Int) : Option Json :=
  (scale 8 (Binary64.ofRatio significand 1) exponent).map
    fun magnitude => .float (magnitude.signed negative)

/-- Read an exponent after its letter and finish the number. -/
def afterExponentMark (negative : Bool) (significand : Nat) (exponent : Int)
    (chars : List Char) : Option (Json × List Char) :=
  let (downward, chars) :=
    match chars with
    | '+' :: rest => (false, rest)
    | '-' :: rest => (true, rest)
    | chars => (false, chars)
  let digits := chars.takeWhile Text.isDigit
  let rest := chars.dropWhile Text.isDigit
  if digits.isEmpty then none
  else
    let written := (Text.number? 10 digits).getD 0
    if Nat.pow 2 31 ≤ written then
      if significand ≠ 0 ∧ !downward then none
      else some (.float (Binary64.signed negative ⟨0⟩), rest)
    else
      (ofParts negative significand
        (if downward then exponent - written else exponent + written)).map (·, rest)

/-- Finish a double after its digits. -/
def afterDigits (negative : Bool) (significand : Nat) (exponent : Int)
    (chars : List Char) : Option (Json × List Char) :=
  match chars with
  | 'e' :: rest => afterExponentMark negative significand exponent rest
  | 'E' :: rest => afterExponentMark negative significand exponent rest
  | chars => (ofParts negative significand exponent).map (·, chars)

/-- Read the digits after a decimal point, of which there is at least one. -/
def afterPoint (negative : Bool) (significand : Nat) (exponent : Int)
    (chars : List Char) : Option (Json × List Char) :=
  let digits := chars.takeWhile Text.isDigit
  if digits.isEmpty then none
  else
    let (significand, taken) := absorb significand digits
    afterDigits negative significand (exponent - taken) (chars.dropWhile Text.isDigit)

/-- The integer of a sign and a significand; a negative zero is a double, and so
is whatever lies below the 64-bit integers. -/
def ofInteger (negative : Bool) (significand : Nat) : Json :=
  if !negative then .int significand
  else if significand = 0 ∨ Nat.pow 2 63 < significand then
    .float (Binary64.ofRatio significand 1).negate
  else .int (-(significand : Int))

/-- Read an unsigned number at the front of a text. -/
def readUnsigned (negative : Bool) (chars : List Char) : Option (Json × List Char) :=
  let digits := chars.takeWhile Text.isDigit
  let rest := chars.dropWhile Text.isDigit
  if digits.isEmpty then none
  else if digits.head? = some '0' ∧ 1 < digits.length then none
  else
    let (significand, taken) := absorb 0 digits
    let dropped := digits.length - taken
    match rest with
    | '.' :: fraction => afterPoint negative significand dropped fraction
    | 'e' :: _ => afterDigits negative significand dropped rest
    | 'E' :: _ => afterDigits negative significand dropped rest
    | _ =>
        if dropped = 0 then some (ofInteger negative significand, rest)
        else afterDigits negative significand dropped rest

/-- Read a number at the front of a text. -/
def read (chars : List Char) : Option (Json × List Char) :=
  match chars with
  | '-' :: rest => readUnsigned true rest
  | chars => readUnsigned false chars

end Number
end Json
end InstanceScripts
