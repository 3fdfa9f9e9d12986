import InstanceScripts.Text.Decimal

/-!
# Double-precision numbers

A double is kept as its 64 bits, and every operation on it is exact arithmetic on
natural numbers followed by one rounding to the nearest double, ties to the even
one.  Writing a double gives the fewest digits that read back.
-/

namespace InstanceScripts

/-- A double-precision number, given by its bits. -/
structure Binary64 where
  bits : Nat
  deriving DecidableEq, Repr, Inhabited

namespace Binary64

/-- The bits of positive infinity, which also bound the bits of finite numbers. -/
def infinityBits : Nat :=
  0x7FF0000000000000

/-- The bit that makes a number negative. -/
def signBit : Nat :=
  Nat.pow 2 63

/-- The leading bit of a normal mantissa, which is not stored. -/
def hiddenBit : Nat :=
  Nat.pow 2 52

def infinity : Binary64 := ⟨infinityBits⟩

def nan : Binary64 := ⟨0x7FF8000000000000⟩

/-- The bits without the sign. -/
def magnitude (number : Binary64) : Nat :=
  number.bits % signBit

def isNegative (number : Binary64) : Bool :=
  signBit ≤ number.bits

def isFinite (number : Binary64) : Bool :=
  number.magnitude < infinityBits

def isNan (number : Binary64) : Bool :=
  infinityBits < number.magnitude

def isZero (number : Binary64) : Bool :=
  number.magnitude = 0

/-- The number with the other sign. -/
def negate (number : Binary64) : Binary64 :=
  if number.isNegative then ⟨number.bits - signBit⟩ else ⟨number.bits + signBit⟩

/-- A number with a sign chosen for it. -/
def signed (negative : Bool) (number : Binary64) : Binary64 :=
  if negative then number.negate else number

/-- Equality of numbers: the two zeros are equal, and there is one NaN. -/
def same (left right : Binary64) : Bool :=
  left.bits = right.bits || (left.isNan && right.isNan) || (left.isZero && right.isZero)

/-! ## Rounding -/

/-- A quotient rounded to the nearest natural number, a tie to the even one. -/
def roundDiv (numerator denominator : Nat) : Nat :=
  let quotient := numerator / denominator
  let doubled := 2 * (numerator % denominator)
  if denominator < doubled ∨ (doubled = denominator ∧ quotient % 2 = 1) then quotient + 1
  else quotient

/-- The double nearest to `numerator / denominator`; infinity if that is too large. -/
def ofRatio (numerator denominator : Nat) : Binary64 :=
  if numerator = 0 then ⟨0⟩
  else
    let estimate : Int := (Nat.log2 numerator : Int) - (Nat.log2 denominator : Int) - 52
    let scaled (exponent : Int) : Nat × Nat :=
      (numerator * Nat.pow 2 (-exponent).toNat, denominator * Nat.pow 2 exponent.toNat)
    let (top, bottom) := scaled estimate
    let wanted := if top / bottom < hiddenBit then estimate - 1 else estimate
    let exponent := max wanted (-1074)
    let (top, bottom) := scaled exponent
    let bits := (exponent + 1074).toNat * hiddenBit + roundDiv top bottom
    ⟨min bits infinityBits⟩

/-- Mantissa and exponent: a finite number has magnitude `mantissa * 2 ^ exponent`. -/
def mantissaExponent (number : Binary64) : Nat × Int :=
  let biased : Nat := number.magnitude / hiddenBit
  let fraction : Nat := number.magnitude % hiddenBit
  if biased = 0 then (fraction, -1074)
  else (hiddenBit + fraction, (biased : Int) - 1075)

/-- The magnitude of a finite number as a quotient. -/
def ratio (number : Binary64) : Nat × Nat :=
  let (mantissa, exponent) := number.mantissaExponent
  (mantissa * Nat.pow 2 exponent.toNat, Nat.pow 2 (-exponent).toNat)

/-- Product of two finite magnitudes. -/
def mulMagnitude (left right : Binary64) : Binary64 :=
  let (a, b) := left.ratio
  let (c, d) := right.ratio
  ofRatio (a * c) (b * d)

/-- Quotient of two finite magnitudes, the second of them not zero. -/
def divMagnitude (left right : Binary64) : Binary64 :=
  let (a, b) := left.ratio
  let (c, d) := right.ratio
  ofRatio (a * d) (b * c)

/-- The double nearest to `digits * 10 ^ exponent`.  Exponents far outside the
range of doubles are settled without computing the power. -/
def ofDecimal (digits : Nat) (exponent : Int) : Binary64 :=
  if digits = 0 then ⟨0⟩
  else
    let leading := exponent + ((Nat.toDigits 10 digits).length : Int)
    if 400 < leading then infinity
    else if leading < -400 then ⟨0⟩
    else ofRatio (digits * Nat.pow 10 exponent.toNat) (Nat.pow 10 (-exponent).toNat)

/-! ## Fewest digits -/

/-- Whether `digits * 10 ^ exponent` rounds to the number. -/
def readsBack (number : Binary64) (digits : Nat) (exponent : Int) : Bool :=
  (ofDecimal digits exponent).magnitude = number.magnitude

/-- The power of ten just above a positive magnitude `top / bottom`. -/
def decimalExponent (top bottom : Nat) : Int :=
  let whole := top / bottom
  if 0 < whole then ((Nat.toDigits 10 whole).length : Int)
  else
    let inverse := (bottom + top - 1) / top
    let zeros := (Nat.toDigits 10 (inverse - 1)).length
    1 - (zeros : Int)

/-- On the grid of multiples of `10 ^ exponent`, the neighbour of the number that
reads back, the nearer one if both do. -/
def onGrid? (number : Binary64) (exponent : Int) : Option Nat :=
  let (top, bottom) := number.ratio
  let numerator := top * Nat.pow 10 (-exponent).toNat
  let denominator := bottom * Nat.pow 10 exponent.toNat
  let below := numerator / denominator
  let nearest := roundDiv numerator denominator
  let other := if nearest = below then below + 1 else below
  if number.readsBack nearest exponent then some nearest
  else if number.readsBack other exponent then some other
  else none

/-- The first grid, from the given number of digits on, that has a hit. -/
def firstGrid (number : Binary64) (leading : Int) : Nat → Nat → Nat × Int
  | 0, _ => (0, 0)
  | tries + 1, digits =>
      let exponent := leading - (digits : Int)
      match number.onGrid? exponent with
      | some mantissa => (mantissa, exponent)
      | none => firstGrid number leading tries (digits + 1)

/-- The fewest digits that read back as a positive finite magnitude, and the power
of ten of the last of them. -/
def shortest (number : Binary64) : Nat × Int :=
  let (top, bottom) := number.ratio
  firstGrid number (decimalExponent top bottom) 18 1

/-- Digits with a decimal point, never with an exponent, and with at least one
digit on either side of the point. -/
def positional (digits : List Char) (exponent : Int) : List Char :=
  if 0 ≤ exponent then
    digits ++ List.replicate exponent.toNat '0' ++ ['.', '0']
  else
    let places := (-exponent).toNat
    let padded := List.replicate (places + 1 - digits.length) '0' ++ digits
    let whole := padded.length - places
    padded.take whole ++ '.' :: padded.drop whole

/-- A number in words that read back: positional, with a decimal point. -/
def render (number : Binary64) : String :=
  if number.isNan then "NaN"
  else
    let sign := if number.isNegative then "-" else ""
    if !number.isFinite then sign ++ "inf"
    else if number.isZero then sign ++ "0.0"
    else
      let (mantissa, exponent) := number.shortest
      sign ++ String.ofList (positional (Text.decimal mantissa) exponent)

end Binary64
end InstanceScripts
