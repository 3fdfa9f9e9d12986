import InstanceScripts.Text.Decimal

/-!
# Punycode

Labels outside ASCII are written in ASCII: first the ASCII characters, then a
delimiter, then where each further character is inserted, in digits of base 36
with a threshold that adapts to the distances seen so far.
-/

namespace InstanceScripts
namespace Url
namespace Punycode

/-- Divide a distance until it is small; the second argument bounds the rounds. -/
def settle : Nat → Nat → Nat → Nat
  | 0, _, steps => steps
  | rounds + 1, distance, steps =>
      if 455 < distance then settle rounds (distance / 35) (steps + 36)
      else steps + 36 * distance / (distance + 38)

/-- The bias after a distance has been written. -/
def adapt (distance count : Nat) (first : Bool) : Nat :=
  let distance := if first then distance / 700 else distance / 2
  let distance := distance + distance / count
  settle (distance + 1) distance 0

/-- The threshold of the digit at position `position`. -/
def threshold (position bias : Nat) : Nat :=
  if position ≤ bias then 1 else min (position - bias) 26

/-- A digit of base 36: letters, then decimal digits. -/
def digit (value : Nat) : Char :=
  if value < 26 then Char.ofNat ('a'.toNat + value) else Char.ofNat ('0'.toNat + value - 26)

/-- The value of a digit of base 36. -/
def digitValue? (char : Char) : Option Nat :=
  if 'a' ≤ char ∧ char ≤ 'z' then some (char.toNat - 'a'.toNat)
  else if 'A' ≤ char ∧ char ≤ 'Z' then some (char.toNat - 'A'.toNat)
  else if '0' ≤ char ∧ char ≤ '9' then some (char.toNat - '0'.toNat + 26)
  else none

/-- Write a distance; every digit divides it, so it bounds the digits. -/
def writeDistance : Nat → Nat → Nat → Nat → List Char
  | 0, _, _, _ => []
  | rounds + 1, distance, position, bias =>
      let limit := threshold position bias
      if distance < limit then [digit distance]
      else
        digit (limit + (distance - limit) % (36 - limit)) ::
          writeDistance rounds ((distance - limit) / (36 - limit)) (position + 36) bias

/-- What the encoder knows between two characters. -/
structure Encoder where
  distance : Nat
  bias : Nat
  written : Nat
  output : List Char

/-- Go through the label for one code point: count what lies below it, write where
it stands. -/
def writeCode (code basics : Nat) (encoder : Encoder) : List Char → Encoder
  | [] => encoder
  | char :: chars =>
      if char.toNat < code then
        writeCode code basics { encoder with distance := encoder.distance + 1 } chars
      else if char.toNat = code then
        let digits := writeDistance (encoder.distance + 1) encoder.distance 36 encoder.bias
        let bias := adapt encoder.distance (encoder.written + 1) (encoder.written == basics)
        writeCode code basics ⟨0, bias, encoder.written + 1, encoder.output ++ digits⟩ chars
      else writeCode code basics encoder chars

/-- Write the code points of a label in increasing order, from `code` on; the first
argument bounds their number. -/
def writeFrom : Nat → List Char → Nat → Nat → Encoder → List Char
  | 0, _, _, _, encoder => encoder.output
  | rounds + 1, chars, basics, code, encoder =>
      match ((chars.map Char.toNat).filter (code ≤ ·)).min? with
      | none => encoder.output
      | some next =>
          let distance := encoder.distance + (next - code) * (encoder.written + 1)
          let encoder := writeCode next basics { encoder with distance } chars
          writeFrom rounds chars basics (next + 1)
            { encoder with distance := encoder.distance + 1 }

/-- A label in ASCII. -/
def encode (chars : List Char) : List Char :=
  let basics := chars.filter fun char => char.toNat < 0x80
  let start := if basics.isEmpty then [] else basics ++ ['-']
  writeFrom (chars.length + 1) chars basics.length 0x80 ⟨0, 72, basics.length, start⟩

/-- What the decoder knows between two digits. -/
structure Decoder where
  code : Nat
  bias : Nat
  place : Nat
  previous : Nat
  weight : Nat
  position : Nat
  label : List Char

/-- The largest number that a decoder counts to. -/
def countLimit : Nat :=
  0xFFFFFFFF

/-- Read insertions. -/
def readFrom (decoder : Decoder) : List Char → Option (List Char)
  | [] => if decoder.weight = 1 ∧ decoder.position = 36 then some decoder.label else none
  | char :: chars =>
      match digitValue? char with
      | none => none
      | some value =>
          let place := decoder.place + value * decoder.weight
          let limit := threshold decoder.position decoder.bias
          if countLimit < place then none
          else if value < limit then
            let count := decoder.label.length + 1
            let bias := adapt (place - decoder.previous) count (decoder.previous == 0)
            let code := decoder.code + place / count
            let place := place % count
            if 0x10FFFF < code ∨ (0xD800 ≤ code ∧ code ≤ 0xDFFF) then none
            else
              let label := decoder.label.take place ++ Char.ofNat code :: decoder.label.drop place
              readFrom ⟨code, bias, place + 1, place + 1, 1, 36, label⟩ chars
          else
            let weight := decoder.weight * (36 - limit)
            if countLimit < weight then none
            else readFrom { decoder with place, weight, position := decoder.position + 36 } chars

/-- The label that some ASCII characters stand for.  The last hyphen ends the
characters that stand for themselves; a hyphen that ends none is no digit. -/
def decode? (chars : List Char) : Option (List Char) :=
  let reversed := chars.reverse
  let basics := ((reversed.dropWhile (· ≠ '-')).drop 1).reverse
  let digits := if basics.isEmpty then chars else (reversed.takeWhile (· ≠ '-')).reverse
  readFrom ⟨0x80, 72, 0, 0, 1, 36, basics⟩ digits

end Punycode
end Url
end InstanceScripts
