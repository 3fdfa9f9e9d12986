/-!
# Text and its octets

UTF-8 read one octet at a time.  Decoding either gives the text or points at
the first octets that no text contains: where the broken sequence begins and
how many of its octets had been accepted before it broke.
-/

namespace InstanceScripts

/-- Octets as they are sent or stored. -/
abbrev Octets := List UInt8

namespace Utf8

/-- The octets of a text. -/
def encodeChars : List Char → Octets
  | [] => []
  | char :: chars => String.utf8EncodeChar char ++ encodeChars chars

/-- The octets of a string. -/
def encode (text : String) : Octets :=
  encodeChars text.toList

/-- Where a sequence of octets stops being text.  `length` counts the octets of
the broken sequence that are to be rejected; it is absent when the octets end in
the middle of a character. -/
structure Defect where
  index : Nat
  length : Option Nat
  deriving DecidableEq, Repr

/-- The words in which a defect is reported. -/
def Defect.message (defect : Defect) : String :=
  match defect.length with
  | some length =>
      "invalid utf-8 sequence of " ++ toString length ++
        " bytes from index " ++ toString defect.index
  | none =>
      "incomplete utf-8 byte sequence from index " ++ toString defect.index

/-- A character whose first octet has been read: where it began, the bits read
so far, and the ranges in which the octets still owed have to lie. -/
structure Unfinished where
  start : Nat
  bits : Nat
  owed : List (Nat × Nat)

/-- The range of an octet that merely continues a character. -/
def tail : Nat × Nat :=
  (0x80, 0xBF)

/-- What the first octet of a character above `0x7F` announces: its own bits and
the ranges of the octets that follow.  The narrowed ranges keep out overlong
forms, surrogates and numbers above `0x10FFFF`. -/
def announce (octet : Nat) : Option (Nat × List (Nat × Nat)) :=
  if 0xC2 ≤ octet ∧ octet ≤ 0xDF then some (octet - 0xC0, [tail])
  else if octet = 0xE0 then some (0, [(0xA0, 0xBF), tail])
  else if octet = 0xED then some (0xD, [(0x80, 0x9F), tail])
  else if 0xE1 ≤ octet ∧ octet ≤ 0xEF then some (octet - 0xE0, [tail, tail])
  else if octet = 0xF0 then some (0, [(0x90, 0xBF), tail, tail])
  else if 0xF1 ≤ octet ∧ octet ≤ 0xF3 then some (octet - 0xF0, [tail, tail, tail])
  else if octet = 0xF4 then some (4, [(0x80, 0x8F), tail, tail])
  else none

/-- Read the octets from position `index` on, with at most one character
unfinished. -/
def decodeFrom (index : Nat) : Option Unfinished → Octets → Except Defect (List Char)
  | none, [] => .ok []
  | some unfinished, [] => .error ⟨unfinished.start, none⟩
  | none, octet :: octets =>
      if octet.toNat < 0x80 then
        (decodeFrom (index + 1) none octets).map (Char.ofNat octet.toNat :: ·)
      else
        match announce octet.toNat with
        | none => .error ⟨index, some 1⟩
        | some (bits, owed) => decodeFrom (index + 1) (some ⟨index, bits, owed⟩) octets
  | some unfinished, octet :: octets =>
      match unfinished.owed with
      | [] => .error ⟨unfinished.start, some 1⟩
      | (least, greatest) :: owed =>
          if least ≤ octet.toNat ∧ octet.toNat ≤ greatest then
            let bits := unfinished.bits * 64 + octet.toNat % 64
            match owed with
            | [] => (decodeFrom (index + 1) none octets).map (Char.ofNat bits :: ·)
            | _ => decodeFrom (index + 1) (some ⟨unfinished.start, bits, owed⟩) octets
          else .error ⟨unfinished.start, some (index - unfinished.start)⟩

/-- The text of some octets, or the first defect. -/
def decode (octets : Octets) : Except Defect String :=
  (decodeFrom 0 none octets).map String.ofList

/-- Read octets as text in which every rejected sequence is replaced by
`U+FFFD`. -/
def decodeLossyFrom : Option Unfinished → Nat → Octets → List Char
  | none, _, [] => []
  | some _, _, [] => ['\uFFFD']
  | none, 0, _ :: _ => []
  | some _, 0, _ :: _ => ['\uFFFD']
  | none, fuel + 1, octet :: octets =>
      if octet.toNat < 0x80 then
        Char.ofNat octet.toNat :: decodeLossyFrom none fuel octets
      else
        match announce octet.toNat with
        | none => '\uFFFD' :: decodeLossyFrom none fuel octets
        | some (bits, owed) => decodeLossyFrom (some ⟨0, bits, owed⟩) fuel octets
  | some unfinished, fuel + 1, octet :: octets =>
      match unfinished.owed with
      | [] => '\uFFFD' :: decodeLossyFrom none fuel (octet :: octets)
      | (least, greatest) :: owed =>
          if least ≤ octet.toNat ∧ octet.toNat ≤ greatest then
            let bits := unfinished.bits * 64 + octet.toNat % 64
            match owed with
            | [] => Char.ofNat bits :: decodeLossyFrom none fuel octets
            | _ => decodeLossyFrom (some ⟨0, bits, owed⟩) fuel octets
          else '\uFFFD' :: decodeLossyFrom none fuel (octet :: octets)

/-- The text of some octets, with `U+FFFD` for each maximal piece that is not
text.  Every octet is looked at twice at most. -/
def decodeLossy (octets : Octets) : String :=
  String.ofList (decodeLossyFrom none (2 * octets.length + 1) octets)

end Utf8
end InstanceScripts
