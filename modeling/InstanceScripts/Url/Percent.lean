import InstanceScripts.Text.Decimal
import InstanceScripts.Text.Utf8

/-!
# Percent-encoding

The sets of characters that each part of a URL spells as `%XX`, and the encoding
and decoding over them.  Characters outside ASCII are in every set.
-/

namespace InstanceScripts
namespace Url
namespace Percent

/-- Controls, `DEL` and everything outside ASCII. -/
def controls (char : Char) : Bool :=
  char.toNat ≤ 0x1F || 0x7F ≤ char.toNat

/-- Characters encoded in a fragment. -/
def fragment (char : Char) : Bool :=
  controls char || [' ', '"', '<', '>', '\x60'].contains char

/-- Characters encoded in a path. -/
def path (char : Char) : Bool :=
  fragment char || ['#', '?', '\x7b', '\x7d'].contains char

/-- Characters encoded in a user name or password. -/
def userinfo (char : Char) : Bool :=
  path char || ['/', ':', ';', '=', '@', '[', '\\', ']', '^', '|'].contains char

/-- Characters encoded in a query. -/
def query (char : Char) : Bool :=
  controls char || [' ', '"', '#', '<', '>'].contains char

/-- Characters encoded in the query of a special URL. -/
def specialQuery (char : Char) : Bool :=
  query char || char == '\''

/-- `%` and two upper-case digits for an octet. -/
def encodeOctet (octet : UInt8) : List Char :=
  ['%', Text.upperHexDigit (octet.toNat / 16), Text.upperHexDigit (octet.toNat % 16)]

/-- Spell the characters of a set by their octets and keep all others. -/
def encode (encoded : Char → Bool) (chars : List Char) : List Char :=
  chars.flatMap fun char =>
    if encoded char then (String.utf8EncodeChar char).flatMap encodeOctet else [char]

/-- Read every `%XX` as an octet; a percent sign without two digits is itself. -/
def decode : List Char → Octets
  | [] => []
  | '%' :: high :: low :: rest =>
      match Text.number? 16 [high, low] with
      | some octet => UInt8.ofNat octet :: decode rest
      | none => 0x25 :: decode (high :: low :: rest)
  | char :: rest => String.utf8EncodeChar char ++ decode rest

/-- Characters outside the set pass through unchanged. -/
theorem encode_eq_self {encoded : Char → Bool} {chars : List Char}
    (plain : ∀ char ∈ chars, encoded char = false) : encode encoded chars = chars := by
  induction chars with
  | nil => rfl
  | cons char rest inductionHypothesis =>
      have here := plain char (by simp)
      have later := inductionHypothesis fun other member => plain other (by simp [member])
      simp only [encode, List.flatMap_cons, here] at later ⊢
      simpa using later

end Percent
end Url
end InstanceScripts
