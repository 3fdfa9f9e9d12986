import InstanceScripts.Text.Utf8
import Mathlib.Tactic.SplitIfs

/-!
# The order of texts

Texts are ordered by their characters.  UTF-8 keeps that order: the octets of two texts are
ordered as the texts are.
-/

namespace InstanceScripts
namespace Utf8

theorem toNat_octet {number : Nat} (small : number < 256) : (UInt8.ofNat number).toNat = number :=
  UInt8.toNat_ofNat_of_lt small

/-- A smaller number is smaller in its leading part, or in its last digit to the base 64. -/
theorem lt_leading_or_last {first second : Nat} (less : first < second) :
    first / 64 < second / 64 ∨ first / 64 = second / 64 ∧ first % 64 < second % 64 := by
  omega

/-- The octets of a smaller character come first, whatever follows them. -/
theorem encodeChar_append_lt {left right : Char} (less : left < right)
    (leftRest rightRest : Octets) :
    String.utf8EncodeChar left ++ leftRest < String.utf8EncodeChar right ++ rightRest := by
  have numbers : left.val.toNat < right.val.toNat := UInt32.lt_iff_toNat_lt.mp less
  have bounded : right.val.toNat < 0x110000 := by
    rcases right.valid with small | ⟨_, large⟩ <;> omega
  unfold String.utf8EncodeChar
  generalize left.val.toNat = first at numbers
  generalize right.val.toNat = second at numbers bounded
  dsimp only
  -- A longer sequence has a greater first octet; those of one length compare digit by digit,
  -- which is hard to see for four octets only.
  split_ifs <;>
    simp (disch := omega) only [List.cons_append, List.nil_append, List.cons_lt_cons_iff,
      UInt8.lt_iff_toNat_lt, ← UInt8.toNat_inj, toNat_octet]
  any_goals omega
  rcases lt_leading_or_last numbers with leading | last
  · rcases lt_leading_or_last leading with leading | last
    · rcases lt_leading_or_last leading with leading | last <;> omega
    · omega
  · omega

theorem encodeChars_lt {left right : List Char} (less : left < right) :
    encodeChars left < encodeChars right := by
  induction less with
  | @nil char chars =>
      have octets : 0 < (encodeChars (char :: chars)).length := by
        rw [encodeChars, List.length_append, String.length_utf8EncodeChar]
        have := char.utf8Size_pos
        omega
      obtain ⟨octet, rest, equal⟩ := List.exists_cons_of_length_pos octets
      rw [equal]
      exact List.nil_lt_cons octet rest
  | rel less => exact encodeChar_append_lt less _ _
  | cons _ inductionHypothesis => exact List.append_left_lt inductionHypothesis

/-- Texts in order have their octets in order. -/
theorem encode_le_encode {left right : String} (ordered : left ≤ right) :
    encode left ≤ encode right := by
  rcases Std.le_iff_lt_or_eq.mp ordered with less | rfl
  · exact List.le_of_lt (encodeChars_lt (String.lt_iff.mp less))
  · exact List.le_refl (encode left)

end Utf8
end InstanceScripts
