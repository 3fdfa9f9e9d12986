/-!
# Blank characters

The characters with the Unicode property `White_Space`, and the two questions
asked about them: what remains of a text without its leading blanks, and whether
anything remains at all.
-/

namespace InstanceScripts
namespace Text

/-- Characters with the property `White_Space`. -/
def isBlank (char : Char) : Bool :=
  let code := char.toNat
  (0x9 ≤ code && code ≤ 0xD) || code == 0x20 || code == 0x85 || code == 0xA0 ||
    code == 0x1680 || (0x2000 ≤ code && code ≤ 0x200A) || code == 0x2028 ||
    code == 0x2029 || code == 0x202F || code == 0x205F || code == 0x3000

/-- A text without its leading blanks. -/
def dropBlank (text : String) : String :=
  String.ofList (text.toList.dropWhile isBlank)

/-- Whether a text holds blanks only. -/
def allBlank (text : String) : Bool :=
  text.toList.all isBlank

/-- Every character that core regards as whitespace is blank. -/
theorem isBlank_of_isWhitespace {char : Char} (whitespace : char.isWhitespace) :
    isBlank char := by
  simp only [Char.isWhitespace, Bool.or_eq_true, decide_eq_true_eq] at whitespace
  rcases whitespace with ((rfl | rfl) | rfl) | rfl <;> decide

end Text
end InstanceScripts
