/-!
# Ranges of characters

Properties of characters as tables of ranges of code points, both ends included.
-/

namespace InstanceScripts
namespace Unicode

/-- A set of characters. -/
abbrev Ranges := List (Nat × Nat)

/-- Whether a character is in one of the ranges. -/
def Ranges.holds (ranges : Ranges) (char : Char) : Bool :=
  ranges.any fun (first, last) => first ≤ char.toNat && char.toNat ≤ last

/-- A property that characters of one range share. -/
abbrev Classes (α : Type) := List (Nat × Nat × α)

/-- The value of a property for a character, if the table lists it. -/
def Classes.value? (classes : Classes α) (char : Char) : Option α :=
  (classes.find? fun (first, last, _) => first ≤ char.toNat && char.toNat ≤ last).map (·.2.2)

theorem Ranges.holds_iff {ranges : Ranges} {char : Char} :
    ranges.holds char = true ↔
      ∃ range ∈ ranges, range.1 ≤ char.toNat ∧ char.toNat ≤ range.2 := by
  simp [Ranges.holds, List.any_eq_true]

end Unicode
end InstanceScripts
