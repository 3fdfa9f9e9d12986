import InstanceScripts.Unicode.CombiningClass
import InstanceScripts.Unicode.Composition

/-!
# Composed texts

A text in which marks stand in the order of their classes, and in which every letter is
composed with as many of the marks after it as can be.  Texts that look alike have one
composed form.  Characters that only stand for another one are expected to have been
replaced.
-/

namespace InstanceScripts
namespace Unicode

/-- Put a character behind others, given from the last one to the first; a mark passes
those of a higher class. -/
def insertMark (reversed : List Char) (char : Char) : List Char :=
  let level := combiningClass char
  if level = 0 then char :: reversed
  else
    reversed.takeWhile (level < combiningClass ·) ++
      char :: reversed.dropWhile (level < combiningClass ·)

/-- Characters with their marks in the order of the classes. -/
def reorder (chars : List Char) : List Char :=
  (chars.foldl insertMark []).reverse

/-- Compose what follows with `starter`.  The marks that stay behind it are kept; one of
them hides the characters of its own and of lower classes from the starter. -/
def composeFrom (starter : Char) (marks : List Char) : List Char → List Char
  | [] => starter :: marks
  | char :: chars =>
      let hidden := marks.any fun mark => combiningClass char ≤ combiningClass mark
      match if hidden then none else compose? starter char with
      | some whole => composeFrom whole marks chars
      | none =>
          if combiningClass char = 0 then starter :: marks ++ composeFrom char [] chars
          else composeFrom starter (marks ++ [char]) chars

/-- The composed form of a text.  Up to the first mark there is nothing to compose. -/
def composed (chars : List Char) : List Char :=
  if chars.all (·.toNat < 0x300) then chars
  else
    match reorder (chars.flatMap decompose) with
    | [] => []
    | starter :: rest => composeFrom starter [] rest

/-- Whether a text is in its composed form. -/
def isComposed (chars : List Char) : Bool :=
  composed chars == chars

theorem composed_eq_self_of_lt {chars : List Char}
    (low : ∀ char ∈ chars, char.toNat < 0x300) : composed chars = chars := by
  have all : chars.all (·.toNat < 0x300) = true := by
    simpa using low
  simp [composed, all]

end Unicode
end InstanceScripts
