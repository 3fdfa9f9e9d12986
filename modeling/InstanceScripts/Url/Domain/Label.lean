import InstanceScripts.Unicode.Composed
import InstanceScripts.Unicode.Direction
import InstanceScripts.Unicode.Joining
import InstanceScripts.Url.Domain.Mapping
import InstanceScripts.Url.Punycode

/-!
# Labels

The parts of a domain between its full stops.  A label outside ASCII is written in
punycode behind `xn--`, and a label that is written so has to be the written form of
one that a domain may contain.
-/

namespace InstanceScripts
namespace Url
namespace Domain

/-- A label as it is shown and as it is written in ASCII. -/
structure Label where
  shown : List Char
  ascii : List Char
  deriving DecidableEq, Repr

namespace Label

def isAscii (chars : List Char) : Bool :=
  chars.all (·.toNat < 0x80)

/-- What the written form of a label outside ASCII begins with. -/
def encodedMark : List Char :=
  ['x', 'n', '-', '-']

/-- The longest label that is written in punycode, and the longest punycode that is
read. -/
def shownLimit : Nat :=
  1000

def encodedLimit : Nat :=
  2000

/-! ## Joiners -/

/-- The two characters that ask for letters to be joined or not to be. -/
def isJoiner (char : Char) : Bool :=
  char == '\u200C' || char == '\u200D'

/-- Whether a character that is joined in a given way is the first one that counts. -/
def meets (reaches : Unicode.Joining → Bool) (chars : List Char) : Bool :=
  (chars.find? fun char => Unicode.joining char ≠ .transparent).any fun char =>
    reaches (Unicode.joining char)

/-- Whether a joiner changes anything where it stands: after a consonant without its
vowel, or, if it keeps letters apart, between letters that would be joined.  The
characters before it are given from the last one to the first. -/
def joinerFits (before : List Char) (joiner : Char) (after : List Char) : Bool :=
  match before with
  | [] => false
  | previous :: _ =>
      Unicode.combiningClass previous == Unicode.viramaClass ||
        (joiner == '\u200C' && meets Unicode.Joining.reachesLeft before &&
          meets Unicode.Joining.reachesRight after)

/-- Whether all joiners fit, those of the characters before included. -/
def joinersFit (before : List Char) : List Char → Bool
  | [] => true
  | char :: after =>
      (!isJoiner char || joinerFits before char after) && joinersFit (char :: before) after

/-- Whether a label outside ASCII is well formed: it begins with no mark, and its
joiners fit. -/
def isWellFormed (chars : List Char) : Bool :=
  !(chars.head?.any Unicode.isMark) && joinersFit [] chars

/-! ## Direction -/

/-- Whether a label has characters that are written from right to left. -/
def isRightward (chars : List Char) : Bool :=
  chars.any fun char =>
    Unicode.direction char == .right || Unicode.direction char == .arabicNumber

/-- Whether a label can stand beside labels of either direction: it begins with a
letter, ends with a letter or a number, marks aside, and has one direction and one kind
of numbers. -/
def hasOneDirection (chars : List Char) : Bool :=
  match chars.map Unicode.direction with
  | [] => true
  | first :: rest =>
      let reversed := rest.reverse.dropWhile (· == .nonspacing)
      let ends (allowed : List Unicode.Direction) : Bool :=
        reversed.head?.all allowed.contains
      match first with
      | .left =>
          ends [.left, .number] &&
            reversed.all fun direction => direction != .right && direction != .arabicNumber
      | .right =>
          ends [.right, .number, .arabicNumber] && !reversed.contains .left &&
            !(reversed.contains .number && reversed.contains .arabicNumber)
      | _ => false

/-! ## Reading -/

/-- The label that punycode stands for. -/
def decode? (encoded : List Char) : Option (List Char) :=
  if encoded.isEmpty || encoded.getLast? == some '-' || encodedLimit < encoded.length then none
  else
    (Punycode.decode? encoded).filter fun shown =>
      !isAscii shown && !encodedMark.isPrefixOf shown && shown.all isPlain &&
        Unicode.isComposed shown && isWellFormed shown

/-- Read a label whose characters have been replaced by those that they stand for. -/
def read? (chars : List Char) : Option Label :=
  if encodedMark.isPrefixOf chars then
    if isAscii chars then
      (decode? (chars.drop encodedMark.length)).map fun shown => ⟨shown, chars⟩
    else none
  else if isAscii chars then some ⟨chars, chars⟩
  else if chars.length ≤ shownLimit ∧ isWellFormed chars then
    some ⟨chars, encodedMark ++ Punycode.encode chars⟩
  else none

end Label
end Domain
end Url
end InstanceScripts
