import InstanceScripts.Yaml.Token

/-!
# Reading positions in YAML texts

A cursor is the text that remains and the place where it begins.  Lines end at any
of the five line breaks, of which a carriage return with a line feed is one.
-/

namespace InstanceScripts
namespace Yaml

/-- Characters that may stand in a text at all. -/
def isAllowed (char : Char) : Bool :=
  let code := char.toNat
  code == 0x9 || code == 0xA || code == 0xD || (0x20 ≤ code && code ≤ 0x7E) || code == 0x85 ||
    (0xA0 ≤ code && code ≤ 0xD7FF) || (0xE000 ≤ code && code ≤ 0xFFFD) || 0x10000 ≤ code

/-- Characters that end a line. -/
def isBreak (char : Char) : Bool :=
  char == '\n' || char == '\r' || char == '\x85' || char == '\u2028' || char == '\u2029'

/-- Blanks within a line. -/
def isSpaceOrTab (char : Char) : Bool :=
  char == ' ' || char == '\t'

/-- Characters of names, handles and directives. -/
def isWordChar (char : Char) : Bool :=
  char.isAlphanum || char == '_' || char == '-'

/-- Whether nothing follows, or a blank or a line break. -/
def endsWord : Option Char → Bool
  | none => true
  | some char => isSpaceOrTab char || isBreak char

/-- The text that remains, its first character's number and its place. -/
structure Cursor where
  rest : List Char
  index : Nat
  mark : Mark
  deriving Repr

namespace Cursor

/-- The character `offset` places ahead. -/
def peek? (cursor : Cursor) (offset : Nat) : Option Char :=
  cursor.rest[offset]?

/-- Whether a given character comes next. -/
def at? (cursor : Cursor) (char : Char) : Bool :=
  cursor.rest.head? == some char

/-- Pass some characters of the same line. -/
def advance (cursor : Cursor) (count : Nat) : Cursor :=
  ⟨cursor.rest.drop count, cursor.index + count,
    ⟨cursor.mark.line, cursor.mark.column + count⟩⟩

/-- Take the characters of the same line that satisfy a test. -/
def takeWhile (cursor : Cursor) (test : Char → Bool) : List Char × Cursor :=
  let taken := cursor.rest.takeWhile test
  (taken, cursor.advance taken.length)

/-- Pass the characters of the same line that satisfy a test. -/
def skipWhile (cursor : Cursor) (test : Char → Bool) : Cursor :=
  (cursor.takeWhile test).2

/-- Pass the rest of the line. -/
def skipToBreak (cursor : Cursor) : Cursor :=
  cursor.skipWhile (!isBreak ·)

/-- Pass a line break; the ordinary ones count as a line feed. -/
def lineBreak? (cursor : Cursor) : Option (List Char × Cursor) :=
  let next (rest : List Char) (count : Nat) : Cursor :=
    ⟨rest, cursor.index + count, ⟨cursor.mark.line + 1, 0⟩⟩
  match cursor.rest with
  | '\r' :: '\n' :: rest => some (['\n'], next rest 2)
  | char :: rest =>
      if char = '\u2028' ∨ char = '\u2029' then some ([char], next rest 1)
      else if isBreak char then some (['\n'], next rest 1)
      else none
  | [] => none

/-- Whether a document marker stands here, at the beginning of a line. -/
def atDocumentMarker (cursor : Cursor) (marker : Char) : Bool :=
  cursor.mark.column == 0 && [marker, marker, marker].isPrefixOf cursor.rest &&
    endsWord (cursor.peek? 3)

def atAnyDocumentMarker (cursor : Cursor) : Bool :=
  cursor.atDocumentMarker '-' || cursor.atDocumentMarker '.'

end Cursor

/-! ## Gaps -/

/-- Blanks and line breaks between two words of a scalar: the blanks if the gap stays
on one line, else its first line break and all others. -/
structure Gap where
  spaces : List Char
  firstBreak : Option (List Char)
  moreBreaks : List Char

/-- What a gap turns into: a single line feed becomes a space, and of several all but
the first remain. -/
def Gap.fold (gap : Gap) : List Char :=
  match gap.firstBreak with
  | none => gap.spaces
  | some first =>
      if first = ['\n'] then
        if gap.moreBreaks.isEmpty then [' '] else gap.moreBreaks
      else first ++ gap.moreBreaks

/-- Read a gap.  A tab in the indentation of a later line, left of `indent`, is
refused; every step takes a character. -/
def readGap (indent : Nat) : Nat → Gap → Cursor → Option (Gap × Cursor)
  | 0, _, _ => none
  | fuel + 1, gap, cursor =>
      match cursor.rest with
      | [] => some (gap, cursor)
      | char :: _ =>
          if isSpaceOrTab char then
            match gap.firstBreak with
            | none =>
                readGap indent fuel { gap with spaces := gap.spaces ++ [char] }
                  (cursor.advance 1)
            | some _ =>
                if char = '\t' ∧ cursor.mark.column < indent then none
                else readGap indent fuel gap (cursor.advance 1)
          else
            match cursor.lineBreak? with
            | none => some (gap, cursor)
            | some (lineBreak, next) =>
                match gap.firstBreak with
                | none => readGap indent fuel ⟨[], some lineBreak, gap.moreBreaks⟩ next
                | some _ =>
                    readGap indent fuel { gap with moreBreaks := gap.moreBreaks ++ lineBreak } next

end Yaml
end InstanceScripts
