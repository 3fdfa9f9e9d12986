import InstanceScripts.Url.Percent

/-!
# Segments of a path

A path is read segment by segment.  Dot segments lead nowhere or up, and all others are
kept in their encoded form.  In `file` URLs the first segment may name a drive.
-/

namespace InstanceScripts
namespace Url

/-- How a scheme reads what follows it: special URLs know two kinds of slashes, and
`file` URLs know drives as well. -/
inductive Manner where
  | general
  | special
  | file
  deriving DecidableEq, Repr

namespace Segments

/-- Slashes, of which special URLs know two kinds. -/
def isSlash (manner : Manner) (char : Char) : Bool :=
  char == '/' || (manner != .general && char == '\\')

def isAsciiLetter (char : Char) : Bool :=
  ('a' ≤ char && char ≤ 'z') || ('A' ≤ char && char ≤ 'Z')

/-- A segment that stays where it is, also when its dot is encoded. -/
def isSingleDot (segment : List Char) : Bool :=
  let lower := segment.map Char.toLower
  lower == ['.'] || lower == ['%', '2', 'e']

/-- A segment that goes up. -/
def isDoubleDot (segment : List Char) : Bool :=
  let lower := segment.map Char.toLower
  [['.', '.'], ['.', '%', '2', 'e'], ['%', '2', 'e', '.'],
    ['%', '2', 'e', '%', '2', 'e']].contains lower

/-- A letter and a colon or a bar. -/
def isDrive : List Char → Bool
  | [letter, mark] => isAsciiLetter letter && (mark == ':' || mark == '|')
  | _ => false

/-- A segment that begins as a drive: nothing or a backslash comes after its mark. -/
def beginsAsDrive : List Char → Bool
  | letter :: mark :: '\\' :: _ => isDrive [letter, mark]
  | segment => isDrive segment

/-- Leave the last segment, unless it begins as a drive.  The segments are given from
the last one to the first. -/
def goUp : List (List Char) → List (List Char)
  | [] => []
  | last :: before => if beginsAsDrive last then last :: before else before

/-- The form in which a segment is kept.  A drive at the front of a `file` path is
marked by a colon. -/
def kept (manner : Manner) (reversed : List (List Char)) (segment : List Char) : List Char :=
  if manner = .file ∧ reversed.isEmpty ∧ isDrive segment then segment.take 1 ++ [':']
  else Percent.encode Percent.path segment

/-- Append raw segments to the segments read so far, which are given from the last one
to the first.  A dot segment at the end leaves an empty segment behind. -/
def append (manner : Manner) (reversed : List (List Char)) :
    List (List Char) → List (List Char)
  | [] => reversed.reverse
  | [last] =>
      if isDoubleDot last then ([] :: goUp reversed).reverse
      else if isSingleDot last then ([] :: reversed).reverse
      else (kept manner reversed last :: reversed).reverse
  | segment :: next :: rest =>
      if isDoubleDot segment then append manner (goUp reversed) (next :: rest)
      else if isSingleDot segment then append manner reversed (next :: rest)
      else append manner (kept manner reversed segment :: reversed) (next :: rest)

/-- The segments without the empty ones at the front, of which one is kept if there is
no other. -/
def trimmed (segments : List (List Char)) : List (List Char) :=
  match segments.dropWhile List.isEmpty with
  | [] => [[]]
  | rest => rest

end Segments
end Url
end InstanceScripts
