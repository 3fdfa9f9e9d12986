import InstanceScripts.Url.Domain.Label

/-!
# Domain names in ASCII

A domain is compared and sent in lower-case ASCII, whatever the characters in which it
is written.  All its characters are replaced by those that they stand for, and then
every label is read by itself.
-/

namespace InstanceScripts
namespace Url
namespace Domain

/-- Characters that no domain contains. -/
def isForbidden (char : Char) : Bool :=
  char.toNat ≤ 0x20 || char.toNat == 0x7F ||
    ['#', '%', '/', ':', '<', '>', '?', '@', '[', '\\', ']', '^', '|'].contains char

/-- Split at every full stop. -/
def labels (chars : List Char) : List (List Char) :=
  chars.splitOn '.'

/-- A domain in the characters that its own stand for. -/
def mapped (chars : List Char) : Option (List Char) :=
  (chars.mapM mapped?).map fun parts => Unicode.composed parts.flatten

/-- The labels of a domain.  Where one of them is written from right to left, each has
to have one direction. -/
def read? (chars : List Char) : Option (List Label) := do
  let chars ← mapped chars
  let read ← (labels chars).mapM Label.read?
  if (read.any fun label => Label.isRightward label.shown) &&
      !(read.all fun label => Label.hasOneDirection label.shown) then none
  else some read

/-- A domain in ASCII, unless one of its characters or labels does not belong in a
domain. -/
def toAscii? (chars : List Char) : Option (List Char) := do
  let read ← read? chars
  let domain := List.intercalate ['.'] (read.map (·.ascii))
  if domain.any isForbidden then none else some domain

end Domain
end Url
end InstanceScripts
