import InstanceScripts.Staging

/-!
# Directories that exist

Where a path leads among directories that are known.  A path is followed name by name,
so the first name that leads nowhere decides what is wrong with it.
-/

namespace InstanceScripts
namespace Staging

/-- A directory by its names from the root. -/
abbrev Place := List (List Char)

/-- The directories that exist, apart from the root, and the one where paths begin that
do not begin at the root. -/
structure Tree where
  current : Place
  directories : List Place

namespace Tree

/-- The longest name, in octets. -/
def nameLimit : Nat :=
  255

/-- What the length of a path stays below, in octets. -/
def pathLimit : Nat :=
  4096

/-- Follow names from a directory on. -/
def follow (tree : Tree) : Place → List (List Char) → Except PathFault Place
  | place, [] => .ok place
  | place, name :: names =>
      if name = ['.', '.'] then tree.follow place.dropLast names
      else if nameLimit < (String.ofList name).utf8ByteSize then .error .nameTooLong
      else if tree.directories.contains (place ++ [name]) then tree.follow (place ++ [name]) names
      else .error .notFound

/-- The directory to which a path leads. -/
def place (tree : Tree) (path : String) : Except PathFault Place :=
  if path.toList.contains '\x00' then .error .containsNul
  else if path.isEmpty then .error .notFound
  else if pathLimit ≤ path.utf8ByteSize then .error .nameTooLong
  else tree.follow (if isRooted path then [] else tree.current) (components path)

/-- Whether a path leads to a given directory. -/
def leadsTo (tree : Tree) (path : String) (place : Place) : Bool :=
  (tree.place path).toOption == some place

/-- What is wrong with the path of a directory, if anything is. -/
def fault? (tree : Tree) (path : String) : Option PathFault :=
  match tree.place path with
  | .ok _ => none
  | .error fault => some fault

end Tree
end Staging
end InstanceScripts
