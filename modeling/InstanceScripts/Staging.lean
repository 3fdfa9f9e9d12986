import InstanceScripts.Failure
import InstanceScripts.Text.Blank

/-!
# Staging files

Every script goes into a file of its own.  A file is reserved empty before anything is
known about its content; it is never removed, and no other file is touched.  Files are
known by their number, in the order in which they were reserved.
-/

namespace InstanceScripts
namespace Staging

/-- A reserved file. -/
structure File where
  directory : String
  path : String
  body : Octets
  deriving DecidableEq, Repr

/-- What the system says about paths: whether one leads to a directory, and what keeps
files from being made there, given how many have been made before. -/
structure Faults where
  after? : Nat → String → Option PathFault
  isDirectory : String → Bool

/-- Directories in which nothing changes, and files can be made in each of them. -/
instance : Coe (String → Option PathFault) Faults :=
  ⟨fun fault? => ⟨fun _ => fault?, fun path => (fault? path).isNone⟩⟩

/-- Where files are staged: what the system says about paths, what it calls its files, and
the files reserved so far, the first one first.  A path that is not absolute
begins at `current`; `unkept` is the name of a file that could not be created. -/
structure Area where
  current : String
  faults : Faults
  name : Nat → String
  unkept : String
  files : List File

/-! ## Paths -/

/-- The parts of a path between its slashes, without those that lead nowhere. -/
def components (path : String) : List (List Char) :=
  (path.toList.splitOn '/').filter fun part => !part.isEmpty && part != ['.']

/-- Whether a path begins at the root. -/
def isRooted (path : String) : Bool :=
  path.toList.head? = some '/'

/-- The path of something in a directory. -/
def filePath (directory name : String) : String :=
  if directory.toList.getLast? = some '/' then directory ++ name else directory ++ "/" ++ name

/-- A path from the root, as it is given. -/
def absolute (current path : String) : String :=
  if isRooted path || current.isEmpty then path else filePath current path

/-- A path without parts that lead nowhere.  Two slashes at the front are kept, more than
two count as one. -/
def tidy (path : String) : String :=
  let root :=
    match (path.toList.takeWhile (· == '/')).length with
    | 0 => ""
    | 2 => "//"
    | _ => "/"
  root ++ String.ofList (List.intercalate ['/'] (components path))

namespace Area

/-- The path of a reserved file. -/
def path (area : Area) (file : Nat) : String :=
  (area.files[file]?.map (·.path)).getD ""

/-- What a reserved file holds. -/
def body? (area : Area) (file : Nat) : Option Octets :=
  area.files[file]?.map (·.body)

/-- Whether a path leads to a directory. -/
def isDirectory (area : Area) (path : String) : Bool :=
  area.faults.isDirectory path

/-- What keeps the next file from being made in a directory. -/
def fault? (area : Area) (directory : String) : Option PathFault :=
  area.faults.after? area.files.length directory

/-- Reserve a new empty file in a directory.  The path of a file that is there is tidy;
that of one that could not be made is reported as it was tried. -/
def reserve (area : Area) (directory : String) : Except Failure Nat × Area :=
  let parent := absolute area.current directory
  match area.fault? directory with
  | none =>
      let name := area.name area.files.length
      let file : File := ⟨tidy parent, filePath (tidy parent) name, []⟩
      (.ok area.files.length, { area with files := area.files ++ [file] })
  | some fault => (.error (.io (.refusedAt fault (filePath parent area.unkept))), area)

/-- Replace what a reserved file holds. -/
def write (area : Area) (file : Nat) (body : Octets) : Except Failure Unit × Area :=
  if file < area.files.length then
    (.ok (), { area with files := area.files.modify file ({ · with body := body }) })
  else (.error (.io (.refused .notFound)), area)

/-- Stage a script that is at hand, without its leading blanks. -/
def stage (area : Area) (directory script : String) : Except Failure Nat × Area :=
  match area.reserve directory with
  | (.error failure, area) => (.error failure, area)
  | (.ok file, area) =>
      match area.write file (Utf8.encode (Text.dropBlank script)) with
      | (.error failure, area) => (.error failure, area)
      | (.ok (), area) => (.ok file, area)

end Area
end Staging
end InstanceScripts
