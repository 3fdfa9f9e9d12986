import InstanceScripts.Log
import InstanceScripts.Settings.Decoding
import InstanceScripts.Yaml.Merge

/-!
# Settings from a configuration directory

The settings are those of a main file and of any number of drop-in files beside it,
laid over each other in the order of the drop-ins' names.  A file that holds no
settings is reported and passed over; a file that cannot be read at all is a failure.
-/

namespace InstanceScripts

/-! ## Paths -/

/-- The path of a name in a directory. -/
def pathIn (directory name : String) : String :=
  if directory.isEmpty ∨ directory.toList.getLast? = some '/' then directory ++ name
  else directory ++ "/" ++ name

namespace Settings

/-- Where settings are looked for unless another directory is given. -/
def standardDirectory : String :=
  "/etc/gce-metadata-scripts"

/-- The main file of a configuration directory. -/
def mainFile (directory : String) : String :=
  pathIn directory "scripts.cfg"

/-- The directory of drop-in files in a configuration directory. -/
def dropInDirectory (directory : String) : String :=
  pathIn directory "scripts.cfg.d"

/-! ## Contents -/

/-- What stands under a name. -/
inductive Entry where
  | file (content : Octets)
  | directory
  deriving Repr

/-- What stands where drop-in files are looked for; the names in a directory are all
different. -/
inductive DropIns where
  | absent
  | file
  | directory (entries : List (String × Entry))
  deriving Repr

/-- A configuration directory: its path and what is in it. -/
structure Directory where
  path : String
  main : Option Entry
  dropIns : DropIns
  deriving Repr

/-! ## Documents -/

/-- Read one file as a document that describes settings.  A null document describes
nothing and is passed over silently. -/
def readFile (path : String) (entry : Entry) :
    Except Failure (Option Yaml.Value) × List Log.Line :=
  match entry with
  | .directory => (.error (.io (.refused .isDirectory)), [])
  | .file content =>
      match Utf8.decode content with
      | .error _ => (.error (.io .notText), [])
      | .ok text =>
          match (Yaml.Document.ofText text).value with
          | .error _ => (.ok none, [.warn ("Failed to parse " ++ path)])
          | .ok value =>
              if value.isNull then (.ok none, [])
              else
                match ofValue value with
                | .error fault =>
                    (.ok none, [.warn ("Ignoring " ++ path ++ ": " ++ fault.message)])
                | .ok _ => (.ok (some value), [])

/-- Read files in order, up to the first that cannot be read. -/
def readFiles : List (String × Entry) → Except Failure (List Yaml.Value) × List Log.Line
  | [] => (.ok [], [])
  | (path, entry) :: rest =>
      match readFile path entry with
      | (.error failure, lines) => (.error failure, lines)
      | (.ok value, lines) =>
          let (values, more) := readFiles rest
          (values.map (value.toList ++ ·), lines ++ more)

/-- Whether a name ends in `.cfg` with something in front. -/
def isDropInName (name : String) : Bool :=
  let reversed := name.toList.reverse
  reversed.take 4 == ['g', 'f', 'c', '.'] && 4 < reversed.length

/-- Put an entry into a list that is sorted by name. -/
def insertByName (entry : String × Entry) : List (String × Entry) → List (String × Entry)
  | [] => [entry]
  | other :: rest =>
      if entry.1 ≤ other.1 then entry :: other :: rest else other :: insertByName entry rest

/-- The drop-in files among the entries of a directory, sorted by name. -/
def dropInFiles (entries : List (String × Entry)) : List (String × Entry) :=
  (entries.filter (isDropInName ·.1)).foldr insertByName []

/-- Read the drop-in files. -/
def readDropIns (directory : String) (dropIns : DropIns) :
    Except Failure (List Yaml.Value) × List Log.Line :=
  match dropIns with
  | .absent => (.ok [], [])
  | .file => (.error (.io (.refused .notDirectory)), [])
  | .directory entries =>
      let files := (dropInFiles entries).map fun (name, entry) => (pathIn directory name, entry)
      match readFiles files with
      | (.error failure, lines) => (.error failure, lines)
      | (.ok values, lines) =>
          let summary := "Loaded " ++ toString values.length ++ " drop-in settings files"
          (.ok values, lines ++ [.info summary])

/-- The documents of a configuration directory, the main file's first. -/
def documents (directory : Directory) : Except Failure (List Yaml.Value) × List Log.Line :=
  let main : Except Failure (Option Yaml.Value) × List Log.Line :=
    match directory.main with
    | none => (.ok none, [])
    | some entry => readFile (mainFile directory.path) entry
  match main with
  | (.error failure, lines) => (.error failure, lines)
  | (.ok value, lines) =>
      let (values, more) := readDropIns (dropInDirectory directory.path) directory.dropIns
      (values.map (value.toList ++ ·), lines ++ more)

/-- The settings that documents describe together. -/
def ofDocuments (values : List Yaml.Value) : Except Failure Settings :=
  let merged := Yaml.Value.mergeAll values
  let described :=
    if merged.isNull then .ok standard else (ofValue merged).mapError Failure.yaml
  match described with
  | .error failure => .error failure
  | .ok settings => settings.validate.map fun _ => settings

/-- Load the settings of a configuration directory. -/
def load (directory : Directory) : Except Failure Settings × List Log.Line :=
  let (values, lines) := documents directory
  (values.bind ofDocuments, lines)

end Settings
end InstanceScripts
