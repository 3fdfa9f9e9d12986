import InstanceScripts.CommandLine.Options
import InstanceScripts.Json.Printer
import InstanceScripts.Session.Scripts
import InstanceScripts.Settings.Directory

/-!
# The command

The command loads settings, retrieves the scripts of one type into an existing directory
and prints which key is staged in which file.  Whatever goes wrong before the retrieval
begins ends the command with a report.  Afterwards only printing could fail, on a path that
is no text; arguments and paths are texts here, so there is none.
-/

namespace InstanceScripts
namespace CommandLine

/-- The name of the command. -/
def name : String :=
  "gce-metadata-scripts"

/-- What the command finds where it runs. -/
structure Surroundings where
  scriptType : Option String
  configuration : String → Settings.Directory
  area : Staging.Area
  network : Http.Network

/-- What the command leaves behind: its exit code, what it prints and reports, and the
session if one began. -/
structure Ending where
  exitCode : Nat
  output : String
  report : String
  log : List Log.Line
  session : Option (ScriptMap × Session)

/-- The requests that have been sent. -/
def Ending.history (ending : Ending) : Http.History :=
  match ending.session with
  | some (_, session) => session.history
  | none => []

/-- The files that have been made. -/
def Ending.files (ending : Ending) : List Staging.File :=
  match ending.session with
  | some (_, session) => session.area.files
  | none => []

/-! ## Reports -/

/-- One cause in a report, its lines indented under each other. -/
def cause (number : Option Nat) (text : String) : String :=
  let (first, others) :=
    match number with
    | some number => ("    " ++ toString number ++ ": ", "\n       ")
    | none => ("    ", "\n    ")
  first ++
    String.ofList
      (List.intercalate others.toList (text.toList.splitOn '\n'))

/-- The report of a failure with what it was met in.  Several causes are numbered. -/
def failureReport (context : String) (failure : Failure) : String :=
  let causes :=
    match failure.cause? with
    | some deeper => [cause (some 0) failure.message, cause (some 1) deeper]
    | none => [cause none failure.message]
  "Error: " ++ context ++ "\n\nCaused by:\n" ++ "\n".intercalate causes ++ "\n"

/-! ## Texts -/

/-- The answer to a request for the version. -/
def versionText : String :=
  name ++ " 0.1.0\n"

/-- The answer to a request for help. -/
def helpText (environmentType : Option String) : String :=
  "Retrieve and stage GCE metadata scripts\n\n" ++
    "Usage: " ++ name ++ " [OPTIONS] --dest-dir <DEST_DIR> <SCRIPT_TYPE>\n\n" ++
    "Arguments:\n" ++
    "  <SCRIPT_TYPE>  Script type to retrieve (e.g., startup, shutdown) " ++
    "[env: GCE_SCRIPT_TYPE=" ++ environmentType.getD "" ++ "]\n\n" ++
    "Options:\n" ++
    "  -v, --verbose...               Enable verbose output\n" ++
    "      --config-dir <CONFIG_DIR>  Directory holding scripts.cfg and scripts.cfg.d/ " ++
    "[default: " ++ Settings.standardDirectory ++ "]\n" ++
    "  -d, --dest-dir <DEST_DIR>      Existing directory to stage scripts in\n" ++
    "  -h, --help                     Print help\n" ++
    "  -V, --version                  Print version\n"

/-- The report of arguments that cannot be understood. -/
def usageText : String :=
  "Usage: " ++ name ++ " [OPTIONS] --dest-dir <DEST_DIR> <SCRIPT_TYPE>\n\n" ++
    "For more information, try '--help'.\n"

/-- The scripts found, with the paths of their files. -/
def outputText (scripts : ScriptMap) (area : Staging.Area) : String :=
  let member (entry : String × Option Nat) : String × Json :=
    match entry.2 with
    | some file => (entry.1, .str (area.path file))
    | none => (entry.1, .null)
  Json.renderLines (scripts.map member) ++ "\n"

/-- The lines reported about the scripts found. -/
def summary (scriptType : String) (scripts : ScriptMap) : List Log.Line :=
  let none := "No " ++ scriptType ++ " scripts found in metadata."
  let missing (entry : String × Option Nat) : Option Log.Line :=
    if entry.2.isNone then
      some (.warn (entry.1 ++ " was declared but could not be retrieved."))
    else .none
  (if scripts.isEmpty then [.info none] else []) ++ scripts.filterMap missing

/-! ## The whole command -/

/-- Retrieve scripts as an invocation asks. -/
def retrieve (surroundings : Surroundings) (decoder : Http.Tabled.Decoder)
    (invocation : Invocation) : Ending :=
  if !surroundings.area.isDirectory invocation.destination then
    let report :=
      "Error: destination directory " ++ invocation.destination ++ " does not exist\n"
    ⟨1, "", report, [], none⟩
  else
    match Settings.load (surroundings.configuration invocation.configDirectory) with
    | (.error failure, log) =>
        ⟨1, "", failureReport ("loading settings from " ++ invocation.configDirectory) failure,
          log, none⟩
    | (.ok settings, log) =>
        let session :=
          Session.ofSettings invocation.scriptType settings surroundings.network decoder
            surroundings.area
        let beginning :=
          "Retrieving " ++ invocation.scriptType ++ " scripts into " ++ invocation.destination
        let (scripts, session) := session.scripts invocation.destination
        ⟨0, outputText scripts session.area, "",
          log ++ [.info beginning] ++ session.log ++ summary invocation.scriptType scripts,
          some (scripts, session)⟩

/-- Run the command with some arguments. -/
def run (surroundings : Surroundings) (arguments : List String)
    (decoder : Http.Tabled.Decoder := Http.Tabled.untabled) : Ending :=
  match invocation Settings.standardDirectory surroundings.scriptType arguments with
  | .error .help => ⟨0, helpText surroundings.scriptType, "", [], none⟩
  | .error .version => ⟨0, versionText, "", [], none⟩
  | .error .usage => ⟨2, "", usageText, [], none⟩
  | .ok invocation => retrieve surroundings decoder invocation

end CommandLine
end InstanceScripts
