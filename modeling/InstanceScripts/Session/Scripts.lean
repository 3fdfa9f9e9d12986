import InstanceScripts.Script
import InstanceScripts.Session.Download

/-!
# Retrieving scripts

The scripts of an instance are those that its own attributes declare, or else those
that its project declares.  A script that cannot be staged stays declared: it is in the
result without a file.
-/

namespace InstanceScripts

/-- The scripts found, each under the key that declares it, with its file if there is
one.  The keys are in ascending order. -/
abbrev ScriptMap := List (String × Option Nat)

namespace Session

/-- Stage a script that the attributes hold. -/
def stageInline (session : Session) (key script directory : String) :
    Option Nat × Session :=
  match session.area.stage directory script with
  | (.ok file, area) => (some file, { session with area := area })
  | (.error failure, area) =>
      let line := "Could not stage " ++ key ++ ": " ++ failure.message
      (none, { session with area := area }.report [.warn line])

/-- Stage a script that the attributes point at. -/
def stageUrl (session : Session) (url directory : String) : Option Nat × Session :=
  match session.downloadScript url directory with
  | (.ok file, session) => (some file, session)
  | (.error _, session) =>
      (none, session.report [.warn "Failed to download metadata script."])

/-- Stage what attributes declare in one of the two ways. -/
def stageDeclared (session : Session) (kind : Script.Kind) (attributes : Script.Attributes)
    (directory : String) : ScriptMap × Session :=
  let key := kind.metadataKey session.scriptType
  match Script.declared attributes kind session.scriptType with
  | none => ([], session)
  | some declared =>
      let session := session.report [.info ("Found " ++ key ++ " in metadata.")]
      let (file, session) :=
        match kind with
        | .inline => session.stageInline key declared directory
        | .url => session.stageUrl declared directory
      ([(key, file)], session)

/-- Stage the scripts that attributes declare. -/
def attributeScripts (session : Session) (attributes : Option Script.Attributes)
    (directory : String) : ScriptMap × Session :=
  match attributes with
  | none => ([], session)
  | some attributes =>
      let (inlined, session) := session.stageDeclared .inline attributes directory
      let (downloaded, session) := session.stageDeclared .url attributes directory
      (inlined ++ downloaded, session)

/-- The metadata as a whole; null if there are none. -/
def metadataTree (session : Session) : Json × Session :=
  match session.lookUp none true true with
  | (.ok (some tree), session) => (tree, session)
  | (.ok none, session) => (.null, session)
  | (.error failure, session) =>
      (.null, session.report [.warn ("Could not read metadata: " ++ failure.message)])

/-- Retrieve the scripts of the instance, or of the project if the instance declares
none. -/
def scripts (session : Session) (directory : String) : ScriptMap × Session :=
  let (tree, session) := session.metadataTree
  let own := Script.scopeAttributes tree "instance"
  let shared := Script.scopeAttributes tree "project"
  let missing (attributes : Option Script.Attributes) (line : String) : List Log.Line :=
    if attributes.isNone then [.warn line] else []
  let session :=
    session.report
      (missing own "Instance attributes were not found." ++
        missing shared "Project attributes were not found.")
  let (found, session) := session.attributeScripts own directory
  if found.isEmpty then session.attributeScripts shared directory else (found, session)

end Session
end InstanceScripts
