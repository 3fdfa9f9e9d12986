import InstanceScripts.CommandLine
import InstanceScripts.Proofs.Json.Reading
import InstanceScripts.Proofs.Session.Declared
import InstanceScripts.Proofs.Session.Staging

/-!
# How the command ends

The command fails before it acts.  Without a destination or without settings it sends
nothing, makes no file and prints nothing.  Otherwise it succeeds whatever the network does,
and what it prints tells which declared script is in which file.
-/

namespace InstanceScripts

/-! ## What is printed -/

namespace CommandLine

/-- What is printed for a script: the path of its file, or null if it has none. -/
def shown (area : Staging.Area) (file : Option Nat) : Json :=
  match file with
  | some file => .str (area.path file)
  | none => .null

/-- The members of the object that is printed. -/
def shownMembers (scripts : ScriptMap) (area : Staging.Area) : List (String × Json) :=
  scripts.map fun entry => (entry.1, shown area entry.2)

theorem shown_readsBack (area : Staging.Area) (file : Option Nat) :
    (shown area file).ReadsBack := by
  cases file with
  | some file => exact Json.readsBack_str (area.path file)
  | none => exact Json.readsBack_null

theorem outputText_eq (scripts : ScriptMap) (area : Staging.Area) :
    outputText scripts area = Json.renderLines (shownMembers scripts area) ++ "\n" := by
  apply congrArg fun members => Json.renderLines members ++ "\n"
  apply List.map_congr_left
  rintro ⟨key, file⟩ _
  cases file with
  | some file => rfl
  | none => rfl

@[simp] theorem keys_shownMembers (scripts : ScriptMap) (area : Staging.Area) :
    (shownMembers scripts area).map Prod.fst = scripts.map Prod.fst := by
  unfold shownMembers
  rw [List.map_map]
  rfl

theorem lookup_shownMembers (scripts : ScriptMap) (area : Staging.Area) (key : String) :
    (shownMembers scripts area).lookup key = (scripts.lookup key).map (shown area) := by
  unfold shownMembers
  induction scripts with
  | nil => rfl
  | cons entry scripts inductionHypothesis =>
      rw [List.map_cons, List.lookup_cons, List.lookup_cons, inductionHypothesis]
      split <;> rfl

/-- What is printed is an object again, in which every key has its file. -/
theorem parse?_outputText {scripts : ScriptMap} (area : Staging.Area)
    (distinct : (scripts.map Prod.fst).Nodup) :
    Json.parse? (outputText scripts area) = some (.obj (shownMembers scripts area)) := by
  rw [outputText_eq]
  apply Json.parse?_renderLines
  · rwa [keys_shownMembers]
  · intro member listed
    obtain ⟨entry, _, rfl⟩ := List.mem_map.mp listed
    exact shown_readsBack area entry.2

end CommandLine

/-! ## What is staged -/

theorem Download.Delivers.held {download : Download} {file : Nat}
    (delivers : download.Delivers file) :
    ∃ sent body, download.exit.history = download.entry.history ++ sent ∧
      Http.lastBody? sent = some body ∧ download.exit.area.body? file = some body := by
  obtain ⟨before, reserved, behind, sent, files, rfl, _, history, last⟩ := delivers
  refine ⟨sent, reserved.body, history, last, ?_⟩
  rw [Staging.Area.body?, files]
  simp

namespace Session

/-- What comes of staging the script that attributes declare by a text: the text itself is
staged, or the script at a URL is downloaded once a text at hand has been staged. -/
def stagingOf (session : Session) (attributes : Option Script.Attributes) (directory : String)
    (kind : Script.Kind) (text : String) : Except Failure Nat :=
  match kind with
  | .inline => (session.area.stage directory text).1
  | .url => ((session.withInline attributes directory).scriptDownload text directory).outcome

/-- What a text declares is in a file: the text without the blanks in front of it, or the
whole body of the last answer that has come for it. -/
def HoldsScript (earlier later : Session) (kind : Script.Kind) (text : String) (file : Nat) :
    Prop :=
  match kind with
  | .inline => later.area.HoldsTrimmed file text
  | .url => ∃ sent body, later.history = earlier.history ++ sent ∧
      Http.lastBody? sent = some body ∧ later.area.body? file = some body

/-- Every script that the attributes that count declare is found, with its file if it could
be staged, and that file holds it. -/
theorem scripts_staged (session : Session) (directory : String) {kind : Script.Kind}
    {text : String}
    (declared : Script.declaredIn (Script.effective session.tree session.scriptType) kind
      session.scriptType = some text) :
    let attributes := Script.effective session.tree session.scriptType
    let outcome := session.opened.stagingOf attributes directory kind text
    (session.scripts directory).1.lookup (kind.metadataKey session.scriptType) =
        some outcome.toOption ∧
      ∀ file, outcome = .ok file →
        HoldsScript session.opened (session.scripts directory).2 kind text file := by
  intro attributes outcome
  cases kind with
  | inline =>
      have listed : (session.scripts directory).1.lookup
          (Script.Kind.inline.metadataKey session.scriptType) = some outcome.toOption := by
        have found := session.opened.lookup_inline attributes directory
        rw [(session.scripts_agrees directory).1]
        change _ = (Script.declaredIn attributes .inline session.scriptType).map _ at found
        rwa [declared] at found
      have hasInline : session.inline? (.scripts directory) = some text := declared
      refine ⟨listed, ?_⟩
      intro file staged
      rw [staged] at listed
      exact (perform_inline hasInline rfl listed).2
  | url =>
      let download :=
        (session.opened.withInline attributes directory).scriptDownload text directory
      have made : session.download? (.scripts directory) = some download := by
        change (Script.declaredIn attributes .url session.scriptType).map _ = _
        rw [declared]
        rfl
      obtain ⟨entry, listed, same⟩ := perform_download made
      change (session.scripts directory).2.Resembles download.exit at same
      refine ⟨listed, ?_⟩
      intro file staged
      obtain ⟨sent, body, history, last, held⟩ := (Download.delivers staged).held
      refine ⟨sent, body, ?_, last, ?_⟩
      · rw [same, ← (session.opened.withInline_frame attributes directory).2.2]
        change download.exit.history = _
        rw [history, entry]
        rfl
      · rw [same]
        exact held

theorem HoldsScript.exists_file {earlier later : Session} {kind : Script.Kind} {text : String}
    {number : Nat} (held : HoldsScript earlier later kind text number) :
    ∃ file, later.area.files[number]? = some file := by
  have filled : ∃ body, later.area.body? number = some body := by
    cases kind with
    | inline =>
        obtain ⟨_, rest, _, _, _, filled⟩ := held
        exact ⟨_, filled⟩
    | url =>
        obtain ⟨_, body, _, _, filled⟩ := held
        exact ⟨body, filled⟩
  obtain ⟨body, filled⟩ := filled
  obtain ⟨file, reserved, _⟩ := Option.map_eq_some_iff.mp filled
  exact ⟨file, reserved⟩

end Session

/-! ## How it ends -/

namespace CommandLine

/-- What is printed for a declared script is null if it could not be staged, and otherwise the
path of a file that holds it. -/
theorem shownMembers_staged (session : Session) (directory : String) {kind : Script.Kind}
    {text : String}
    (held : Script.Holds (Script.effective session.tree session.scriptType)
      (kind.metadataKey session.scriptType) text) :
    let attributes := Script.effective session.tree session.scriptType
    let after := (session.scripts directory).2
    let members := shownMembers (session.scripts directory).1 after.area
    match session.opened.stagingOf attributes directory kind text with
    | .error _ => members.lookup (kind.metadataKey session.scriptType) = some .null
    | .ok number => ∃ file, after.area.files[number]? = some file ∧
        members.lookup (kind.metadataKey session.scriptType) = some (.str file.path) ∧
        Session.HoldsScript session.opened after kind text number := by
  intro attributes after members
  obtain ⟨listed, filled⟩ :=
    session.scripts_staged directory (Script.declaredIn_eq_some_iff.mpr held)
  have printed := lookup_shownMembers (session.scripts directory).1 after.area
    (kind.metadataKey session.scriptType)
  rw [listed] at printed
  cases outcome : session.opened.stagingOf attributes directory kind text with
  | error failure =>
      rw [outcome] at printed
      exact printed
  | ok number =>
      rw [outcome] at printed
      obtain ⟨file, reserved⟩ := (filled number outcome).exists_file
      refine ⟨file, reserved, ?_, filled number outcome⟩
      rw [printed]
      simp [Except.toOption, shown, Staging.Area.path, after, reserved]

/-- What an invocation needs is missing: the destination is no directory, or the settings
cannot be loaded. -/
def Unusable (surroundings : Surroundings) (invocation : Invocation) : Prop :=
  surroundings.area.isDirectory invocation.destination = false ∨
    ∃ failure,
      (Settings.load (surroundings.configuration invocation.configDirectory)).1 = .error failure

/-- The session with which an invocation begins. -/
def sessionOf (surroundings : Surroundings) (decoder : Http.Tabled.Decoder)
    (invocation : Invocation) (settings : Settings) : Session :=
  .ofSettings invocation.scriptType settings surroundings.network decoder surroundings.area

section

variable {surroundings : Surroundings} {invocation : Invocation} (decoder : Http.Tabled.Decoder)

theorem retrieve_unusable (unusable : Unusable surroundings invocation) :
    let ending := retrieve surroundings decoder invocation
    ending.exitCode = 1 ∧ ending.session = none ∧ ending.output = "" := by
  unfold retrieve
  cases present : surroundings.area.isDirectory invocation.destination with
  | false => exact ⟨rfl, rfl, rfl⟩
  | true =>
      rcases unusable with absent | ⟨failure, failed⟩
      · rw [present] at absent
        cases absent
      · revert failed
        rcases Settings.load (surroundings.configuration invocation.configDirectory) with
          ⟨loaded, log⟩
        rintro rfl
        exact ⟨rfl, rfl, rfl⟩

theorem retrieve_usable (usable : ¬Unusable surroundings invocation) :
    ∃ settings,
      (Settings.load (surroundings.configuration invocation.configDirectory)).1 = .ok settings ∧
        let retrieved :=
          (sessionOf surroundings decoder invocation settings).scripts invocation.destination
        let ending := retrieve surroundings decoder invocation
        ending.exitCode = 0 ∧ ending.session = some retrieved ∧
          ending.output = outputText retrieved.1 retrieved.2.area := by
  rw [Unusable, not_or, Bool.not_eq_false, not_exists] at usable
  obtain ⟨present, loadable⟩ := usable
  unfold retrieve
  rw [present]
  revert loadable
  rcases Settings.load (surroundings.configuration invocation.configDirectory) with ⟨loaded, log⟩
  intro loadable
  cases loaded with
  | error failure => exact absurd rfl (loadable failure)
  | ok settings => exact ⟨settings, rfl, rfl, rfl, rfl⟩

/-- A run does what the invocation asks for that its arguments describe. -/
theorem run_parsed {arguments : List String}
    (parsed : CommandLine.invocation Settings.standardDirectory surroundings.scriptType arguments =
      .ok invocation) :
    run surroundings arguments decoder = retrieve surroundings decoder invocation := by
  rw [run, parsed]

end

/-- The command fails if and only if its destination is no directory or its settings cannot be
loaded, and then it has sent nothing, made no file and printed nothing.  Otherwise it succeeds
whatever the network does, and prints one object.  The keys of that are those under which
scripts are found, which are those under which the attributes that count declare one; a key is
null if its script could not be staged, and otherwise the path of a file that holds the script.
If the system gives fresh names, no other file has that path.

Arguments, the environment and paths are texts here, as the types say.  A destination that is no
text could be staged in but not be printed. -/
theorem fails_before_acting
    {surroundings : Surroundings} {arguments : List String} {invocation : Invocation}
    (parsed : CommandLine.invocation Settings.standardDirectory surroundings.scriptType arguments =
      .ok invocation) (decoder : Http.Tabled.Decoder) :
    let ending := run surroundings arguments decoder
    let key (kind : Script.Kind) := kind.metadataKey invocation.scriptType
    (ending.exitCode = 1 ↔ Unusable surroundings invocation) ∧
    (Unusable surroundings invocation →
      ending.history = [] ∧ ending.files = [] ∧ ending.output = "") ∧
    (¬Unusable surroundings invocation → ending.exitCode = 0 ∧
      ∃ settings,
        (Settings.load (surroundings.configuration invocation.configDirectory)).1 = .ok settings ∧
        let session := sessionOf surroundings decoder invocation settings
        let attributes := Script.effective session.tree invocation.scriptType
        let found := (session.scripts invocation.destination).1
        let after := (session.scripts invocation.destination).2
        ending.history = after.history ∧ ending.files = after.area.files ∧
        (surroundings.area.FreshNames → (ending.files.map (·.path)).Nodup) ∧
        ∃ members, Json.parse? ending.output = some (.obj members) ∧
          members.map Prod.fst = found.map Prod.fst ∧ (members.map Prod.fst).Nodup ∧
          (∀ name, name ∈ members.map Prod.fst ↔
            ∃ kind text, name = key kind ∧ Script.Holds attributes name text) ∧
          ∀ kind text, Script.Holds attributes (key kind) text →
            match session.opened.stagingOf attributes invocation.destination kind text with
            | .error _ => members.lookup (key kind) = some .null
            | .ok number => ∃ file, ending.files[number]? = some file ∧
                members.lookup (key kind) = some (.str file.path) ∧
                Session.HoldsScript session.opened after kind text number) := by
  intro ending key
  have asked : ending = retrieve surroundings decoder invocation := run_parsed decoder parsed
  rw [asked]
  by_cases unusable : Unusable surroundings invocation
  · obtain ⟨failed, idle, silent⟩ := retrieve_unusable decoder unusable
    refine ⟨by simp [failed, unusable], fun _ => ⟨?_, ?_, silent⟩, fun usable =>
      absurd unusable usable⟩
    · rw [Ending.history, idle]
    · rw [Ending.files, idle]
  · obtain ⟨settings, loaded, succeeded, acted, printed⟩ :=
      retrieve_usable decoder unusable
    refine ⟨by simp [succeeded, unusable], fun missing => absurd missing unusable, fun _ =>
      ⟨succeeded, settings, loaded, ?_⟩⟩
    intro session attributes found after
    have listed : found = session.opened.entries attributes invocation.destination :=
      (session.scripts_agrees invocation.destination).1
    have distinct : (found.map Prod.fst).Nodup := by
      rw [listed]
      exact Session.keys_nodup _ _ _
    have made : (retrieve surroundings decoder invocation).files = after.area.files := by
      rw [Ending.files, acted]
    refine ⟨by rw [Ending.history, acted], made, ?_,
      shownMembers found after.area, ?_, keys_shownMembers _ _, ?_, ?_, ?_⟩
    · intro fresh
      rw [made]
      exact (fresh.of_extends (session.perform_extends (.scripts invocation.destination))).apart
    · rw [printed]
      exact parse?_outputText after.area distinct
    · rwa [keys_shownMembers]
    · intro name
      rw [keys_shownMembers, listed]
      exact Session.mem_keys_iff
    · intro kind text held
      rw [made]
      exact shownMembers_staged session invocation.destination held

/-- A place with one directory, without settings files, where no server can be reached. -/
def bareSurroundings : Surroundings :=
  ⟨some "startup", fun path => ⟨path, none, .absent⟩,
    { Staging.Area.tallied with faults := ⟨fun _ _ => none, fun path => path == "d"⟩ },
    Http.unreachableNetwork⟩

/-- The same place with a server whose metadata declare two scripts, of which one stands at
what is no URL. -/
def servedSurroundings : Surroundings :=
  let tree :=
    "\x7b\"instance\": \x7b\"attributes\": \x7b\"startup-script\": \" echo\", " ++
      "\"startup-script-url\": \"x\"\x7d\x7d\x7d"
  { bareSurroundings with
    configuration := fun path =>
      ⟨path, some (.file (Utf8.encode "metadata_url: http://h")), .absent⟩
    network := fun _ _ => .answer 200 [] (Utf8.encode tree) false }

/-- The settings that are loaded there. -/
def servedSettings : Settings :=
  { Settings.standard with metadataUrl := "http://h" }

theorem servedSettings_loaded :
    (Settings.load (servedSurroundings.configuration Settings.standardDirectory)).1.toOption =
      some servedSettings := by
  decide +kernel

/-- The session of the command there. -/
def servedSession : Session :=
  sessionOf servedSurroundings Http.Tabled.untabled
    ⟨0, Settings.standardDirectory, "d", "startup"⟩ servedSettings

/-- Both scripts are declared there, and the one at hand is staged. -/
theorem servedSession_staged :
    let attributes := Script.effective servedSession.tree "startup"
    let outcome := servedSession.opened.stagingOf attributes "d"
    Script.declaredIn attributes .inline "startup" = some " echo" ∧
      Script.declaredIn attributes .url "startup" = some "x" ∧
      (outcome .inline " echo").toOption = some 0 ∧ (outcome .url "x").toOption = none := by
  decide +kernel

/-- Where nothing is served, the command fails in a directory that does not exist, and prints an
object in the one that does.  Where two scripts are declared, it prints the path of the one at
hand, and null for the one without a URL. -/
theorem bare_endings :
    let failing := run bareSurroundings ["-d", "e", "shutdown"]
    let ending := run bareSurroundings ["-d", "d"]
    let served := run servedSurroundings ["-d", "d"]
    failing.exitCode = 1 ∧ failing.history = [] ∧ failing.files = [] ∧ failing.output = "" ∧
      ending.exitCode = 0 ∧ (∃ members, Json.parse? ending.output = some (.obj members)) ∧
      served.exitCode = 0 ∧
        ∃ members file, Json.parse? served.output = some (.obj members) ∧
          served.files[0]? = some file ∧
          members.lookup "startup-script" = some (.str file.path) ∧
          members.lookup "startup-script-url" = some .null := by
  have misplaced : invocation Settings.standardDirectory bareSurroundings.scriptType
      ["-d", "e", "shutdown"] = .ok ⟨0, Settings.standardDirectory, "e", "shutdown"⟩ := rfl
  have placed : invocation Settings.standardDirectory bareSurroundings.scriptType ["-d", "d"] =
      .ok ⟨0, Settings.standardDirectory, "d", "startup"⟩ := rfl
  have servedPlaced : invocation Settings.standardDirectory servedSurroundings.scriptType
      ["-d", "d"] = .ok ⟨0, Settings.standardDirectory, "d", "startup"⟩ := rfl
  have unusable : Unusable bareSurroundings
      ⟨0, Settings.standardDirectory, "e", "shutdown"⟩ := .inl rfl
  have usable : ¬Unusable bareSurroundings ⟨0, Settings.standardDirectory, "d", "startup"⟩ := by
    rintro (absent | ⟨failure, failed⟩)
    · cases absent
    · cases failed
  have serves : ¬Unusable servedSurroundings
      ⟨0, Settings.standardDirectory, "d", "startup"⟩ := by
    rintro (absent | ⟨failure, failed⟩)
    · cases absent
    · rw [toOption_eq_some.mp servedSettings_loaded] at failed
      cases failed
  obtain ⟨fails, idle, _⟩ := fails_before_acting misplaced Http.Tabled.untabled
  obtain ⟨_, _, acts⟩ := fails_before_acting placed Http.Tabled.untabled
  obtain ⟨_, _, stages⟩ := fails_before_acting servedPlaced Http.Tabled.untabled
  obtain ⟨unsent, unmade, silent⟩ := idle unusable
  obtain ⟨succeeded, _, _, _, _, _, members, printed, _⟩ := acts usable
  obtain ⟨finished, settings, loads, _, _, _, shown, read, _, _, _, tells⟩ := stages serves
  obtain rfl : servedSettings = settings :=
    Except.ok.inj ((toOption_eq_some.mp servedSettings_loaded).symm.trans loads)
  have inlineKey : "startup-script" = Script.Kind.inline.metadataKey "startup" := by decide
  have urlKey : "startup-script-url" = Script.Kind.url.metadataKey "startup" := by decide
  rw [inlineKey, urlKey]
  have staged := servedSession_staged
  unfold servedSession at staged
  -- With the session itself in sight, every step below would evaluate it.
  generalize sessionOf servedSurroundings Http.Tabled.untabled
    ⟨0, Settings.standardDirectory, "d", "startup"⟩ servedSettings = session at tells staged
  obtain ⟨hasInline, hasUrl, kept, lost⟩ := staged
  have inline := tells .inline " echo" (Script.declaredIn_eq_some_iff.mp hasInline)
  have url := tells .url "x" (Script.declaredIn_eq_some_iff.mp hasUrl)
  obtain ⟨failure, failed⟩ := toOption_eq_none.mp lost
  rw [toOption_eq_some.mp kept] at inline
  rw [failed] at url
  obtain ⟨file, reserved, path, _⟩ := inline
  exact ⟨fails.mpr unusable, unsent, unmade, silent, succeeded, ⟨members, printed⟩, finished,
    shown, file, read, reserved, path, url⟩

end CommandLine
end InstanceScripts
