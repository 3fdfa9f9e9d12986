import InstanceScripts.Proofs.Session.Download
import InstanceScripts.Proofs.Session.Report
import InstanceScripts.Session.Scripts

/-!
# Steps of a session

A session goes on by steps.  Whatever a step is asked to do, it first reads the metadata or
not, then stages a script that is at hand or not, and at last makes one download or none.
-/

namespace InstanceScripts

/-! ## The attributes that count -/

/-- What attributes declare for a type of scripts, if there are attributes. -/
def Script.declaredIn (attributes : Option Script.Attributes) (kind : Script.Kind)
    (scriptType : String) : Option String :=
  attributes.bind fun attributes => Script.declared attributes kind scriptType

/-- Whether attributes declare a script of a type in either way. -/
def Script.declares (attributes : Option Script.Attributes) (scriptType : String) : Bool :=
  (Script.declaredIn attributes .inline scriptType).isSome ||
    (Script.declaredIn attributes .url scriptType).isSome

/-- The attributes that count: those of the instance if they declare a script of the type,
and those of the project otherwise. -/
def Script.effective (tree : Json) (scriptType : String) : Option Script.Attributes :=
  if Script.declares (Script.scopeAttributes tree "instance") scriptType then
    Script.scopeAttributes tree "instance"
  else Script.scopeAttributes tree "project"

/-- The metadata in an answer to the question for all of them. -/
def Metadata.treeIn (answer : Except Failure (Option Json)) : Json :=
  match answer with
  | .ok (some tree) => tree
  | _ => .null

/-! ## Steps -/

/-- What a session can be asked to do. -/
inductive Step where
  | scripts (directory : String)
  | attributeScripts (attributes : Option Script.Attributes) (directory : String)
  | downloadScript (url directory : String)
  | downloadAuthorized (url directory : String)
  | downloadPlain (url directory : String)

/-- What a step gives: scripts with their files, or one file. -/
inductive Step.Result where
  | scripts (found : ScriptMap)
  | file (outcome : Except Failure Nat)

/-- A result tells what came of a download: the file itself, or the entry for its URL. -/
def Step.Result.Tells (result : Step.Result) (scriptType : String)
    (outcome : Except Failure Nat) : Prop :=
  match result with
  | .scripts found =>
      found.lookup (Script.Kind.url.metadataKey scriptType) = some outcome.toOption
  | .file shown => shown = outcome

namespace Session

/-- Do what a step asks for. -/
def perform (session : Session) : Step → Step.Result × Session
  | .scripts directory =>
      let (found, session) := session.scripts directory
      (.scripts found, session)
  | .attributeScripts attributes directory =>
      let (found, session) := session.attributeScripts attributes directory
      (.scripts found, session)
  | .downloadScript url directory =>
      let (outcome, session) := session.downloadScript url directory
      (.file outcome, session)
  | .downloadAuthorized url directory =>
      let (outcome, session) := session.downloadAuthorized url directory
      (.file outcome, session)
  | .downloadPlain url directory =>
      let (outcome, session) := session.downloadPlain url directory
      (.file outcome, session)

/-- Do what some steps ask for, one after the other. -/
def performAll (session : Session) : List Step → Session
  | [] => session
  | step :: steps => (session.perform step).2.performAll steps

/-- The session once it has asked for all metadata. -/
def opened (session : Session) : Session :=
  (session.lookUp none true true).2

/-- The metadata that the source would give now. -/
def tree (session : Session) : Json :=
  Metadata.treeIn (session.answer none true true)

/-- The attributes of which a step stages the scripts. -/
def scopeOf (session : Session) : Step → Option Script.Attributes
  | .scripts _ => Script.effective session.tree session.scriptType
  | .attributeScripts attributes _ => attributes
  | _ => none

/-- The script at hand that a step stages, if there is one. -/
def inline? (session : Session) (step : Step) : Option String :=
  Script.declaredIn (session.scopeOf step) .inline session.scriptType

/-- The session once a script that attributes hold is staged, if they hold one. -/
def withInline (session : Session) (attributes : Option Script.Attributes)
    (directory : String) : Session :=
  match Script.declaredIn attributes .inline session.scriptType with
  | some script => { session with area := (session.area.stage directory script).2 }
  | none => session

/-- The session just before a step downloads anything. -/
def prepared (session : Session) : Step → Session
  | .scripts directory =>
      session.opened.withInline (Script.effective session.tree session.scriptType) directory
  | .attributeScripts attributes directory => session.withInline attributes directory
  | _ => session

/-- The download of the script at a URL. -/
def scriptDownload (session : Session) (url directory : String) : Download :=
  match Script.Origin.classify url with
  | .storage target => ⟨session, true, target, directory⟩
  | .plain target => ⟨session, false, target, directory⟩

/-- The download that a step makes, if it makes one. -/
def download? (session : Session) : Step → Option Download
  | .scripts directory =>
      (Script.declaredIn (session.scopeOf (.scripts directory)) .url session.scriptType).map
        fun url => (session.prepared (.scripts directory)).scriptDownload url directory
  | .attributeScripts attributes directory =>
      (Script.declaredIn attributes .url session.scriptType).map
        fun url => (session.prepared (.attributeScripts attributes directory)).scriptDownload
          url directory
  | .downloadScript url directory => some (session.scriptDownload url directory)
  | .downloadAuthorized url directory => some ⟨session, true, url, directory⟩
  | .downloadPlain url directory => some ⟨session, false, url, directory⟩

/-- The downloads that some steps make, one after the other. -/
def downloads (session : Session) : List Step → List Download
  | [] => []
  | step :: steps =>
      (session.download? step).toList ++ (session.perform step).2.downloads steps

/-- The session after a step, apart from what has been reported. -/
def settled (session : Session) (step : Step) : Session :=
  match session.download? step with
  | some download => download.exit
  | none => session.prepared step

/-! ## What a step comes down to -/

theorem downloadScript_eq (session : Session) (url directory : String) :
    session.downloadScript url directory = (session.scriptDownload url directory).run := by
  unfold downloadScript scriptDownload
  cases Script.Origin.classify url with
  | storage target => rfl
  | plain target => rfl

@[simp] theorem withInline_scriptType (session : Session) (attributes : Option Script.Attributes)
    (directory : String) :
    (session.withInline attributes directory).scriptType = session.scriptType := by
  unfold withInline
  split <;> rfl

/-- The entry for a script that attributes hold, if they hold one. -/
def inlineEntry (session : Session) (attributes : Option Script.Attributes)
    (directory : String) : ScriptMap :=
  match Script.declaredIn attributes .inline session.scriptType with
  | some script =>
      [(Script.Kind.inline.metadataKey session.scriptType,
        (session.area.stage directory script).1.toOption)]
  | none => []

/-- The entry for a script that attributes point at, if they point at one. -/
def urlEntry (session : Session) (attributes : Option Script.Attributes)
    (directory : String) : ScriptMap :=
  match Script.declaredIn attributes .url session.scriptType with
  | some url =>
      [(Script.Kind.url.metadataKey session.scriptType,
        (session.downloadScript url directory).1.toOption)]
  | none => []

/-- The scripts that attributes declare, each with its file if it could be staged. -/
def entries (session : Session) (attributes : Option Script.Attributes)
    (directory : String) : ScriptMap :=
  session.inlineEntry attributes directory ++
    (session.withInline attributes directory).urlEntry attributes directory

/-- The session once the script that attributes point at is downloaded, if they point at
one. -/
def withDownload (session : Session) (attributes : Option Script.Attributes)
    (directory : String) : Session :=
  match Script.declaredIn attributes .url session.scriptType with
  | some url => (session.downloadScript url directory).2
  | none => session

theorem stageInline_agrees {session other : Session} (same : session.Resembles other)
    (key script directory : String) :
    Agrees (session.stageInline key script directory)
      ((other.area.stage directory script).1.toOption,
        { other with area := (other.area.stage directory script).2 }) := by
  rw [same]
  unfold stageInline
  dsimp only
  rcases other.area.stage directory script with ⟨failure | file, area⟩
  · exact ⟨rfl, rfl⟩
  · exact ⟨rfl, rfl⟩

theorem stageUrl_agrees {session other : Session} (same : session.Resembles other)
    (url directory : String) :
    Agrees (session.stageUrl url directory)
      ((other.downloadScript url directory).1.toOption,
        (other.downloadScript url directory).2) := by
  obtain ⟨outcomes, sessions⟩ := downloadScript_agrees same url directory
  unfold stageUrl
  rw [← outcomes]
  rcases downloaded : session.downloadScript url directory with ⟨failure | file, after⟩
  · rw [downloaded] at sessions
    exact ⟨rfl, (Resembles.report after _).trans sessions⟩
  · rw [downloaded] at sessions
    exact ⟨rfl, sessions⟩

theorem stageDeclared_inline {session other : Session} (same : session.Resembles other)
    (attributes : Script.Attributes) (directory : String) :
    Agrees (session.stageDeclared .inline attributes directory)
      (other.inlineEntry (some attributes) directory,
        other.withInline (some attributes) directory) := by
  have types : session.scriptType = other.scriptType := by rw [same]
  unfold stageDeclared inlineEntry withInline Script.declaredIn
  rw [types, Option.bind_some]
  cases Script.declared attributes .inline other.scriptType with
  | none => exact ⟨rfl, same⟩
  | some script =>
      obtain ⟨files, sessions⟩ :=
        stageInline_agrees ((Resembles.report session _).trans same)
          (Script.Kind.inline.metadataKey other.scriptType) script directory
      refine ⟨?_, sessions⟩
      dsimp only at files ⊢
      rw [files]

theorem stageDeclared_url {session other : Session} (same : session.Resembles other)
    (attributes : Script.Attributes) (directory : String) :
    Agrees (session.stageDeclared .url attributes directory)
      (other.urlEntry (some attributes) directory,
        other.withDownload (some attributes) directory) := by
  have types : session.scriptType = other.scriptType := by rw [same]
  unfold stageDeclared urlEntry withDownload Script.declaredIn
  rw [types, Option.bind_some]
  cases Script.declared attributes .url other.scriptType with
  | none => exact ⟨rfl, same⟩
  | some url =>
      obtain ⟨files, sessions⟩ :=
        stageUrl_agrees ((Resembles.report session _).trans same) url directory
      refine ⟨?_, sessions⟩
      dsimp only at files ⊢
      rw [files]

/-- Staging what attributes declare is to stage the script that they hold and then to
download the one that they point at. -/
theorem attributeScripts_agrees {session other : Session} (same : session.Resembles other)
    (attributes : Option Script.Attributes) (directory : String) :
    Agrees (session.attributeScripts attributes directory)
      (other.entries attributes directory,
        (other.withInline attributes directory).withDownload attributes directory) := by
  cases attributes with
  | none => exact ⟨rfl, same⟩
  | some attributes =>
      obtain ⟨inlined, middle⟩ := stageDeclared_inline same attributes directory
      obtain ⟨downloaded, ending⟩ := stageDeclared_url middle attributes directory
      unfold attributeScripts
      refine ⟨?_, ending⟩
      dsimp only at inlined downloaded ⊢
      rw [inlined, downloaded]
      rfl

/-- Attributes that declare no script leave a session alone. -/
theorem attributeScripts_undeclared {session : Session}
    {attributes : Option Script.Attributes} (directory : String)
    (undeclared : Script.declares attributes session.scriptType = false) :
    session.attributeScripts attributes directory = ([], session) := by
  cases attributes with
  | none => rfl
  | some attributes =>
      simp only [Script.declares, Script.declaredIn, Option.bind_some, Bool.or_eq_false_iff,
        Option.isSome_eq_false_iff, Option.isNone_iff_eq_none] at undeclared
      obtain ⟨noInline, noUrl⟩ := undeclared
      simp only [attributeScripts, stageDeclared, noInline, noUrl, List.append_nil]

/-- There is an entry if and only if the attributes declare a script. -/
theorem entries_isEmpty (session : Session) {attributes : Option Script.Attributes}
    (directory : String) (declared : Script.declares attributes session.scriptType = true) :
    (session.entries attributes directory).isEmpty = false := by
  unfold entries inlineEntry urlEntry
  rw [withInline_scriptType]
  rcases Bool.or_eq_true_iff.mp declared with inline | url
  · obtain ⟨script, found⟩ := Option.isSome_iff_exists.mp inline
    simp [found]
  · obtain ⟨target, found⟩ := Option.isSome_iff_exists.mp url
    simp [found]

theorem metadataTree_agrees (session : Session) :
    Agrees session.metadataTree (session.tree, session.opened) := by
  unfold metadataTree tree opened
  rw [← lookUp_fst]
  rcases session.lookUp none true true with ⟨failure | _ | tree, asked⟩
  · exact ⟨rfl, rfl⟩
  · exact ⟨rfl, rfl⟩
  · exact ⟨rfl, rfl⟩

/-- Retrieving scripts is to read the metadata and then to stage what the attributes that
count declare. -/
theorem scripts_agrees (session : Session) (directory : String) :
    let attributes := Script.effective session.tree session.scriptType
    Agrees (session.scripts directory)
      (session.opened.entries attributes directory,
        (session.opened.withInline attributes directory).withDownload attributes directory) := by
  have opened := session.metadataTree_agrees
  unfold scripts
  revert opened
  rcases session.metadataTree with ⟨tree, asked⟩
  rintro ⟨trees, read⟩
  obtain rfl : tree = session.tree := trees
  dsimp only
  generalize missing : asked.report _ = reported
  have same : reported.Resembles session.opened := by
    rw [← missing]
    exact (Resembles.report asked _).trans read
  have types : reported.scriptType = session.scriptType := by
    rw [same]
    rfl
  by_cases declared :
      Script.declares (Script.scopeAttributes session.tree "instance") session.scriptType = true
  · rw [Script.effective, if_pos declared]
    obtain ⟨found, ending⟩ :=
      attributeScripts_agrees same (Script.scopeAttributes session.tree "instance") directory
    have nonempty := entries_isEmpty session.opened directory declared
    dsimp only at found
    rw [found, if_neg (by simp [nonempty])]
    exact ⟨rfl, ending⟩
  · rw [Script.effective, if_neg declared]
    rw [Bool.not_eq_true] at declared
    rw [attributeScripts_undeclared directory (by rw [types]; exact declared)]
    exact attributeScripts_agrees same _ directory

theorem withDownload_eq (session : Session) (attributes : Option Script.Attributes)
    (directory : String) :
    session.withDownload attributes directory =
      match (Script.declaredIn attributes .url session.scriptType).map
        fun url => session.scriptDownload url directory with
      | some download => download.exit
      | none => session := by
  unfold withDownload
  cases Script.declaredIn attributes .url session.scriptType with
  | none => rfl
  | some url => exact congrArg Prod.snd (session.downloadScript_eq url directory)

/-- Apart from reports, a step leaves behind what it comes down to. -/
theorem perform_resembles (session : Session) (step : Step) :
    (session.perform step).2.Resembles (session.settled step) := by
  cases step with
  | scripts directory =>
      have ending := (session.scripts_agrees directory).2
      dsimp only at ending
      rw [withDownload_eq, withInline_scriptType] at ending
      exact ending
  | attributeScripts attributes directory =>
      have ending := (attributeScripts_agrees (Resembles.refl session) attributes directory).2
      dsimp only at ending
      rw [withDownload_eq, withInline_scriptType] at ending
      exact ending
  | downloadScript url directory =>
      change (session.downloadScript url directory).2.Resembles
        (session.scriptDownload url directory).run.2
      rw [downloadScript_eq]
      exact Resembles.refl _
  | downloadAuthorized url directory => exact Resembles.refl _
  | downloadPlain url directory => exact Resembles.refl _

end Session

/-! ## Entries -/

/-- A script is declared under a key of its own: neither the other kind nor another type has
it, whatever the types are called. -/
theorem Script.metadataKey_inj {kind other : Script.Kind} {scriptType another : String}
    (same : kind.metadataKey scriptType = other.metadataKey another) :
    kind = other ∧ scriptType = another := by
  have texts := congrArg String.toList same
  cases kind with
  | inline =>
      cases other with
      | inline =>
          simp only [Script.Kind.metadataKey, String.toList_append] at texts
          exact ⟨rfl, String.toList_inj.mp (List.append_cancel_right texts)⟩
      | url =>
          have lasts := congrArg List.getLast? texts
          simp [Script.Kind.metadataKey] at lasts
  | url =>
      cases other with
      | inline =>
          have lasts := congrArg List.getLast? texts
          simp [Script.Kind.metadataKey] at lasts
      | url =>
          simp only [Script.Kind.metadataKey, String.toList_append] at texts
          exact ⟨rfl, String.toList_inj.mp (List.append_cancel_right texts)⟩

/-- The two ways of declaring a script have different keys. -/
theorem Script.metadataKey_ne (scriptType : String) :
    Script.Kind.inline.metadataKey scriptType ≠ Script.Kind.url.metadataKey scriptType := by
  intro same
  cases (Script.metadataKey_inj same).1

namespace Session

theorem lookup_inline (session : Session) (attributes : Option Script.Attributes)
    (directory : String) :
    (session.entries attributes directory).lookup
        (Script.Kind.inline.metadataKey session.scriptType) =
      (Script.declaredIn attributes .inline session.scriptType).map fun script =>
        (session.area.stage directory script).1.toOption := by
  unfold entries inlineEntry urlEntry
  rw [withInline_scriptType]
  cases Script.declaredIn attributes .inline session.scriptType with
  | some script => simp
  | none =>
      have different := beq_eq_false_iff_ne.mpr (Script.metadataKey_ne session.scriptType)
      cases Script.declaredIn attributes .url session.scriptType with
      | none => rfl
      | some url => simp [List.lookup_cons, different]

theorem lookup_url (session : Session) (attributes : Option Script.Attributes)
    (directory : String) :
    (session.entries attributes directory).lookup
        (Script.Kind.url.metadataKey session.scriptType) =
      (Script.declaredIn attributes .url session.scriptType).map fun url =>
        ((session.withInline attributes directory).scriptDownload url
          directory).outcome.toOption := by
  unfold entries inlineEntry urlEntry
  rw [withInline_scriptType]
  have different := beq_eq_false_iff_ne.mpr (Script.metadataKey_ne session.scriptType).symm
  cases Script.declaredIn attributes .inline session.scriptType with
  | some script =>
      cases Script.declaredIn attributes .url session.scriptType with
      | none => simp [List.lookup_cons, different]
      | some url => simp [List.lookup_cons, different, downloadScript_eq, Download.outcome]
  | none =>
      cases Script.declaredIn attributes .url session.scriptType with
      | none => rfl
      | some url => simp [downloadScript_eq, Download.outcome]

@[simp] theorem scriptDownload_entry (session : Session) (url directory : String) :
    (session.scriptDownload url directory).entry = session := by
  unfold scriptDownload
  split <;> rfl

/-- The download of a step begins in the session that has been prepared for it, and its
outcome is in the result of the step. -/
theorem perform_download {session : Session} {step : Step} {download : Download}
    (made : session.download? step = some download) :
    download.entry = session.prepared step ∧
      (session.perform step).1.Tells session.scriptType download.outcome ∧
      (session.perform step).2.Resembles download.exit := by
  have ending := session.perform_resembles step
  rw [settled, made] at ending
  cases step with
  | scripts directory =>
      obtain ⟨url, declared, rfl⟩ := Option.map_eq_some_iff.mp made
      refine ⟨scriptDownload_entry _ _ _, ?_, ending⟩
      have found := (session.scripts_agrees directory).1
      have listed := session.opened.lookup_url
        (Script.effective session.tree session.scriptType) directory
      change Script.declaredIn (Script.effective session.tree session.scriptType) .url
        session.opened.scriptType = some url at declared
      rw [declared] at listed
      change (session.scripts directory).1.lookup _ = _
      rw [found]
      exact listed
  | attributeScripts attributes directory =>
      obtain ⟨url, declared, rfl⟩ := Option.map_eq_some_iff.mp made
      refine ⟨scriptDownload_entry _ _ _, ?_, ending⟩
      have found := (attributeScripts_agrees (Resembles.refl session) attributes directory).1
      have listed := session.lookup_url attributes directory
      rw [declared] at listed
      change (session.attributeScripts attributes directory).1.lookup _ = _
      rw [found]
      exact listed
  | downloadScript url directory =>
      cases made
      refine ⟨scriptDownload_entry _ _ _, ?_, ending⟩
      change (session.downloadScript url directory).1 = _
      rw [downloadScript_eq]
      rfl
  | downloadAuthorized url directory =>
      cases made
      exact ⟨rfl, rfl, ending⟩
  | downloadPlain url directory =>
      cases made
      exact ⟨rfl, rfl, ending⟩

end Session
end InstanceScripts
