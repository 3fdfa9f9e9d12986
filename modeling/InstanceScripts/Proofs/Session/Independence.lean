import InstanceScripts.Proofs.Http.Parallel
import InstanceScripts.Proofs.Session.Declared

/-!
# What the metadata have no influence on

Of all the metadata, only what the attributes that count declare for the type of a session has
an influence on what the session does.  Two sessions that read different metadata there, and
are alike otherwise, retrieve the same scripts in the same way.
-/

namespace InstanceScripts

/-! ## The keys of other types -/

namespace Script

/-- A key under which scripts of some other type are declared. -/
def IsForeign (scriptType name : String) : Prop :=
  ∃ (kind : Kind) (another : String), another ≠ scriptType ∧ name = kind.metadataKey another

theorem not_isForeign_metadataKey (kind : Kind) (scriptType : String) :
    ¬IsForeign scriptType (kind.metadataKey scriptType) := by
  rintro ⟨other, another, different, same⟩
  exact different (metadataKey_inj same).2.symm

section

variable {attributes others : Option Attributes} {scriptType : String}

/-- Attributes that hold the same texts under the keys of a type declare the same. -/
theorem declaredIn_congr
    (agree : ∀ (kind : Kind) (text : String),
      Holds attributes (kind.metadataKey scriptType) text ↔
        Holds others (kind.metadataKey scriptType) text) (kind : Kind) :
    declaredIn attributes kind scriptType = declaredIn others kind scriptType := by
  ext text
  rw [declaredIn_eq_some_iff, declaredIn_eq_some_iff]
  exact agree kind text

theorem declares_congr
    (agree : ∀ (kind : Kind) (text : String),
      Holds attributes (kind.metadataKey scriptType) text ↔
        Holds others (kind.metadataKey scriptType) text) :
    declares attributes scriptType = declares others scriptType := by
  unfold declares
  rw [declaredIn_congr agree, declaredIn_congr agree]

end

end Script

namespace Session

/-! ## Sessions side by side -/

/-- Two sessions that differ at most in what they have asked, sent and reported, in what their
networks have said so far, and in what their sources say to the question for everything. -/
structure Alike (session other : Session) : Prop where
  scriptType : session.scriptType = other.scriptType
  policy : session.policy = other.policy
  token : session.token = other.token
  area : session.area = other.area
  source : session.source.Alike other.source
  answers : Http.AnswerAlike session.network other.network session.history other.history

/-- Two sessions that are alike, and that have asked and sent the same since two others. -/
structure InStep (first second session other : Session) : Prop extends Alike session other where
  sent : GrowAlike first.history second.history session.history other.history
  asked : GrowAlike first.queries second.queries session.queries other.queries

/-- Two operations give the same, and leave sessions behind that are alike and have asked and
sent the same. -/
def Coincide {α : Type} (first second : Session) (result other : α × Session) : Prop :=
  result.1 = other.1 ∧ InStep first second result.2 other.2

theorem Alike.inStep {session other : Session} (same : session.Alike other) :
    InStep session other session other :=
  ⟨same, .refl _ _, .refl _ _⟩

section

variable {first second session other : Session}

namespace InStep

/-- One session is the other one but for the fields in which they may differ. -/
theorem exists_eq (same : InStep first second session other) :
    ∃ network source queries history log,
      session =
        { other with
          network := network, source := source, queries := queries, history := history,
          log := log } := by
  refine ⟨session.network, session.source, session.queries, session.history, session.log, ?_⟩
  rw [← same.scriptType, ← same.policy, ← same.token, ← same.area]

theorem parallel (same : InStep first second session other) :
    Http.Parallel session.network other.network first.history second.history session.history
      other.history :=
  ⟨same.answers, same.sent⟩

theorem report (same : InStep first second session other) (lines others : List Log.Line) :
    InStep first second (session.report lines) (other.report others) :=
  ⟨⟨same.scriptType, same.policy, same.token, same.area, same.source, same.answers⟩,
    same.sent, same.asked⟩

theorem withToken (same : InStep first second session other) (token : Option String) :
    InStep first second { session with token := token } { other with token := token } :=
  ⟨⟨same.scriptType, same.policy, rfl, same.area, same.source, same.answers⟩,
    same.sent, same.asked⟩

theorem withArea (same : InStep first second session other) (area : Staging.Area) :
    InStep first second { session with area := area } { other with area := area } :=
  ⟨⟨same.scriptType, same.policy, same.token, rfl, same.source, same.answers⟩,
    same.sent, same.asked⟩

theorem withHistory (same : InStep first second session other) {history another : Http.History}
    (grown : Http.Parallel session.network other.network first.history second.history history
      another) :
    InStep first second { session with history := history } { other with history := another } :=
  ⟨⟨same.scriptType, same.policy, same.token, same.area, same.source, grown.answers⟩,
    grown.sent, same.asked⟩

end InStep

/-! ## Downloads -/

/-- The answer to the question for a key is the same. -/
theorem lookUp_coincides (same : InStep first second session other) {key : String}
    (named : key ≠ "") (recursive retry : Bool) :
    Coincide first second (session.lookUp (some key) recursive retry)
      (other.lookUp (some key) recursive retry) := by
  obtain ⟨answers, sources, histories⟩ :=
    same.source.get (some key) recursive retry same.parallel
  have answer := answers named
  clear answers
  revert sources histories answer
  unfold lookUp
  dsimp only
  rcases session.source.get session.network (some key) recursive retry session.history
    with ⟨answer, source, history⟩
  rcases other.source.get other.network (some key) recursive retry other.history
    with ⟨otherAnswer, otherSource, otherHistory⟩
  intro sources histories answers
  obtain rfl : answer = otherAnswer := answers
  exact ⟨rfl, ⟨same.scriptType, same.policy, same.token, same.area, sources, histories.answers⟩,
    histories.sent, same.asked.append _⟩

theorem fetchToken_coincides (same : InStep first second session other) :
    Coincide first second session.fetchToken other.fetchToken := by
  have found := lookUp_coincides same (show Token.metadataKey ≠ "" by decide) false false
  revert found
  unfold fetchToken
  rcases session.lookUp (some Token.metadataKey) false false with ⟨answer, after⟩
  rcases other.lookUp (some Token.metadataKey) false false with ⟨otherAnswer, otherAfter⟩
  rintro ⟨rfl, further⟩
  rcases answer with failure | _ | answer
  · exact ⟨rfl, further.report _ _⟩
  · exact ⟨rfl, further⟩
  · exact ⟨rfl, further.report _ _⟩

theorem obtainToken_coincides (same : InStep first second session other) :
    Coincide first second session.obtainToken other.obtainToken := by
  have fetched := fetchToken_coincides same
  unfold obtainToken
  rw [same.token]
  cases other.token with
  | some token => exact ⟨rfl, same⟩
  | none =>
      revert fetched
      dsimp only
      rcases session.fetchToken with ⟨token, after⟩
      rcases other.fetchToken with ⟨otherToken, otherAfter⟩
      rintro ⟨rfl, further⟩
      exact ⟨rfl, further.withToken token⟩

theorem attemptPlainly_coincides (same : InStep first second session other) (url : String)
    (file : Nat) :
    Coincide first second (session.attemptPlainly url file) (other.attemptPlainly url file) := by
  obtain ⟨network, source, queries, history, log, rfl⟩ := same.exists_eq
  have runs := Http.fetchToFile_run_coincides other.policy url file other.area same.parallel
  revert runs
  unfold attemptPlainly
  dsimp only
  generalize other.policy.run Failure.isTransient (Http.fetchToFile network url file)
    (history, other.area) = run
  generalize other.policy.run Failure.isTransient (Http.fetchToFile other.network url file)
    (other.history, other.area) = otherRun
  obtain ⟨outcome, ⟨after, written⟩, timeline⟩ := run
  obtain ⟨otherOutcome, ⟨otherAfter, otherWritten⟩, otherTimeline⟩ := otherRun
  rintro ⟨outcomes, grown, rfl⟩
  exact ⟨outcomes, (same.withHistory grown).withArea written⟩

theorem attemptWithToken_coincides (same : InStep first second session other)
    (url token : String) :
    Coincide first second (session.attemptWithToken url token)
      (other.attemptWithToken url token) := by
  obtain ⟨network, source, queries, history, log, rfl⟩ := same.exists_eq
  obtain ⟨outcomes, grown⟩ :=
    Http.fetchWithToken_run_coincides other.policy url token same.parallel
  exact ⟨outcomes, same.withHistory grown⟩

theorem InStep.lockstep : Lockstep (InStep first second) where
  area same := same.area
  report same lines := same.report lines lines
  withArea same area := same.withArea area
  withoutToken same := same.withToken none
  obtained := obtainToken_coincides
  attempted := attemptPlainly_coincides
  presented := attemptWithToken_coincides

theorem downloadScript_coincides (same : InStep first second session other)
    (url directory : String) :
    Coincide first second (session.downloadScript url directory)
      (other.downloadScript url directory) :=
  InStep.lockstep.downloadScript same url directory

/-! ## Scripts that attributes declare -/

variable {attributes others : Option Script.Attributes}

theorem withInline_inStep (same : InStep first second session other)
    (agree : ∀ kind, Script.declaredIn attributes kind session.scriptType =
      Script.declaredIn others kind session.scriptType)
    (directory : String) :
    session.inlineEntry attributes directory = other.inlineEntry others directory ∧
      InStep first second (session.withInline attributes directory)
        (other.withInline others directory) := by
  obtain ⟨network, source, queries, history, log, rfl⟩ := same.exists_eq
  unfold inlineEntry withInline
  rw [agree]
  dsimp only
  cases Script.declaredIn others .inline other.scriptType with
  | none => exact ⟨rfl, same⟩
  | some script => exact ⟨rfl, same.withArea _⟩

theorem withDownload_inStep (same : InStep first second session other)
    (agree : ∀ kind, Script.declaredIn attributes kind session.scriptType =
      Script.declaredIn others kind session.scriptType)
    (directory : String) :
    session.urlEntry attributes directory = other.urlEntry others directory ∧
      InStep first second (session.withDownload attributes directory)
        (other.withDownload others directory) := by
  obtain ⟨network, source, queries, history, log, rfl⟩ := same.exists_eq
  unfold urlEntry withDownload
  rw [agree]
  dsimp only
  cases Script.declaredIn others .url other.scriptType with
  | none => exact ⟨rfl, same⟩
  | some url =>
      obtain ⟨outcomes, further⟩ := downloadScript_coincides same url directory
      refine ⟨?_, further⟩
      dsimp only
      rw [outcomes]

/-- Attributes that declare the same have the same scripts staged. -/
theorem entries_coincide (same : InStep first second session other)
    (agree : ∀ kind, Script.declaredIn attributes kind session.scriptType =
      Script.declaredIn others kind session.scriptType)
    (directory : String) :
    Coincide first second
      (session.entries attributes directory,
        (session.withInline attributes directory).withDownload attributes directory)
      (other.entries others directory,
        (other.withInline others directory).withDownload others directory) := by
  obtain ⟨inlined, middle⟩ := withInline_inStep same agree directory
  rw [← session.withInline_scriptType attributes directory] at agree
  obtain ⟨downloaded, ending⟩ := withDownload_inStep middle agree directory
  refine ⟨?_, ending⟩
  unfold entries
  dsimp only
  rw [inlined, downloaded]

end

/-! ## Runs side by side -/

/-- Whatever the metadata are, sessions that are alike stay so when they read them. -/
theorem Alike.opened {session other : Session} (same : session.Alike other) :
    session.opened.Alike other.opened := by
  obtain ⟨_, sources, histories⟩ := same.source.get none true true same.inStep.parallel
  exact ⟨same.scriptType, same.policy, same.token, same.area, sources, histories.answers⟩

/-- Two sessions retrieve scripts alike: they find the same ones and stage the same files;
after the metadata are read they send the same requests and ask the same questions; and they
are left with the same token. -/
structure RetrieveAlike (session other : Session) (directory : String) : Prop where
  found : (session.scripts directory).1 = (other.scripts directory).1
  area : (session.scripts directory).2.area = (other.scripts directory).2.area
  sent : GrowAlike session.opened.history other.opened.history
    (session.scripts directory).2.history (other.scripts directory).2.history
  asked : GrowAlike session.opened.queries other.opened.queries
    (session.scripts directory).2.queries (other.scripts directory).2.queries
  token : (session.scripts directory).2.token = (other.scripts directory).2.token

/-- Sessions that are alike once they have read metadata that declare the same retrieve
scripts alike. -/
theorem Alike.retrieve {session other : Session} (alike : session.opened.Alike other.opened)
    (agree : ∀ kind,
      Script.declaredIn (Script.effective session.tree session.scriptType) kind
          session.scriptType =
        Script.declaredIn (Script.effective other.tree session.scriptType) kind
          session.scriptType)
    (directory : String) : session.RetrieveAlike other directory := by
  have types : session.scriptType = other.scriptType := alike.scriptType
  obtain ⟨entries, ending⟩ := entries_coincide alike.inStep agree directory
  obtain ⟨found, after⟩ := session.scripts_agrees directory
  obtain ⟨otherFound, otherAfter⟩ := other.scripts_agrees directory
  rw [← types] at otherFound otherAfter
  refine ⟨found.trans (entries.trans otherFound.symm), ?_, ?_, ?_, ?_⟩
  · rw [after, otherAfter]
    exact ending.area
  · rw [after, otherAfter]
    exact ending.sent
  · rw [after, otherAfter]
    exact ending.asked
  · rw [after, otherAfter]
    exact ending.token

/-- Metadata that are not declared have no influence.  Let two sessions be alike once they have
read their metadata.  If the attributes that count hold the same texts under the keys of the
sessions' type, the sessions retrieve scripts alike.  So the project's attributes do not matter
if the instance declares a script of the type, and what is held under a key of another type
never matters. -/
theorem undeclared_ignored {session other : Session}
    (alike : session.opened.Alike other.opened) (directory : String) :
    let own (session : Session) := Script.scopeAttributes session.tree "instance"
    let shared (session : Session) := Script.scopeAttributes session.tree "project"
    let counting (session : Session) := Script.effective session.tree session.scriptType
    let key (kind : Script.Kind) := kind.metadataKey session.scriptType
    ((∀ kind text, Script.Holds (counting session) (key kind) text ↔
        Script.Holds (counting other) (key kind) text) →
      session.RetrieveAlike other directory) ∧
    ((∃ kind text, Script.Holds (own session) (key kind) text) →
      (∀ kind text, Script.Holds (own session) (key kind) text ↔
        Script.Holds (own other) (key kind) text) →
      session.RetrieveAlike other directory) ∧
    ((∀ name text, ¬Script.IsForeign session.scriptType name →
        (Script.Holds (own session) name text ↔ Script.Holds (own other) name text) ∧
          (Script.Holds (shared session) name text ↔ Script.Holds (shared other) name text)) →
      session.RetrieveAlike other directory) := by
  intro own shared counting key
  have types : other.scriptType = session.scriptType := alike.scriptType.symm
  have counted (session : Session) : counting session =
      if Script.declares (own session) session.scriptType then own session
      else shared session := rfl
  have retrieve
      (agree : ∀ kind text, Script.Holds (counting session) (key kind) text ↔
        Script.Holds (counting other) (key kind) text) :
      session.RetrieveAlike other directory := by
    refine alike.retrieve (Script.declaredIn_congr ?_) directory
    simpa only [counting, key, types] using agree
  refine ⟨retrieve, fun declared agree => retrieve ?_, fun agree => retrieve ?_⟩
  · have declares := Script.declares_iff.mpr declared
    rw [counted session, counted other, types, ← Script.declares_congr agree, if_pos declares,
      if_pos declares]
    exact agree
  · have owns (kind : Script.Kind) (text : String) :=
      (agree (key kind) text (Script.not_isForeign_metadataKey kind session.scriptType)).1
    have shares (kind : Script.Kind) (text : String) :=
      (agree (key kind) text (Script.not_isForeign_metadataKey kind session.scriptType)).2
    rw [counted session, counted other, types, ← Script.declares_congr owns]
    split
    · exact owns
    · exact shares

/-! ## Metadata that differ -/

theorem reading_alike (tree other : Json) : (reading tree).opened.Alike (reading other).opened :=
  Alike.opened
    ⟨rfl, rfl, rfl, rfl, .withTree Metadata.Table.empty tree other, fun _ _ => rfl⟩

/-- A script of the project that the instance hides is ignored, and so are scripts of another
type, wherever they are. -/
theorem hidden_ignored :
    let own := ("startup-script", Json.str "echo")
    let foreign := ("startup-script-script-url", Json.str "http://h/a")
    (reading (attributesTree [own] [("startup-script-url", .str "http://h/a")])).RetrieveAlike
        (reading (attributesTree [own] [])) "d" ∧
      (reading (attributesTree [own, foreign] [foreign])).RetrieveAlike
        (reading (attributesTree [own] [])) "d" := by
  intro own foreign
  constructor
  · have declared : Script.Holds (some [own]) "startup-script" "echo" :=
      ⟨[own], rfl, rfl, by decide⟩
    exact (undeclared_ignored (reading_alike _ _) "d").2.1 ⟨.inline, "echo", declared⟩
      fun _ _ => Iff.rfl
  · refine (undeclared_ignored (reading_alike _ _) "d").2.2 fun name text domestic => ?_
    have unnamed : (name == "startup-script-script-url") = false := by
      refine beq_eq_false_iff_ne.mpr fun same => domestic ?_
      exact ⟨.url, "startup-script", by decide, same⟩
    have dropped (members : Script.Attributes) :
        (members ++ [foreign]).lookup name = members.lookup name := by
      simp [List.lookup_append, List.lookup_cons, foreign, unnamed]
    change
      (Script.Holds (some ([own] ++ [foreign])) name text ↔
        Script.Holds (some [own]) name text) ∧
      (Script.Holds (some ([] ++ [foreign])) name text ↔ Script.Holds (some []) name text)
    rw [Script.holds_some, Script.holds_some, Script.holds_some, Script.holds_some, dropped,
      dropped]
    exact ⟨Iff.rfl, Iff.rfl⟩

end Session
end InstanceScripts
