import InstanceScripts.Proofs.Http.Parallel
import InstanceScripts.Proofs.Session.TokenCache

/-!
# What keeping the token saves

A session over a table keeps no other token than the one that the table would give again.  So
sessions that differ in whether they still have it go the same way, and only ask for it at
different times.
-/

namespace InstanceScripts

/-- The token in a table's answer to the question for one. -/
def Metadata.Table.token? (table : Metadata.Table) : Option String :=
  Token.ofAnswer? (table.get (some Token.metadataKey)).1

/-- What is reported about an answer to the question for a token. -/
def Token.remarks (answer : Except Failure (Option Json)) : List Log.Line :=
  match answer with
  | .error failure => [.warn ("Could not fetch authentication token: " ++ failure.message)]
  | .ok none => []
  | .ok (some json) => (compose json).2

theorem Token.compose_lines {answer : Json} {token : String}
    (brought : (compose answer).1 = some token) : (compose answer).2 = [] := by
  unfold compose at brought ⊢
  split at brought
  · cases brought
  · rfl
  · cases brought
  · cases brought
  · cases brought

/-- An answer with a token is worth no remark. -/
theorem Token.remarks_of_token {answer : Except Failure (Option Json)} {token : String}
    (brought : ofAnswer? answer = some token) : remarks answer = [] := by
  rcases answer with failure | _ | json
  · cases brought
  · cases brought
  · exact compose_lines brought

namespace Session

/-! ## Sessions over a table -/

/-- A session that asks a table, and that has the table's token or none. -/
structure ServedBy (table : Metadata.Table) (session : Session) : Prop where
  source : ∃ asked, session.source = .canned { table with asked := asked }
  token : session.token = none ∨ session.token = table.token?

/-- Give the token up. -/
def forget (session : Session) : Session :=
  { session with token := none }

/-- The questions that are not for a token. -/
def otherQueries (queries : List Metadata.Query) : List Metadata.Query :=
  queries.filter fun query => query.key ≠ some Token.metadataKey

@[simp] theorem otherQueries_append (front back : List Metadata.Query) :
    otherQueries (front ++ back) = otherQueries front ++ otherQueries back :=
  List.filter_append front back

section

variable {table : Metadata.Table} {session other : Session}

namespace ServedBy

/-- A table gives the answers that it has, whatever it has been asked before. -/
theorem lookUp (served : ServedBy table session) (key : Option String) (recursive retry : Bool) :
    ∃ asked, session.lookUp key recursive retry =
      ((table.get key).1,
        { session with
          source := .canned { table with asked := asked }
          queries := session.queries ++ [⟨key, recursive, retry, (table.get key).1⟩] }) := by
  obtain ⟨asked, source⟩ := served.source
  refine ⟨asked ++ [key.getD ""], ?_⟩
  have got : ({ table with asked := asked } : Metadata.Table).get key =
      ((table.get key).1, { table with asked := asked ++ [key.getD ""] }) := by
    apply Prod.ext
    · rw [Metadata.Table.get_fst, Metadata.Table.get_fst]
    · rw [Metadata.Table.get_snd]
  unfold Session.lookUp Metadata.Source.get
  rw [source]
  dsimp only
  rw [got]

theorem tokenAnswer (served : ServedBy table session) :
    session.tokenAnswer = (table.get (some Token.metadataKey)).1 := by
  obtain ⟨asked, answered⟩ := served.lookUp (some Token.metadataKey) false false
  rw [Session.tokenAnswer, ← lookUp_fst, answered]

/-- It makes no difference whether the token is at hand or has to be asked for. -/
theorem tokenToUse? (served : ServedBy table session) : session.tokenToUse? = table.token? := by
  unfold Session.tokenToUse?
  cases held : session.token with
  | none => exact congrArg Token.ofAnswer? served.tokenAnswer
  | some token => simpa [held] using served.token

/-- Whether or not a session has to ask for the token, it reports the same. -/
theorem obtainToken (served : ServedBy table session) :
    session.obtainToken =
      (table.token?,
        session.provided.report (Token.remarks (table.get (some Token.metadataKey)).1)) := by
  have usable := served.tokenToUse?
  unfold Session.tokenToUse? at usable
  unfold Session.obtainToken provided
  cases held : session.token with
  | some token =>
      rw [held] at usable
      rw [← usable, Token.remarks_of_token usable.symm, report_nil]
  | none =>
      rw [ServedBy.tokenAnswer served]
      obtain ⟨asked, answered⟩ := served.lookUp (some Token.metadataKey) false false
      unfold fetchToken
      rw [answered]
      unfold Metadata.Table.token?
      rcases (table.get (some Token.metadataKey)).1 with failure | _ | json
      · rfl
      · simp [Token.remarks, Token.ofAnswer?]
      · rfl

end ServedBy

/-! ## Interchangeable sessions -/

/-- Two sessions over a table that differ at most in whether they have the token, and in the
questions for it. -/
structure Interchangeable (table : Metadata.Table) (session other : Session) : Prop where
  left : ServedBy table session
  right : ServedBy table other
  same : session =
    { other with source := session.source, token := session.token, queries := session.queries }
  queries : otherQueries session.queries = otherQueries other.queries

/-- Two operations give the same, and leave interchangeable sessions behind. -/
abbrev Concur {α : Type} (table : Metadata.Table) (result other : α × Session) : Prop :=
  GiveRelated (Interchangeable table) result other

namespace Interchangeable

theorem refl (served : ServedBy table session) : Interchangeable table session session :=
  ⟨served, served, rfl, rfl⟩

theorem symm (same : Interchangeable table session other) : Interchangeable table other session :=
  ⟨same.right, same.left, by rw [same.same], same.queries.symm⟩

theorem trans {third : Session} (first : Interchangeable table session other)
    (second : Interchangeable table other third) : Interchangeable table session third :=
  ⟨first.left, second.right, by rw [first.same, second.same], first.queries.trans second.queries⟩

theorem exists_eq (same : Interchangeable table session other) :
    ∃ source token queries,
      session = { other with source := source, token := token, queries := queries } :=
  ⟨_, _, _, same.same⟩

theorem report (same : Interchangeable table session other) (lines : List Log.Line) :
    Interchangeable table (session.report lines) (other.report lines) :=
  ⟨⟨same.left.source, same.left.token⟩, ⟨same.right.source, same.right.token⟩,
    by rw [same.same]; rfl, same.queries⟩

theorem withArea (same : Interchangeable table session other) (area : Staging.Area) :
    Interchangeable table { session with area := area } { other with area := area } :=
  ⟨⟨same.left.source, same.left.token⟩, ⟨same.right.source, same.right.token⟩,
    by rw [same.same], same.queries⟩

theorem withHistory (same : Interchangeable table session other) (history : Http.History) :
    Interchangeable table { session with history := history } { other with history := history } :=
  ⟨⟨same.left.source, same.left.token⟩, ⟨same.right.source, same.right.token⟩,
    by rw [same.same], same.queries⟩

/-- A token that both give up may have been there or not. -/
theorem withoutToken (same : Interchangeable table session other) :
    Interchangeable table { session with token := none } { other with token := none } :=
  ⟨⟨same.left.source, .inl rfl⟩, ⟨same.right.source, .inl rfl⟩, by rw [same.same], same.queries⟩

end Interchangeable

/-- A session that asks for the token again can take the place of one that has it. -/
theorem ServedBy.forget (served : ServedBy table session) :
    Interchangeable table session session.forget :=
  ⟨served, ⟨served.source, .inl rfl⟩, rfl, rfl⟩

theorem ServedBy.provided (served : ServedBy table session) :
    Interchangeable table session session.provided := by
  unfold Session.provided
  cases held : session.token with
  | some token => exact .refl served
  | none =>
      rw [served.tokenAnswer]
      obtain ⟨asked, answered⟩ := served.lookUp (some Token.metadataKey) false false
      rw [answered]
      refine ⟨served, ⟨⟨asked, rfl⟩, .inr rfl⟩, ?_, ?_⟩
      · rfl
      · simp [otherQueries]

/-! ## Operations side by side -/

theorem lookUp_concurs (same : Interchangeable table session other) (key : Option String)
    (recursive retry : Bool) :
    Concur table (session.lookUp key recursive retry) (other.lookUp key recursive retry) := by
  obtain ⟨asked, answered⟩ := same.left.lookUp key recursive retry
  obtain ⟨otherAsked, otherAnswered⟩ := same.right.lookUp key recursive retry
  rw [answered, otherAnswered]
  refine ⟨rfl, ⟨⟨asked, rfl⟩, same.left.token⟩, ⟨⟨otherAsked, rfl⟩, same.right.token⟩, ?_, ?_⟩
  · rw [same.same]
  · rw [otherQueries_append, otherQueries_append, same.queries]

theorem obtainToken_concurs (same : Interchangeable table session other) :
    Concur table session.obtainToken other.obtainToken := by
  rw [same.left.obtainToken, same.right.obtainToken]
  refine ⟨rfl, Interchangeable.report ?_ _⟩
  exact (same.left.provided.symm.trans same).trans same.right.provided

theorem attemptPlainly_concurs (same : Interchangeable table session other) (url : String)
    (file : Nat) :
    Concur table (session.attemptPlainly url file)
      (other.attemptPlainly url file) := by
  obtain ⟨source, token, queries, rfl⟩ := same.exists_eq
  unfold attemptPlainly
  dsimp only
  generalize Retry.Policy.run _ _ _ _ = run
  exact ⟨rfl, (same.withHistory run.state.1).withArea run.state.2⟩

theorem attemptWithToken_concurs (same : Interchangeable table session other)
    (url token : String) :
    Concur table (session.attemptWithToken url token)
      (other.attemptWithToken url token) := by
  obtain ⟨source, held, queries, rfl⟩ := same.exists_eq
  unfold attemptWithToken
  dsimp only
  generalize Retry.Policy.run _ _ _ _ = run
  exact ⟨rfl, same.withHistory run.state⟩

theorem Interchangeable.lockstep : Lockstep (Interchangeable table) where
  area same := by rw [same.same]
  report same lines := same.report lines
  withArea same area := same.withArea area
  withoutToken same := same.withoutToken
  obtained := obtainToken_concurs
  attempted := attemptPlainly_concurs
  presented := attemptWithToken_concurs

theorem stageInline_concurs (same : Interchangeable table session other)
    (key script directory : String) :
    Concur table (session.stageInline key script directory)
      (other.stageInline key script directory) := by
  have areas : session.area = other.area := by rw [same.same]
  unfold stageInline
  rw [areas]
  rcases other.area.stage directory script with ⟨failure | file, area⟩
  · exact ⟨rfl, (same.withArea area).report _⟩
  · exact ⟨rfl, same.withArea area⟩

theorem stageUrl_concurs (same : Interchangeable table session other) (url directory : String) :
    Concur table (session.stageUrl url directory) (other.stageUrl url directory) := by
  have downloaded := Interchangeable.lockstep.downloadScript same url directory
  revert downloaded
  unfold stageUrl
  rcases session.downloadScript url directory with ⟨outcome, after⟩
  rcases other.downloadScript url directory with ⟨otherOutcome, otherAfter⟩
  rintro ⟨outcomes, further⟩
  obtain rfl : outcome = otherOutcome := outcomes
  cases outcome with
  | error failure => exact ⟨rfl, further.report _⟩
  | ok file => exact ⟨rfl, further⟩

theorem stageDeclared_concurs (same : Interchangeable table session other) (kind : Script.Kind)
    (attributes : Script.Attributes) (directory : String) :
    Concur table (session.stageDeclared kind attributes directory)
      (other.stageDeclared kind attributes directory) := by
  have types : session.scriptType = other.scriptType := by rw [same.same]
  unfold stageDeclared
  rw [types]
  cases Script.declared attributes kind other.scriptType with
  | none => exact ⟨rfl, same⟩
  | some declared =>
      dsimp only
      generalize Log.Line.info _ = line
      have reported := same.report [line]
      cases kind with
      | inline =>
          obtain ⟨files, further⟩ := stageInline_concurs reported
            (Script.Kind.inline.metadataKey other.scriptType) declared directory
          exact ⟨by dsimp only; rw [files], further⟩
      | url =>
          obtain ⟨files, further⟩ := stageUrl_concurs reported declared directory
          exact ⟨by dsimp only; rw [files], further⟩

theorem attributeScripts_concurs (same : Interchangeable table session other)
    (attributes : Option Script.Attributes) (directory : String) :
    Concur table (session.attributeScripts attributes directory)
      (other.attributeScripts attributes directory) := by
  cases attributes with
  | none => exact ⟨rfl, same⟩
  | some attributes =>
      obtain ⟨inlined, middle⟩ := stageDeclared_concurs same .inline attributes directory
      obtain ⟨downloaded, ending⟩ := stageDeclared_concurs middle .url attributes directory
      exact ⟨congrArg₂ (· ++ ·) inlined downloaded, ending⟩

theorem metadataTree_concurs (same : Interchangeable table session other) :
    Concur table session.metadataTree other.metadataTree := by
  have asked := lookUp_concurs same none true true
  revert asked
  unfold metadataTree
  rcases session.lookUp none true true with ⟨answer, after⟩
  rcases other.lookUp none true true with ⟨otherAnswer, otherAfter⟩
  rintro ⟨answers, further⟩
  obtain rfl : answer = otherAnswer := answers
  rcases answer with failure | _ | tree
  · exact ⟨rfl, further.report _⟩
  · exact ⟨rfl, further⟩
  · exact ⟨rfl, further⟩

theorem scripts_concurs (same : Interchangeable table session other) (directory : String) :
    Concur table (session.scripts directory) (other.scripts directory) := by
  have read := metadataTree_concurs same
  revert read
  unfold scripts
  rcases session.metadataTree with ⟨tree, after⟩
  rcases other.metadataTree with ⟨otherTree, otherAfter⟩
  rintro ⟨trees, further⟩
  obtain rfl : tree = otherTree := trees
  dsimp only
  generalize (_ : List Log.Line) ++ (_ : List Log.Line) = lines
  have own := attributeScripts_concurs (further.report lines)
    (Script.scopeAttributes tree "instance") directory
  revert own
  rcases Session.attributeScripts (after.report lines) (Script.scopeAttributes tree "instance")
    directory with ⟨found, left⟩
  rcases Session.attributeScripts (otherAfter.report lines)
    (Script.scopeAttributes tree "instance") directory with ⟨otherFound, right⟩
  rintro ⟨same_found, ending⟩
  obtain rfl : found = otherFound := same_found
  dsimp only
  split
  · exact attributeScripts_concurs ending _ directory
  · exact ⟨rfl, ending⟩

/-- A step gives the same in interchangeable sessions, and leaves such sessions behind. -/
theorem perform_concurs (same : Interchangeable table session other) (step : Step) :
    Concur table (session.perform step) (other.perform step) := by
  cases step with
  | scripts directory =>
      obtain ⟨found, further⟩ := scripts_concurs same directory
      exact ⟨congrArg Step.Result.scripts found, further⟩
  | attributeScripts attributes directory =>
      obtain ⟨found, further⟩ := attributeScripts_concurs same attributes directory
      exact ⟨congrArg Step.Result.scripts found, further⟩
  | downloadScript url directory =>
      obtain ⟨outcomes, further⟩ := Interchangeable.lockstep.downloadScript same url directory
      exact ⟨congrArg Step.Result.file outcomes, further⟩
  | downloadAuthorized url directory =>
      obtain ⟨outcomes, further⟩ := Interchangeable.lockstep.downloadAuthorized same url directory
      exact ⟨congrArg Step.Result.file outcomes, further⟩
  | downloadPlain url directory =>
      obtain ⟨outcomes, further⟩ := Interchangeable.lockstep.downloadPlain same url directory
      exact ⟨congrArg Step.Result.file outcomes, further⟩

/-! ## The token after a step -/

theorem prepared_interchangeable (same : Interchangeable table session other) (step : Step) :
    Interchangeable table (session.prepared step) (other.prepared step) := by
  have inlined {first second : Session} (alike : Interchangeable table first second)
      (attributes : Option Script.Attributes) (directory : String) :
      Interchangeable table (first.withInline attributes directory)
        (second.withInline attributes directory) := by
    obtain ⟨source, token, queries, rfl⟩ := alike.exists_eq
    unfold withInline
    dsimp only
    split
    · exact alike.withArea _
    · exact alike
  cases step with
  | scripts directory =>
      obtain ⟨answers, further⟩ := lookUp_concurs same none true true
      have types : session.scriptType = other.scriptType := by rw [same.same]
      unfold prepared tree
      rw [lookUp_fst, lookUp_fst] at answers
      rw [answers, types]
      exact inlined further _ directory
  | attributeScripts attributes directory => exact inlined same attributes directory
  | downloadScript => exact same
  | downloadAuthorized => exact same
  | downloadPlain => exact same

/-- Interchangeable sessions make the same download in a step. -/
theorem download?_interchangeable (same : Interchangeable table session other) (step : Step) :
    other.download? step =
      (session.download? step).map fun download =>
        { download with entry := other.prepared step } := by
  have types : session.scriptType = other.scriptType := by rw [same.same]
  have moved (first second : Session) (url directory : String) :
      second.scriptDownload url directory =
        { first.scriptDownload url directory with entry := second } := by
    unfold scriptDownload
    cases Script.Origin.classify url with
    | storage target => rfl
    | plain target => rfl
  cases step with
  | scripts directory =>
      have answers : session.answer none true true = other.answer none true true :=
        (lookUp_concurs same none true true).1
      unfold download? scopeOf tree
      rw [answers, types, Option.map_map]
      refine congrArg (Option.map · _) (funext fun url => ?_)
      exact moved _ _ url directory
  | attributeScripts attributes directory =>
      unfold download?
      rw [types, Option.map_map]
      refine congrArg (Option.map · _) (funext fun url => ?_)
      exact moved _ _ url directory
  | downloadScript url directory => exact congrArg some (moved session other url directory)
  | downloadAuthorized url directory => rfl
  | downloadPlain url directory => rfl

/-- In interchangeable sessions a download needs a token alike, and leaves the same one behind if
it does. -/
theorem download_interchangeable {download : Download}
    (same : Interchangeable table download.entry other) :
    ({ download with entry := other } : Download).needsToken = download.needsToken ∧
      (download.needsToken = true →
        ({ download with entry := other } : Download).tokenLeft? = download.tokenLeft?) := by
  have areas : other.area = download.entry.area := by rw [same.same]
  have needs : ({ download with entry := other } : Download).needsToken = download.needsToken := by
    unfold Download.needsToken
    rw [areas]
  have outcomes : ({ download with entry := other } : Download).outcome = download.outcome := by
    unfold Download.outcome Download.run
    have lockstep : Lockstep (Interchangeable table) := Interchangeable.lockstep
    cases download.authorized with
    | true => exact (lockstep.downloadAuthorized same download.url download.directory).1.symm
    | false => exact (lockstep.downloadPlain same download.url download.directory).1.symm
  refine ⟨needs, fun needed => ?_⟩
  unfold Download.tokenLeft? Download.rejected
  rw [needs, needed, outcomes, if_pos rfl, if_pos rfl, same.left.tokenToUse?,
    same.right.tokenToUse?]

/-- After a step in interchangeable sessions, the token is the same if it was before, or if the
step has made a download that needs one. -/
theorem perform_token (same : Interchangeable table session other) (step : Step)
    (settled : session.token = other.token ∨
      ∃ download, session.download? step = some download ∧ download.needsToken = true) :
    (session.perform step).2.token = (other.perform step).2.token := by
  have treated := session.perform_treatsToken step
  have otherTreated := other.perform_treatsToken step
  rw [treated.token, otherTreated.token, download?_interchangeable same step]
  cases made : session.download? step with
  | none =>
      rcases settled with equal | ⟨download, found, _⟩
      · exact equal
      · rw [made] at found
        cases found
  | some download =>
      have entry := prepared_interchangeable same step
      rw [← (perform_download made).1] at entry
      obtain ⟨needs, left⟩ := download_interchangeable entry
      change download.tokenLeft? = _
      rw [Option.map_some]
      dsimp only
      cases needed : download.needsToken with
      | true => exact (left needed).symm
      | false =>
          -- Without a need for a token, either session goes on with the one that it had.
          have equal : session.token = other.token := by
            rcases settled with equal | ⟨chosen, found, needy⟩
            · exact equal
            · rw [made] at found
              cases found
              rw [needed] at needy
              cases needy
          have begun := treated.entry download made
          have otherMade := download?_interchangeable same step
          rw [made] at otherMade
          have otherBegun := otherTreated.entry _ otherMade
          unfold Download.tokenLeft?
          rw [needs, needed, if_neg Bool.false_ne_true, if_neg Bool.false_ne_true, begun, equal]
          exact otherBegun.symm

/-! ## Runs side by side -/

/-- Do some steps in a given way, one after the other. -/
def runBy (act : Session → Step → Step.Result × Session) (session : Session) :
    List Step → List Step.Result × Session
  | [] => ([], session)
  | step :: steps =>
      let (result, session) := act session step
      let (results, session) := runBy act session steps
      (result :: results, session)

/-- Do some steps. -/
def run (session : Session) (steps : List Step) : List Step.Result × Session :=
  runBy perform session steps

/-- Do a step without the token that is at hand, so that it has to be asked for. -/
def performAnew (session : Session) (step : Step) : Step.Result × Session :=
  session.forget.perform step

/-- Do some steps, asking for the token each time. -/
def runAnew (session : Session) (steps : List Step) : List Step.Result × Session :=
  runBy performAnew session steps

theorem run_snd (session : Session) (steps : List Step) :
    (session.run steps).2 = session.performAll steps := by
  induction steps generalizing session with
  | nil => rfl
  | cons step steps inductionHypothesis => exact inductionHypothesis (session.perform step).2

/-- Ways of doing a step that go together in interchangeable sessions do so in a whole run. -/
theorem runBy_concurs {act another : Session → Step → Step.Result × Session}
    (together : ∀ {session other : Session}, Interchangeable table session other → ∀ step,
      Concur table (act session step) (another other step))
    (same : Interchangeable table session other) (steps : List Step) :
    Concur table (runBy act session steps) (runBy another other steps) := by
  induction steps generalizing session other with
  | nil => exact ⟨rfl, same⟩
  | cons step steps inductionHypothesis =>
      obtain ⟨first, further⟩ := together same step
      obtain ⟨rest, ending⟩ := inductionHypothesis further
      exact ⟨congrArg₂ List.cons first rest, ending⟩

/-- Once a download in interchangeable sessions has needed the token, it is the same. -/
theorem performAll_token (same : Interchangeable table session other) (steps : List Step)
    (settled : session.token = other.token ∨
      ∃ download ∈ session.downloads steps, download.needsToken = true) :
    (session.performAll steps).token = (other.performAll steps).token := by
  induction steps generalizing session other with
  | nil =>
      rcases settled with equal | ⟨download, made, _⟩
      · exact equal
      · cases made
  | cons step steps inductionHypothesis =>
      have further := (perform_concurs same step).2
      rw [performAll, performAll]
      apply inductionHypothesis further
      rcases settled with equal | ⟨download, made, needed⟩
      · exact .inl (perform_token same step (.inl equal))
      · rw [downloads] at made
        rcases List.mem_append.mp made with now | later
        · exact .inl (perform_token same step (.inr ⟨download, Option.mem_toList.mp now, needed⟩))
        · exact .inr ⟨download, later, needed⟩

theorem performAll_served (served : ServedBy table session) (steps : List Step) :
    ServedBy table (session.performAll steps) := by
  rw [← run_snd]
  exact (runBy_concurs perform_concurs (.refl served) steps).2.left

end

theorem served_start (scriptType : String) (policy : Retry.Policy) (network : Http.Network)
    (table : Metadata.Table) (area : Staging.Area) :
    ServedBy table (start scriptType policy network (.canned table) area) :=
  ⟨⟨table.asked, rfl⟩, .inl rfl⟩

/-- Two runs give the same and have staged, sent and reported the same, and they have asked the
same questions except for the token. -/
structure LooksLike (left right : List Step.Result × Session) : Prop where
  results : left.1 = right.1
  area : left.2.area = right.2.area
  history : left.2.history = right.2.history
  log : left.2.log = right.2.log
  queries : otherQueries left.2.queries = otherQueries right.2.queries

theorem Concur.looksLike {table : Metadata.Table} {left right : List Step.Result × Session}
    (concur : Concur table left right) : LooksLike left right := by
  obtain ⟨results, same⟩ := concur
  refine ⟨results, ?_, ?_, ?_, same.queries⟩
  · rw [same.same]
  · rw [same.same]
  · rw [same.same]

/-- Keeping the token changes nothing but how often it is asked for.  If it is given up at any
point of a run over a table, what follows looks the same, and the token is the same again once a
download has needed it.  So does a run in which it is given up before every step, and in which
every download that needs it asks for it. -/
theorem token_cache_transparent (scriptType : String) (policy : Retry.Policy)
    (network : Http.Network) (table : Metadata.Table) (area : Staging.Area)
    (before after : List Step) :
    let reached := (start scriptType policy network (.canned table) area).performAll before
    (LooksLike (reached.forget.run after) (reached.run after) ∧
      ((∃ download ∈ reached.downloads after, download.needsToken = true) →
        (reached.forget.run after).2.token = (reached.run after).2.token)) ∧
    LooksLike (reached.runAnew after) (reached.run after) ∧
      ∀ step download,
        (reached.runAnew after).2.forget.download? step = some download →
        download.needsToken = true →
        tokenQueries ((reached.runAnew after).2.performAnew step).2.queries =
          tokenQueries (reached.runAnew after).2.queries ++ [download.entry.tokenQuery] := by
  intro reached
  have served : ServedBy table reached :=
    performAll_served (served_start scriptType policy network table area) before
  have same : Interchangeable table reached reached.forget := served.forget
  have anew {session other : Session} (alike : Interchangeable table session other) (step : Step) :
      Concur table (session.performAnew step) (other.perform step) :=
    perform_concurs (alike.left.forget.symm.trans alike) step
  refine ⟨⟨?_, ?_⟩, ?_, ?_⟩
  · exact (runBy_concurs perform_concurs same.symm after).looksLike
  · intro needed
    rw [run_snd, run_snd]
    exact (performAll_token same after (.inr needed)).symm
  · exact (runBy_concurs anew (.refl served) after).looksLike
  · intro step download made needed
    have treated := (reached.runAnew after).2.forget.perform_treatsToken step
    obtain ⟨other, unasked, asked⟩ := treated.asks
    have missing : download.entry.token = none := treated.entry download made
    have asks : download.query? = some download.entry.tokenQuery := by
      unfold Download.query?
      rw [if_pos ⟨needed, missing⟩]
    have listed := tokenQueries_query? download
    rw [asks, Option.toList_some] at listed
    unfold performAnew
    rw [asked.recorded, made, Option.bind_some, asks, Option.toList_some, tokenQueries_append,
      tokenQueries_append, unasked, List.nil_append, listed]
    rfl

end Session
end InstanceScripts
