import InstanceScripts.Proofs.Session.Step

/-!
# The life of a token

A session asks for a token only when a download needs one and there is none, and keeps it
until a server rejects it.  So between two questions for a token, the first one brought none
or a download that used it was rejected.
-/

namespace InstanceScripts

open Http (Exchange Tokenless)

namespace Session

/-! ## The question for a token -/

/-- The question for a token, with the answer that the source would give now. -/
def tokenQuery (session : Session) : Metadata.Query :=
  ⟨some Token.metadataKey, false, false, session.tokenAnswer⟩

theorem provided_asks_of_none {session : Session} (missing : session.token = none) :
    session.Asks [session.tokenQuery] session.provided := by
  obtain ⟨recorded, source⟩ := session.lookUp_asks (some Token.metadataKey) false false
  unfold provided
  rw [missing]
  exact ⟨recorded, source⟩

theorem provided_asks_of_some {session : Session} {token : String}
    (held : session.token = some token) : session.Asks [] session.provided := by
  unfold provided
  rw [held]
  exact .none rfl rfl

end Session

/-! ## One download -/

/-- Whether an outcome is an error with the status that rejects a token. -/
def Failure.isRejection (outcome : Except Failure Nat) : Bool :=
  match outcome with
  | .error failure => failure.status? == some 401
  | .ok _ => false

namespace Download

/-- Whether a download uses a token and gets a file for it. -/
def needsToken (download : Download) : Bool :=
  download.authorized && (download.entry.area.fault? download.directory).isNone

/-- The token that a download uses. -/
def token? (download : Download) : Option String :=
  if download.needsToken then download.entry.tokenToUse? else none

/-- The question for a token that a download asks: none unless it needs a token that the
session does not have. -/
def query? (download : Download) : Option Metadata.Query :=
  if download.needsToken ∧ download.entry.token = none then some download.entry.tokenQuery
  else none

/-- Whether a download has been told that its token is not accepted. -/
def rejected (download : Download) : Bool :=
  Failure.isRejection download.outcome

/-- The token that a download leaves behind: the one that it has used unless that has been
rejected, and if it needs none the one that was there. -/
def tokenLeft? (download : Download) : Option String :=
  if download.needsToken then if download.rejected then none else download.entry.tokenToUse?
  else download.entry.token

end Download

namespace Session

/-- A download without a token asks for none, leaves the one that there is, and sends plain
requests only. -/
theorem PlainCourse.token
    {session after : Session} {url directory : String} {outcome : Except Failure Nat}
    (course : PlainCourse session url directory outcome after) :
    after.token = session.token ∧ session.Asks [] after ∧
      ∃ sent, after.history = session.history ++ sent ∧
        ∀ exchange ∈ sent, exchange.request.IsPlain := by
  have framed := course.frame
  exact ⟨by rw [framed], .none (by rw [framed]) (by rw [framed]), course.plain⟩

/-- A download with a token asks for one if there is none, gives it up if it is rejected, and
sends no other token. -/
theorem AuthorizedCourse.token
    {session after : Session} {url directory : String} {outcome : Except Failure Nat}
    (course : AuthorizedCourse session url directory outcome after)
    (granted : session.area.fault? directory = none) :
    after.token = (if Failure.isRejection outcome then none else session.tokenToUse?) ∧
      session.provided.Asks [] after ∧
      ∃ sent, after.history = session.provided.history ++ sent ∧
        ∀ exchange ∈ sent,
          (∃ token, session.tokenToUse? = some token ∧ exchange.request.flavored = true ∧
            exchange.request.tokens = [token]) ∨ exchange.request.IsPlain := by
  cases course with
  | refused fault reason refused =>
      rw [granted] at refused
      cases refused
  | failed token sent log result failure _ usable retried =>
      exact ⟨by simp [usable, Failure.isRejection], .none rfl rfl, sent, rfl,
        retried.forall_mem fun _ _ attempt _ inside =>
          (attempt.tokens inside).imp_left fun presented => ⟨token, usable, presented⟩⟩
  | done token sent log body _ usable retried =>
      exact ⟨by simp [Failure.isRejection], .none rfl rfl, sent, rfl,
        retried.forall_mem fun _ _ attempt _ inside =>
          (attempt.tokens inside).imp_left fun presented => ⟨token, usable, presented⟩⟩
  | unequipped log _ _ _ unusable course =>
      obtain ⟨token_eq, asks, sent, history_eq, plain⟩ := course.token
      refine ⟨?_, ⟨asks.recorded, asks.source⟩, sent, history_eq,
        fun exchange member => .inr (plain exchange member)⟩
      rw [token_eq]
      simp [equipped, unusable]

end Session

namespace Download

theorem query?_of_idle {download : Download} (idle : download.needsToken = false) :
    download.query? = none := by
  simp [query?, idle]

/-- A download that needs a token asks the question that the session has to ask for one. -/
theorem provided_asks {download : Download} (needs : download.needsToken = true) :
    download.entry.Asks download.query?.toList download.entry.provided := by
  cases held : download.entry.token with
  | none =>
      rw [query?, if_pos ⟨needs, held⟩]
      exact Session.provided_asks_of_none held
  | some token =>
      rw [query?, if_neg (by simp [held])]
      exact Session.provided_asks_of_some held

/-- What a download asks for, which token it leaves behind, and which of its requests present
a token. -/
theorem token_exit (download : Download) :
    download.entry.Asks download.query?.toList download.exit ∧
      download.exit.token = download.tokenLeft? ∧
      ∃ asked sent, download.exit.history = download.entry.history ++ (asked ++ sent) ∧
        Tokenless asked ∧
        ∀ exchange ∈ sent,
          (∃ token, download.token? = some token ∧ exchange.request.flavored = true ∧
            exchange.request.tokens = [token]) ∨ exchange.request.IsPlain := by
  unfold tokenLeft? token? rejected
  rcases download.course with ⟨authorized, course⟩ | ⟨unauthorized, course⟩
  · cases free : download.entry.area.fault? download.directory with
    | some fault =>
        have idle : download.needsToken = false := by simp [needsToken, free]
        have unchanged : download.exit = download.entry := (Download.refused free).2
        rw [unchanged, query?_of_idle idle]
        simp only [idle]
        exact ⟨.none rfl rfl, by simp, [], [], by simp, by simp [Tokenless], by simp⟩
    | none =>
        have needs : download.needsToken = true := by simp [needsToken, authorized, free]
        obtain ⟨token_eq, asks, sent, history_eq, presented⟩ := course.token free
        obtain ⟨asked, asking, tokenless⟩ := download.entry.provided_history
        refine ⟨?_, by simpa [needs] using token_eq, asked, sent, ?_, tokenless, ?_⟩
        · simpa using (provided_asks needs).trans asks
        · rw [history_eq, asking, List.append_assoc]
        · simpa [needs] using presented
  · have idle : download.needsToken = false := by simp [needsToken, unauthorized]
    obtain ⟨token_eq, asks, sent, history_eq, plain⟩ := course.token
    rw [query?_of_idle idle]
    simp only [idle]
    exact ⟨asks, by simp [token_eq], [], sent, history_eq, by simp [Tokenless],
      fun exchange member => .inr (plain exchange member)⟩

/-- A download begins with the token that the one before it has left. -/
def Follows (first second : Download) : Prop :=
  second.entry.token = first.tokenLeft?

end Download

/-! ## One step -/

namespace Session

/-- Questions for a token among all questions. -/
def tokenQueries (queries : List Metadata.Query) : List Metadata.Query :=
  queries.filter fun query => query.key = some Token.metadataKey

@[simp] theorem tokenQueries_append (front back : List Metadata.Query) :
    tokenQueries (front ++ back) = tokenQueries front ++ tokenQueries back :=
  List.filter_append front back

@[simp] theorem tokenQueries_query? (download : Download) :
    tokenQueries download.query?.toList = download.query?.toList := by
  unfold Download.query?
  split <;> rfl

theorem withInline_frame (session : Session) (attributes : Option Script.Attributes)
    (directory : String) :
    (session.withInline attributes directory).token = session.token ∧
      session.Asks [] (session.withInline attributes directory) ∧
      (session.withInline attributes directory).history = session.history := by
  unfold withInline
  split <;> exact ⟨rfl, .none rfl rfl, rfl⟩

/-- What a step does before its download has no part in the token. -/
theorem prepared_frame (session : Session) (step : Step) :
    (session.prepared step).token = session.token ∧
      (∃ other, session.Asks other (session.prepared step) ∧ tokenQueries other = []) ∧
      ∃ sent, (session.prepared step).history = session.history ++ sent ∧ Tokenless sent := by
  have unchanged {after : Session} (token_eq : after.token = session.token)
      (asks : session.Asks [] after) (history_eq : after.history = session.history) :
      after.token = session.token ∧
        (∃ other, session.Asks other after ∧ tokenQueries other = []) ∧
        ∃ sent, after.history = session.history ++ sent ∧ Tokenless sent :=
    ⟨token_eq, ⟨[], asks, rfl⟩, [], by simp [history_eq], by simp [Tokenless]⟩
  cases step with
  | scripts directory =>
      obtain ⟨token_eq, asks, history_eq⟩ := session.opened.withInline_frame
        (Script.effective session.tree session.scriptType) directory
      obtain ⟨sent, asked, tokenless⟩ := session.lookUp_history none true true
      exact ⟨token_eq, ⟨_, (session.lookUp_asks none true true).trans asks, rfl⟩, sent,
        history_eq.trans asked, tokenless⟩
  | attributeScripts attributes directory =>
      obtain ⟨token_eq, asks, history_eq⟩ := session.withInline_frame attributes directory
      exact unchanged token_eq asks history_eq
  | downloadScript => exact unchanged rfl (.none rfl rfl) rfl
  | downloadAuthorized => exact unchanged rfl (.none rfl rfl) rfl
  | downloadPlain => exact unchanged rfl (.none rfl rfl) rfl

/-- How a step treats the token.  It asks for one at most once, and only for a download that
needs one and finds none; the requests of that download present the token that it uses and
no other one; and the token that is left is the one that the download leaves. -/
structure TreatsToken (session : Session) (step : Step) (after : Session) : Prop where
  asks : ∃ other, tokenQueries other = [] ∧
    session.Asks (other ++ ((session.download? step).bind Download.query?).toList) after
  token : after.token =
    match session.download? step with
    | some download => download.tokenLeft?
    | none => session.token
  entry : ∀ download, session.download? step = some download →
    download.entry.token = session.token
  requests : ∃ asked sent, after.history = session.history ++ (asked ++ sent) ∧
    Tokenless asked ∧
    ∀ exchange ∈ sent,
      (∃ token, (session.download? step).bind Download.token? = some token ∧
        exchange.request.flavored = true ∧ exchange.request.tokens = [token]) ∨
      exchange.request.IsPlain

theorem perform_treatsToken (session : Session) (step : Step) :
    session.TreatsToken step (session.perform step).2 := by
  obtain ⟨token_eq, ⟨other, asks, unasked⟩, sent, history_eq, tokenless⟩ :=
    session.prepared_frame step
  have ending := session.perform_resembles step
  unfold settled at ending
  rw [ending]
  cases made : session.download? step with
  | none =>
      exact
        { asks := ⟨other, unasked, by simpa [made] using asks.reported _⟩
          token := by simpa [made] using token_eq
          entry := by simp [made]
          requests := ⟨sent, [], by simpa using history_eq, tokenless, by simp⟩ }
  | some download =>
      have entry := (perform_download made).1
      obtain ⟨exit_asks, exit_token, asked, later, exit_history, bare, presented⟩ :=
        download.token_exit
      rw [entry] at exit_asks exit_history
      refine
        { asks := ⟨other, unasked, ?_⟩
          token := by simpa [made] using exit_token
          entry := ?_
          requests := ⟨sent ++ asked, later, ?_, tokenless.append bare, ?_⟩ }
      · simpa [made] using (asks.trans exit_asks).reported _
      · intro chosen same
        rw [made] at same
        cases same
        rw [entry, token_eq]
      · simpa [history_eq] using exit_history
      · simpa [made] using presented

/-! ## Runs -/

/-- The questions for a token in a run are those of its downloads. -/
theorem performAll_asks (session : Session) (steps : List Step) :
    ∃ asked, session.Asks asked (session.performAll steps) ∧
      tokenQueries asked = (session.downloads steps).filterMap Download.query? := by
  induction steps generalizing session with
  | nil => exact ⟨[], .none rfl rfl, rfl⟩
  | cons step steps inductionHypothesis =>
      obtain ⟨other, unasked, asks⟩ := (session.perform_treatsToken step).asks
      obtain ⟨later, further, listed⟩ := inductionHypothesis (session.perform step).2
      refine ⟨_, asks.trans further, ?_⟩
      rw [downloads, List.filterMap_append, tokenQueries_append, tokenQueries_append, unasked,
        List.nil_append, listed]
      cases session.download? step with
      | none => rfl
      | some download =>
          rw [Option.bind_some, tokenQueries_query?, Option.toList_some]
          cases asked : download.query? <;> simp [asked]

/-- The key of the question for a token is its name. -/
theorem count_metadataKey (queries : List Metadata.Query) :
    (queries.map Metadata.Query.name).count Token.metadataKey = (tokenQueries queries).length := by
  rw [List.count, List.countP_map, tokenQueries, ← List.countP_eq_length_filter]
  refine List.countP_congr fun query _ => ?_
  cases named : query.key with
  | none => simp [Metadata.Query.name, named, Token.metadataKey]
  | some key => simp [Metadata.Query.name, named]

/-- A table is asked for a token in a run as often as the downloads ask for one. -/
theorem performAll_requestCount {session : Session} {table : Metadata.Table}
    (canned : session.source = .canned table) (steps : List Step) :
    ∃ later, (session.performAll steps).source = .canned later ∧
      later.requestCount Token.metadataKey =
        table.requestCount Token.metadataKey +
          ((session.downloads steps).filterMap Download.query?).length := by
  obtain ⟨asked, asks, listed⟩ := session.performAll_asks steps
  obtain ⟨later, source, counts⟩ := asks.requestCount canned
  exact ⟨later, source, by rw [counts, count_metadataKey, listed]⟩

/-- No token gets lost or changed between the downloads of a run. -/
theorem downloads_follow (session : Session) (steps : List Step) :
    (∀ first, (session.downloads steps).head? = some first → first.entry.token = session.token) ∧
      (session.downloads steps).IsChain Download.Follows := by
  induction steps generalizing session with
  | nil => simp [downloads]
  | cons step steps inductionHypothesis =>
      obtain ⟨heads, chain⟩ := inductionHypothesis (session.perform step).2
      have treated := session.perform_treatsToken step
      have left := treated.token
      rw [downloads]
      cases made : session.download? step with
      | none =>
          rw [made] at left
          refine ⟨?_, by simpa using chain⟩
          intro first begins
          rw [heads first (by simpa using begins), left]
      | some download =>
          rw [made] at left
          refine ⟨?_, ?_⟩
          · intro first begins
            obtain rfl : download = first := by simpa using begins
            exact treated.entry download made
          · refine chain.cons fun next begins => ?_
            rw [Download.Follows, heads next begins, left]

end Session

namespace Download

/-- A token stays until a download that uses it is rejected. -/
theorem token_stays
    {token : String} {first last : Download} {between : List Download}
    (chain : (first :: (between ++ [last])).IsChain Follows)
    (left : first.tokenLeft? = some token) :
    last.entry.token = some token ∨
      ∃ download ∈ between, download.token? = some token ∧ download.rejected = true := by
  induction between generalizing first with
  | nil =>
      rw [List.nil_append, List.isChain_cons_cons] at chain
      exact .inl (chain.1.trans left)
  | cons next between inductionHypothesis =>
      rw [List.cons_append, List.isChain_cons_cons] at chain
      have held : next.entry.token = some token := chain.1.trans left
      have toUse : next.entry.tokenToUse? = some token := by simp [Session.tokenToUse?, held]
      by_cases given_up : next.needsToken = true ∧ next.rejected = true
      · exact .inr ⟨next, List.mem_cons_self, by simp [token?, given_up.1, toUse], given_up.2⟩
      · have kept : next.tokenLeft? = some token := by
          unfold tokenLeft?
          split
          · next needs =>
              rw [if_neg fun rejected => given_up ⟨needs, rejected⟩]
              exact toUse
          · exact held
        rcases inductionHypothesis chain.2 kept with stayed | ⟨download, member, rejected⟩
        · exact .inl stayed
        · exact .inr ⟨download, List.mem_cons_of_mem next member, rejected⟩

/-- Between two questions for a token, the first one brings none, or a download that uses the
token it brings is rejected. -/
theorem question_again
    {first last : Download} {between : List Download} {query : Metadata.Query}
    (chain : (first :: (between ++ [last])).IsChain Follows)
    (asked : first.query? = some query) (again : last.query?.isSome = true) :
    Token.ofAnswer? query.answer = none ∨
      ∃ token, Token.ofAnswer? query.answer = some token ∧
        ∃ download ∈ first :: between,
          download.token? = some token ∧ download.rejected = true := by
  unfold query? at asked again
  split at asked
  · next needed =>
      cases asked
      cases brought : Token.ofAnswer? first.entry.tokenAnswer with
      | none => exact .inl brought
      | some token =>
          have toUse : first.entry.tokenToUse? = some token := by
            simp [Session.tokenToUse?, needed.2, brought]
          refine .inr ⟨token, brought, ?_⟩
          by_cases rejected : first.rejected = true
          · exact ⟨first, List.mem_cons_self, by simp [token?, needed.1, toUse], rejected⟩
          · have left : first.tokenLeft? = some token := by
              simp [tokenLeft?, needed.1, rejected, toUse]
            rcases token_stays chain left with stayed | ⟨download, member, given_up⟩
            · simp [stayed] at again
            · exact ⟨download, List.mem_cons_of_mem first member, given_up⟩
  · cases asked

end Download

namespace Session

/-- In every session that is reached, the next step treats the token as it should.  All
questions for a token in a run are asked by its downloads, and one is only asked again if the
one before has brought no token, or if a download that used it has been rejected. -/
theorem token_life_cycle (start : Session) (steps : List Step) :
    (∀ step, (start.performAll steps).TreatsToken step
      ((start.performAll steps).perform step).2) ∧
      (∃ asked, start.Asks asked (start.performAll steps) ∧
        tokenQueries asked = (start.downloads steps).filterMap Download.query?) ∧
      ∀ before first between last behind query,
        start.downloads steps = before ++ first :: (between ++ last :: behind) →
        first.query? = some query → last.query?.isSome = true →
        Token.ofAnswer? query.answer = none ∨
          ∃ token, Token.ofAnswer? query.answer = some token ∧
            ∃ download ∈ first :: between,
              download.token? = some token ∧ download.rejected = true := by
  refine ⟨perform_treatsToken _, start.performAll_asks steps, ?_⟩
  intro before first between last behind query made asked again
  have chain := (start.downloads_follow steps).2
  have part : (first :: (between ++ [last])).IsChain Download.Follows := by
    rw [made, show first :: (between ++ last :: behind) =
      first :: (between ++ [last]) ++ behind by simp] at chain
    exact chain.right_of_append.left_of_append
  exact Download.question_again part asked again

end Session
end InstanceScripts
