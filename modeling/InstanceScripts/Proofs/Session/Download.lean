import InstanceScripts.Proofs.Metadata.Query
import InstanceScripts.Session.Download

/-!
# What a download does to a session

Each kind of download has one lemma for every way in which it can end.  Together they
name all that a download adds to a session: the file that it reserves and what that holds,
the exchanges, the question for a token, and the token that it leaves behind.
-/

namespace InstanceScripts

open Http (Exchange PlainAttempt TokenAttempt Retried)

/-- The token that an answer to the question for one holds. -/
def Token.ofAnswer? (answer : Except Failure (Option Json)) : Option String :=
  match answer with
  | .ok (some json) => (Token.compose json).1
  | _ => none

namespace Session

/-! ## The token -/

/-- The answer that the metadata source would give now to the question for a token. -/
def tokenAnswer (session : Session) : Except Failure (Option Json) :=
  session.answer (some Token.metadataKey) false false

/-- The token that a download with a token would use now. -/
def tokenToUse? (session : Session) : Option String :=
  match session.token with
  | some token => some token
  | none => Token.ofAnswer? session.tokenAnswer

/-- The session once it has the token that it would use: it asks for one unless it has one
already. -/
def provided (session : Session) : Session :=
  match session.token with
  | some _ => session
  | none =>
      { (session.lookUp (some Token.metadataKey) false false).2 with
        token := Token.ofAnswer? session.tokenAnswer }

@[simp] theorem provided_area (session : Session) : session.provided.area = session.area := by
  unfold provided
  split <;> rfl

@[simp] theorem provided_token (session : Session) :
    session.provided.token = session.tokenToUse? := by
  unfold provided tokenToUse?
  cases held : session.token <;> simp [held]

@[simp] theorem provided_policy (session : Session) :
    session.provided.policy = session.policy := by
  unfold provided
  split <;> rfl

@[simp] theorem provided_network (session : Session) :
    session.provided.network = session.network := by
  unfold provided
  split <;> rfl

/-- Whatever has to be asked for a token only adds to the history. -/
theorem provided_history (session : Session) :
    ∃ asked, session.provided.history = session.history ++ asked ∧ Http.Tokenless asked := by
  unfold provided
  cases session.token with
  | some token => exact ⟨[], by simp, by simp [Http.Tokenless]⟩
  | none => exact session.lookUp_history _ _ _

theorem fetchToken_eq (session : Session) :
    ∃ lines, session.fetchToken =
      (Token.ofAnswer? session.tokenAnswer,
        (session.lookUp (some Token.metadataKey) false false).2.report lines) := by
  unfold fetchToken tokenAnswer
  rw [← lookUp_fst]
  rcases session.lookUp (some Token.metadataKey) false false with ⟨answer, asked⟩
  cases answer with
  | error failure => exact ⟨_, rfl⟩
  | ok found =>
      cases found with
      | none => exact ⟨[], by simp [Token.ofAnswer?]⟩
      | some json => exact ⟨(Token.compose json).2, rfl⟩

theorem obtainToken_eq (session : Session) :
    ∃ lines, session.obtainToken = (session.tokenToUse?, session.provided.report lines) := by
  unfold obtainToken tokenToUse? provided
  cases held : session.token with
  | some token => exact ⟨[], by simp⟩
  | none =>
      obtain ⟨lines, fetched⟩ := session.fetchToken_eq
      exact ⟨lines, by simp only [fetched]; rfl⟩

/-- Reserving a file and reporting it has no part in the token. -/
theorem tokenToUse?_of_reserved (session : Session) (area : Staging.Area)
    (log : List Log.Line) :
    ({ session with area := area, log := log } : Session).tokenToUse? = session.tokenToUse? := by
  rfl

theorem provided_of_reserved (session : Session) (area : Staging.Area)
    (log : List Log.Line) :
    ({ session with area := area, log := log } : Session).provided =
      { session.provided with area := area, log := log } := by
  obtain ⟨scriptType, policy, network, source, token, queries, history, _, _⟩ := session
  cases token <;> rfl

/-! ## Downloads without a token -/

/-- How a download without a token can go: what comes of it, and the session that it leaves
behind. -/
inductive PlainCourse (session : Session) (url directory : String) :
    Except Failure Nat → Session → Prop
  | refused (fault : PathFault) (reason : IoFault)
      (refused : session.area.fault? directory = some fault) :
      PlainCourse session url directory (.error (.io reason)) session
  | failed (sent : List Exchange) (log : List Log.Line) (failure : Failure)
      (granted : session.area.fault? directory = none)
      (retried : Retried (PlainAttempt url) session.policy.budget sent (.error failure)) :
      PlainCourse session url directory (.error failure)
        { session with
          area := session.area.withFile directory []
          history := session.history ++ sent
          log := log }
  | done (sent : List Exchange) (log : List Log.Line) (body : Octets)
      (granted : session.area.fault? directory = none)
      (retried : Retried (PlainAttempt url) session.policy.budget sent (.ok body)) :
      PlainCourse session url directory (.ok session.area.files.length)
        { session with
          area := session.area.withFile directory body
          history := session.history ++ sent
          log := log }

/-- A plain download changes nothing but the files, the history and the reports. -/
theorem PlainCourse.frame {session after : Session} {url directory : String}
    {outcome : Except Failure Nat} (course : PlainCourse session url directory outcome after) :
    after =
      { session with area := after.area, history := after.history, log := after.log } := by
  cases course <;> rfl

/-- The requests of a plain download are plain. -/
theorem PlainCourse.plain {session after : Session} {url directory : String}
    {outcome : Except Failure Nat} (course : PlainCourse session url directory outcome after) :
    ∃ sent, after.history = session.history ++ sent ∧
      ∀ exchange ∈ sent, exchange.request.IsPlain := by
  cases course with
  | refused => exact ⟨[], by simp, by simp⟩
  | failed sent _ _ _ retried =>
      exact ⟨sent, rfl, retried.forall_mem fun _ _ attempt _ member => attempt.plain member⟩
  | done sent _ _ _ retried =>
      exact ⟨sent, rfl, retried.forall_mem fun _ _ attempt _ member => attempt.plain member⟩

/-- A download without a token reserves a file and makes retried attempts, and its file
holds the body that comes of them, or nothing. -/
theorem downloadPlain_course (session : Session) (url directory : String) :
    PlainCourse session url directory (session.downloadPlain url directory).1
      (session.downloadPlain url directory).2 := by
  cases free : session.area.fault? directory with
  | some fault =>
      obtain ⟨reason, reserved⟩ := Staging.Area.reserve_refused free
      have ended : session.downloadPlain url directory = (.error (.io reason), session) := by
        simp [downloadPlain, reserved]
      rw [ended]
      exact .refused fault reason free
  | none =>
      obtain ⟨sent, ⟨failure, retried, outcome_eq, state_eq⟩ | ⟨body, retried, outcome_eq, state_eq⟩⟩ :=
        Http.run_fetchToFile session.policy session.network url directory session.history
          session.area
      · have course := PlainCourse.failed sent (session.downloadPlain url directory).2.log failure
          free retried
        simpa only [downloadPlain, Staging.Area.reserve_granted free, report, outcome_eq, state_eq,
          reportFailure] using course
      · have course := PlainCourse.done sent (session.downloadPlain url directory).2.log body free
          retried
        simpa only [downloadPlain, Staging.Area.reserve_granted free, report, outcome_eq, state_eq]
          using course

/-! ## Downloads with a token -/

theorem requireText_ok {body text : Octets} (accepted : requireText body = .ok text) :
    text = body := by
  unfold requireText at accepted
  split at accepted <;> cases accepted
  rfl

/-- The session once a download with a token has its file and the token that it would use. -/
def equipped (session : Session) (directory : String) (log : List Log.Line) : Session :=
  { session.provided with area := session.area.withFile directory [], log := log }

/-- How a download with a token can go. -/
inductive AuthorizedCourse (session : Session) (url directory : String) :
    Except Failure Nat → Session → Prop
  | refused (fault : PathFault) (reason : IoFault)
      (refused : session.area.fault? directory = some fault) :
      AuthorizedCourse session url directory (.error (.io reason)) session
  | failed (token : String) (sent : List Exchange) (log : List Log.Line)
      (outcome : Except Failure Octets) (failure : Failure)
      (granted : session.area.fault? directory = none)
      (usable : session.tokenToUse? = some token)
      (retried : Retried (TokenAttempt url token) session.policy.budget sent outcome)
      (failed : outcome.bind requireText = .error failure) :
      AuthorizedCourse session url directory (.error failure)
        { session.provided with
          token := if failure.status? = some 401 then none else some token
          area := session.area.withFile directory []
          history := session.provided.history ++ sent
          log := log }
  | done (token : String) (sent : List Exchange) (log : List Log.Line) (body : Octets)
      (granted : session.area.fault? directory = none)
      (usable : session.tokenToUse? = some token)
      (retried : Retried (TokenAttempt url token) session.policy.budget sent (.ok body))
      (text : requireText body = .ok body) :
      AuthorizedCourse session url directory (.ok session.area.files.length)
        { session.provided with
          area := session.area.withFile directory body
          history := session.provided.history ++ sent
          log := log }
  | unequipped (log : List Log.Line) (outcome : Except Failure Nat) (after : Session)
      (granted : session.area.fault? directory = none)
      (unusable : session.tokenToUse? = none)
      (plain : PlainCourse (session.equipped directory log) url directory outcome after) :
      AuthorizedCourse session url directory outcome after

/-- With a file reserved, retried attempts are made with the token.  The file gets the body
that comes of them if that is text; otherwise the download fails, and a token that has been
rejected is given up. -/
theorem downloadWithToken_course
    {session : Session} {directory token : String} (url : String) (log : List Log.Line)
    (granted : session.area.fault? directory = none)
    (usable : session.tokenToUse? = some token) :
    let ended := (session.equipped directory log).downloadWithToken url token
      session.area.files.length
    AuthorizedCourse session url directory ended.1 ended.2 := by
  have held : session.provided.token = some token := by rw [provided_token, usable]
  obtain ⟨sent, retried, state_eq⟩ :=
    Http.run_fetchWithToken session.policy session.network url token session.provided.history
  rcases run_eq :
      session.policy.run Failure.isTransient (Http.fetchWithToken session.network url token)
        session.provided.history with ⟨outcome, state, timeline⟩
  rw [run_eq] at retried state_eq
  obtain rfl : state = session.provided.history ++ sent := state_eq
  cases checked : outcome.bind requireText with
  | error failure =>
      have course := AuthorizedCourse.failed token sent
        ((session.equipped directory log).downloadWithToken url token
          session.area.files.length).2.log outcome failure granted usable retried checked
      simpa only [equipped, downloadWithToken, provided_policy, provided_network, run_eq, checked,
        reportFailure, report, held] using course
  | ok text =>
      cases outcome with
      | error failure => cases checked
      | ok body =>
          obtain rfl : text = body := requireText_ok checked
          have course := AuthorizedCourse.done token sent log text granted usable retried checked
          simpa only [equipped, downloadWithToken, provided_policy, provided_network, run_eq,
            checked, Staging.Area.write_withFile] using course

/-- A download into a new file, given how it goes on with a token and without one. -/
def proceed (session : Session) (url directory : String)
    (withToken : Session → String → Nat → Except Failure Nat × Session)
    (without : Session → Except Failure Nat × Session) : Except Failure Nat × Session :=
  match session.area.reserve directory with
  | (.error failure, area) => (.error failure, { session with area := area })
  | (.ok file, area) =>
      let line :=
        "Downloading url from " ++ url ++ " to " ++ area.path file ++
          " using authentication token."
      let session := { session with area := area }.report [.info line]
      match session.obtainToken with
      | (some token, session) => withToken session token file
      | (none, session) =>
          let line :=
            "Authentication token not found. Attempting unauthenticated download."
          without (session.report [.info line])

theorem downloadAuthorized_eq_proceed (session : Session) (url directory : String) :
    session.downloadAuthorized url directory =
      session.proceed url directory
        (fun session token file => session.downloadWithToken url token file)
        (fun session => session.downloadPlain url directory) := rfl

/-- A download that has its file goes on with the token that it would use, or without one. -/
theorem proceed_granted
    {session : Session} {directory : String} (url : String)
    (withToken : Session → String → Nat → Except Failure Nat × Session)
    (without : Session → Except Failure Nat × Session)
    (granted : session.area.fault? directory = none) :
    ∃ log,
      session.proceed url directory withToken without =
        match session.tokenToUse? with
        | some token => withToken (session.equipped directory log) token session.area.files.length
        | none => without (session.equipped directory log) := by
  have opened (log : List Log.Line) : ∃ lines,
      ({ session with area := session.area.withFile directory [], log := log } : Session).obtainToken =
        (session.tokenToUse?, session.equipped directory (log ++ lines)) := by
    obtain ⟨lines, obtained⟩ :=
      ({ session with area := session.area.withFile directory [], log := log } : Session).obtainToken_eq
    refine ⟨lines, ?_⟩
    rw [obtained, tokenToUse?_of_reserved, provided_of_reserved]
    rfl
  unfold proceed
  simp only [Staging.Area.reserve_granted granted, report]
  generalize session.log ++ _ = log
  obtain ⟨lines, obtained⟩ := opened log
  rw [obtained]
  cases session.tokenToUse? with
  | some token => exact ⟨log ++ lines, rfl⟩
  | none => exact ⟨_, rfl⟩

theorem downloadAuthorized_granted
    {session : Session} {directory : String} (url : String)
    (granted : session.area.fault? directory = none) :
    ∃ log,
      session.downloadAuthorized url directory =
        match session.tokenToUse? with
        | some token =>
            (session.equipped directory log).downloadWithToken url token session.area.files.length
        | none => (session.equipped directory log).downloadPlain url directory := by
  rw [downloadAuthorized_eq_proceed]
  exact proceed_granted url _ _ granted

/-- A download with a token reserves a file, and goes on with the token that it would use if
there is one; without it, the download is a plain one into another file. -/
theorem downloadAuthorized_course (session : Session) (url directory : String) :
    AuthorizedCourse session url directory (session.downloadAuthorized url directory).1
      (session.downloadAuthorized url directory).2 := by
  cases free : session.area.fault? directory with
  | some fault =>
      obtain ⟨reason, reserved⟩ := Staging.Area.reserve_refused free
      have ended : session.downloadAuthorized url directory = (.error (.io reason), session) := by
        simp [downloadAuthorized, reserved]
      rw [ended]
      exact .refused fault reason free
  | none =>
      obtain ⟨log, continued⟩ := downloadAuthorized_granted url free
      cases usable : session.tokenToUse? with
      | some token =>
          simp only [usable] at continued
          rw [continued]
          exact downloadWithToken_course url log free usable
      | none =>
          simp only [usable] at continued
          rw [continued]
          exact .unequipped log _ _ free usable (downloadPlain_course _ url directory)

end Session

/-! ## Any download -/

/-- A download, the session in which it begins, and whether it uses a token. -/
structure Download where
  entry : Session
  authorized : Bool
  url : String
  directory : String

namespace Download

/-- Carry a download out. -/
def run (download : Download) : Except Failure Nat × Session :=
  if download.authorized then
    download.entry.downloadAuthorized download.url download.directory
  else download.entry.downloadPlain download.url download.directory

/-- What comes of a download. -/
def outcome (download : Download) : Except Failure Nat :=
  download.run.1

/-- The session that a download leaves behind. -/
def exit (download : Download) : Session :=
  download.run.2

/-- A download goes in one of the ways known, with a token if it uses one. -/
theorem course (download : Download) :
    (download.authorized = true ∧
        Session.AuthorizedCourse download.entry download.url download.directory download.outcome
          download.exit) ∨
      (download.authorized = false ∧
        Session.PlainCourse download.entry download.url download.directory download.outcome
          download.exit) := by
  unfold outcome exit run
  cases download.authorized with
  | true => exact .inl ⟨rfl, Session.downloadAuthorized_course _ _ _⟩
  | false => exact .inr ⟨rfl, Session.downloadPlain_course _ _ _⟩

/-- A download whose first file cannot be reserved fails and does nothing else. -/
theorem refused {download : Download} {fault : PathFault}
    (refused : download.entry.area.fault? download.directory = some fault) :
    (∃ failure, download.outcome = .error failure) ∧ download.exit = download.entry := by
  have ungranted : ¬download.entry.area.fault? download.directory = none := by simp [refused]
  rcases download.course with ⟨_, course⟩ | ⟨_, course⟩
  · generalize download.exit = after at course ⊢
    generalize download.outcome = outcome at course ⊢
    cases course with
    | refused => exact ⟨⟨_, rfl⟩, rfl⟩
    | failed _ _ _ _ _ granted => exact absurd granted ungranted
    | done _ _ _ _ granted => exact absurd granted ungranted
    | unequipped _ _ _ granted => exact absurd granted ungranted
  · generalize download.exit = after at course ⊢
    generalize download.outcome = outcome at course ⊢
    cases course with
    | refused => exact ⟨⟨_, rfl⟩, rfl⟩
    | failed _ _ _ granted => exact absurd granted ungranted
    | done _ _ _ granted => exact absurd granted ungranted

end Download
end InstanceScripts
