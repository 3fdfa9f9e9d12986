import InstanceScripts.Proofs.Http.Confinement
import InstanceScripts.Proofs.Http.Direct
import InstanceScripts.Proofs.Session.Download

/-!
# How downloads fail

A plain download fails when no file can be reserved for it or when its whole budget is spent.  A
download with a token may also end with the first redirect that leads nowhere, with a body that
is no text, and with a body that cannot be saved.

A body that is written to a reserved file is always there; on a disk that may refuse to write,
the same downloads fail in no other ways.
-/

namespace InstanceScripts

open Http (Exchange History TokenAttempt Delivered)

/-! ## Disks -/

/-- How bodies are written to reserved files.  A body that is refused is a fault of the file
system. -/
structure Disk where
  write : Staging.Area → Nat → Octets → Except Failure Unit × Staging.Area
  refuses : ∀ {area file body failure}, (write area file body).1 = .error failure →
    ∃ fault, failure = .io fault

/-- The disk that refuses nothing but files that have not been reserved. -/
def Disk.reliable : Disk where
  write := Staging.Area.write
  refuses := by
    intro area file body failure refused
    unfold Staging.Area.write at refused
    split at refused
    · cases refused
    · cases refused
      exact ⟨_, rfl⟩

/-- The disk that refuses every body. -/
def Disk.full : Disk where
  write area _ _ := (.error (.io (.other "No space left on device (os error 28)")), area)
  refuses := by
    intro area file body failure refused
    cases refused
    exact ⟨_, rfl⟩

/-- Ask for a URL once, without credentials, and save the body on a disk. -/
def Http.fetchToFileOn (disk : Disk) (network : Network) (url : String) (file : Nat)
    (state : History × Staging.Area) : Except Failure Unit × History × Staging.Area :=
  let (history, area) := state
  match Draft.ofText url with
  | .error fault => (.error (.http fault), history, area)
  | .ok draft =>
      match send network true draft history with
      | (.error fault, history) => (.error (.http fault), history, area)
      | (.ok response, history) =>
          match bodyOf response with
          | .error failure => (.error failure, history, area)
          | .ok body =>
              let (written, area) := disk.write area file body
              (written, history, area)

namespace Session

/-- Download a URL without credentials into a new file on a disk. -/
def downloadPlainOn (disk : Disk) (session : Session) (url directory : String) :
    Except Failure Nat × Session :=
  match session.area.reserve directory with
  | (.error failure, area) => (.error failure, { session with area := area })
  | (.ok file, area) =>
      let line := "Downloading url from " ++ url ++ " to " ++ area.path file ++ "."
      let session := { session with area := area }.report [.info line]
      let run :=
        session.policy.run Failure.isTransient (Http.fetchToFileOn disk session.network url file)
          (session.history, session.area)
      let (history, area) := run.state
      let session := { session with history := history, area := area }
      match run.outcome with
      | .ok () => (.ok file, session)
      | .error failure =>
          let beginning :=
            if failure.isTransient then "Could not download" else "Exception downloading"
          (.error failure, session.reportFailure beginning url failure)

/-- Download a URL with a token into a file on a disk. -/
def downloadWithTokenOn (disk : Disk) (session : Session) (url token : String) (file : Nat) :
    Except Failure Nat × Session :=
  let run :=
    session.policy.run Failure.isTransient (Http.fetchWithToken session.network url token)
      session.history
  let session := { session with history := run.state }
  match run.outcome.bind requireText with
  | .error failure =>
      let kept := if failure.status? = some 401 then none else session.token
      (.error failure,
        { session with token := kept }.reportFailure "Could not download" url failure)
  | .ok body =>
      match disk.write session.area file body with
      | (.error failure, area) => (.error failure, { session with area := area })
      | (.ok (), area) => (.ok file, { session with area := area })

/-- Download a URL with the token into a new file on a disk; without a token, download it plainly
into another one. -/
def downloadAuthorizedOn (disk : Disk) (session : Session) (url directory : String) :
    Except Failure Nat × Session :=
  session.proceed url directory
    (fun session token file => session.downloadWithTokenOn disk url token file)
    (fun session => session.downloadPlainOn disk url directory)

theorem downloadPlainOn_reliable (session : Session) (url directory : String) :
    session.downloadPlainOn .reliable url directory = session.downloadPlain url directory := rfl

theorem downloadAuthorizedOn_reliable (session : Session) (url directory : String) :
    session.downloadAuthorizedOn .reliable url directory =
      session.downloadAuthorized url directory := rfl

end Session

/-! ## One attempt -/

theorem Failure.isTransient_iff {failure : Failure} :
    failure.isTransient = true ↔
      (∃ fault, failure = .http fault) ∨ ∃ fault, failure = .io fault := by
  cases failure <;> simp [isTransient]

/-- Only an HTTP fault or a disk ends an attempt without a token. -/
theorem Http.transient_of_fetchToFileOn {disk : Disk} {network : Network} {url : String}
    {file : Nat} {state : History × Staging.Area} {failure : Failure}
    (failed : (fetchToFileOn disk network url file state).1 = .error failure) :
    failure.isTransient = true := by
  obtain ⟨history, area⟩ := state
  simp only [fetchToFileOn] at failed
  split at failed
  · cases failed
    rfl
  · split at failed
    · cases failed
      rfl
    · split at failed
      · next refused =>
          cases failed
          obtain ⟨fault, rfl⟩ := http_of_bodyOf refused
          rfl
      · obtain ⟨fault, rfl⟩ := disk.refuses failed
        rfl

/-- The last of some exchanges was answered by a redirect that leads nowhere. -/
def Http.EndsAstray (sent : List Exchange) (fault : DataFault) : Prop :=
  ∃ earlier exchange response, sent = earlier ++ [exchange] ∧
    exchange.response? = some response ∧ redirectTarget response = .error fault

theorem Http.EndsAstray.append {sent : List Exchange} {fault : DataFault}
    (astray : EndsAstray sent fault) (front : List Exchange) :
    EndsAstray (front ++ sent) fault := by
  obtain ⟨earlier, exchange, response, rfl, rest⟩ := astray
  exact ⟨front ++ earlier, exchange, response, (List.append_assoc _ _ _).symm, rest⟩

/-- An attempt with a token fails because of an HTTP fault or of a redirect that leads
nowhere. -/
theorem Http.TokenAttempt.failure_cases {text token : String} {sent : List Exchange}
    {outcome : Except Failure Octets} {failure : Failure}
    (attempt : TokenAttempt text token sent outcome) (failed : outcome = .error failure) :
    (∃ fault, failure = .http fault) ∨
      ∃ fault, failure = .invalidData fault ∧ EndsAstray sent fault := by
  cases attempt with
  | unsent fault =>
      cases failed
      exact .inl ⟨fault, rfl⟩
  | broken _ _ fault =>
      cases failed
      exact .inl ⟨fault, rfl⟩
  | misdirected draft reply response fault drafted answer refused =>
      cases failed
      refine .inr ⟨fault, rfl, [], _, _, rfl, response?_of_draft answer, ?_⟩
      rw [← response_url answer, redirectTarget_at, refused]
  | answered => exact .inl (http_of_bodyOf failed)
  | redirected => exact .inl (http_of_bodyOfOutcome failed)

namespace Session

/-! ## Plain downloads -/

/-- The session after so many attempts of a plain download that has its file. -/
def afterPlain (disk : Disk) (session : Session) (url directory : String) (calls : Nat)
    (log : List Log.Line) : Session :=
  let (history, area) :=
    Retry.stateAfter (Http.fetchToFileOn disk session.network url session.area.files.length) calls
      (session.history, session.area.withFile directory [])
  { session with history := history, area := area, log := log }

/-- How a plain download fails.  Either no file can be reserved, and nothing is attempted; or so
many attempts fail as the budget allows, the failure is that of the last one, and it is one that
could be retried. -/
inductive PlainFailure (disk : Disk) (session : Session) (url directory : String) :
    Failure → Session → Prop
  | refused (fault : PathFault) (reason : IoFault)
      (refused : session.area.fault? directory = some fault) :
      PlainFailure disk session url directory (.io reason) session
  | spent (failure : Failure) (line : String)
      (granted : session.area.fault? directory = none)
      (transient : failure.isTransient = true)
      (calls : session.policy.MakesCalls Failure.isTransient
        (Http.fetchToFileOn disk session.network url session.area.files.length)
        (session.history, session.area.withFile directory [])
        (max session.policy.attempts.toNat 1) (.error failure)) :
      PlainFailure disk session url directory failure
        (session.afterPlain disk url directory (max session.policy.attempts.toNat 1)
          (session.log ++ [.info line,
            .warn ("Could not download " ++ url ++ ". " ++ failure.message ++ ".")]))

theorem PlainFailure.transient {disk : Disk} {session after : Session} {url directory : String}
    {failure : Failure} (course : PlainFailure disk session url directory failure after) :
    failure.isTransient = true := by
  cases course with
  | refused => rfl
  | spent _ _ _ transient => exact transient

theorem downloadPlainOn_failure (disk : Disk) {session after : Session} {url directory : String}
    {failure : Failure}
    (failed : session.downloadPlainOn disk url directory = (.error failure, after)) :
    PlainFailure disk session url directory failure after := by
  cases free : session.area.fault? directory with
  | some fault =>
      obtain ⟨reason, reserved⟩ := Staging.Area.reserve_refused free
      simp only [downloadPlainOn, reserved] at failed
      cases failed
      exact .refused fault reason free
  | none =>
      obtain ⟨calls, made, state_eq⟩ := session.policy.run_makesCalls Failure.isTransient
        (Http.fetchToFileOn disk session.network url session.area.files.length)
        (session.history, session.area.withFile directory [])
      rcases run_eq : session.policy.run Failure.isTransient
          (Http.fetchToFileOn disk session.network url session.area.files.length)
          (session.history, session.area.withFile directory []) with ⟨outcome, state, timeline⟩
      rw [run_eq] at made state_eq
      dsimp only at made state_eq
      simp only [downloadPlainOn, Staging.Area.reserve_granted free, report, run_eq] at failed
      cases outcome with
      | ok done => cases failed
      | error reason =>
          have transient : reason.isTransient = true :=
            Http.transient_of_fetchToFileOn made.last
          obtain rfl : calls = max session.policy.attempts.toNat 1 :=
            made.spent (Retry.canRetry_error_iff.mpr transient)
          simp only [if_pos transient, reportFailure, report, List.append_assoc, state_eq] at failed
          cases failed
          exact .spent failure _ free transient made

/-! ## Downloads with a token -/

/-- So many attempts are made with a token, and the last one ends like this. -/
def MakesTokenCalls (session : Session) (url token : String) (calls : Nat)
    (outcome : Except Failure Octets) (after : Session) : Prop :=
  session.policy.MakesCalls Failure.isTransient (Http.fetchWithToken session.network url token)
      session.provided.history calls outcome ∧
    after.history =
      Retry.stateAfter (Http.fetchWithToken session.network url token) calls
        session.provided.history

/-- How a download with a token fails.  Before any attempt, no file can be reserved.  Then either
the budget is spent and the last attempt has met an HTTP fault; or an attempt is answered by a
redirect that leads nowhere, and is the last one; or a whole body arrives that is no text, or that
cannot be saved.  Without a token, the plain download fails that is made instead. -/
inductive AuthorizedFailure (disk : Disk) (session : Session) (url directory : String) :
    Failure → Session → Prop
  | refused (fault : PathFault) (reason : IoFault)
      (refused : session.area.fault? directory = some fault) :
      AuthorizedFailure disk session url directory (.io reason) session
  | spent (token : String) (fault : HttpFault) (after : Session)
      (granted : session.area.fault? directory = none)
      (usable : session.tokenToUse? = some token)
      (made : session.MakesTokenCalls url token (max session.policy.attempts.toNat 1)
        (.error (.http fault)) after) :
      AuthorizedFailure disk session url directory (.http fault) after
  | astray (token : String) (calls : Nat) (fault : DataFault) (after : Session)
      (granted : session.area.fault? directory = none)
      (usable : session.tokenToUse? = some token)
      (made : session.MakesTokenCalls url token calls (.error (.invalidData fault)) after)
      (astray : Http.EndsAstray after.history fault) :
      AuthorizedFailure disk session url directory (.invalidData fault) after
  | notText (token : String) (calls : Nat) (body : Octets) (defect : Utf8.Defect) (after : Session)
      (granted : session.area.fault? directory = none)
      (usable : session.tokenToUse? = some token)
      (made : session.MakesTokenCalls url token calls (.ok body) after)
      (delivered : Delivered after.history body)
      (undecodable : Utf8.decode body = .error defect) :
      AuthorizedFailure disk session url directory (.notText defect) after
  | unsaved (token : String) (calls : Nat) (body : Octets) (text : String) (fault : IoFault)
      (after : Session) (granted : session.area.fault? directory = none)
      (usable : session.tokenToUse? = some token)
      (made : session.MakesTokenCalls url token calls (.ok body) after)
      (delivered : Delivered after.history body) (decoded : Utf8.decode body = .ok text)
      (unsaved : (disk.write (session.area.withFile directory []) session.area.files.length
        body).1 = .error (.io fault)) :
      AuthorizedFailure disk session url directory (.io fault) after
  | unequipped (log : List Log.Line) (failure : Failure) (after : Session)
      (granted : session.area.fault? directory = none)
      (unusable : session.tokenToUse? = none)
      (plain : PlainFailure disk (session.equipped directory log) url directory failure after) :
      AuthorizedFailure disk session url directory failure after

theorem downloadWithTokenOn_failure {disk : Disk} {session after : Session}
    {url directory token : String} {failure : Failure} (log : List Log.Line)
    (granted : session.area.fault? directory = none) (usable : session.tokenToUse? = some token)
    (failed : (session.equipped directory log).downloadWithTokenOn disk url token
      session.area.files.length = (.error failure, after)) :
    AuthorizedFailure disk session url directory failure after := by
  obtain ⟨calls, made, state_eq⟩ := session.policy.run_makesCalls Failure.isTransient
    (Http.fetchWithToken session.network url token) session.provided.history
  -- The last call adds one attempt to the exchanges of the calls before it.
  obtain ⟨sent, attempt, grown⟩ := Http.fetchWithToken_attempt session.network url token
    (Retry.stateAfter (Http.fetchWithToken session.network url token) (calls - 1)
      session.provided.history)
  rw [made.ends] at attempt grown
  dsimp only at attempt grown
  rcases run_eq : session.policy.run Failure.isTransient
      (Http.fetchWithToken session.network url token) session.provided.history with
    ⟨outcome, state, timeline⟩
  rw [run_eq] at made state_eq attempt
  dsimp only at made state_eq attempt
  simp only [equipped, downloadWithTokenOn, provided_policy, provided_network, run_eq] at failed
  cases outcome with
  | error reason =>
      simp only [Except.bind, reportFailure, report] at failed
      cases failed
      rcases attempt.failure_cases rfl with ⟨fault, rfl⟩ | ⟨fault, rfl, astray⟩
      · obtain rfl : calls = max session.policy.attempts.toNat 1 :=
          made.spent (Retry.canRetry_error_iff.mpr rfl)
        exact .spent token fault _ granted usable ⟨made, state_eq⟩
      · refine .astray token calls fault _ granted usable ⟨made, state_eq⟩ ?_
        dsimp only
        rw [state_eq, grown]
        exact astray.append _
  | ok body =>
      have delivered : Delivered state body := by
        rw [state_eq, grown]
        exact attempt.delivered.append _
      simp only [Except.bind, requireText] at failed
      cases decoded : Utf8.decode body with
      | error defect =>
          simp only [decoded, reportFailure, report] at failed
          cases failed
          exact .notText token calls body defect _ granted usable ⟨made, state_eq⟩ delivered decoded
      | ok text =>
          simp only [decoded] at failed
          rcases written : disk.write (session.area.withFile directory [])
            session.area.files.length body with ⟨saved, area⟩
          rw [written] at failed
          cases saved with
          | ok done => cases failed
          | error reason =>
              have unsaved := congrArg Prod.fst written
              obtain ⟨fault, rfl⟩ := disk.refuses unsaved
              cases failed
              exact .unsaved token calls body text fault _ granted usable ⟨made, state_eq⟩ delivered
                decoded unsaved

theorem downloadAuthorizedOn_failure {disk : Disk} {session after : Session}
    {url directory : String} {failure : Failure}
    (failed : session.downloadAuthorizedOn disk url directory = (.error failure, after)) :
    AuthorizedFailure disk session url directory failure after := by
  cases free : session.area.fault? directory with
  | some fault =>
      obtain ⟨reason, reserved⟩ := Staging.Area.reserve_refused free
      simp only [downloadAuthorizedOn, proceed, reserved] at failed
      cases failed
      exact .refused fault reason free
  | none =>
      obtain ⟨log, continued⟩ := proceed_granted url
        (fun session token file => session.downloadWithTokenOn disk url token file)
        (fun session => session.downloadPlainOn disk url directory) free
      rw [downloadAuthorizedOn, continued] at failed
      cases usable : session.tokenToUse? with
      | some token =>
          rw [usable] at failed
          exact downloadWithTokenOn_failure log free usable failed
      | none =>
          rw [usable] at failed
          exact .unequipped log failure after free usable (downloadPlainOn_failure disk failed)

/-! ## Both downloads -/

/-- A plain download fails with an HTTP fault or one of the file system, and, unless no file can
be reserved, when its budget is spent.  A download with a token fails in the same ways, with a
redirect that leads nowhere, with a body that is no text, or with a body that cannot be saved.  On
the reliable disk these are the downloads that a session makes. -/
theorem downloads_fail (disk : Disk) (session : Session) (url directory : String)
    (failure : Failure) (after : Session) :
    session.downloadPlain url directory = session.downloadPlainOn .reliable url directory ∧
    session.downloadAuthorized url directory =
      session.downloadAuthorizedOn .reliable url directory ∧
    (session.downloadPlainOn disk url directory = (.error failure, after) →
      ((∃ fault, failure = .http fault) ∨ ∃ fault, failure = .io fault) ∧
        PlainFailure disk session url directory failure after) ∧
    (session.downloadAuthorizedOn disk url directory = (.error failure, after) →
      ((∃ fault, failure = .http fault) ∨ (∃ fault, failure = .io fault) ∨
          (∃ fault, failure = .invalidData fault) ∨ ∃ defect, failure = .notText defect) ∧
        AuthorizedFailure disk session url directory failure after) := by
  refine ⟨(downloadPlainOn_reliable _ _ _).symm, (downloadAuthorizedOn_reliable _ _ _).symm, ?_, ?_⟩
  · intro failed
    have course := downloadPlainOn_failure disk failed
    exact ⟨Failure.isTransient_iff.mp course.transient, course⟩
  · intro failed
    have course := downloadAuthorizedOn_failure failed
    refine ⟨?_, course⟩
    cases course with
    | refused _ reason => exact .inr (.inl ⟨reason, rfl⟩)
    | spent _ fault => exact .inl ⟨fault, rfl⟩
    | astray _ _ fault => exact .inr (.inr (.inl ⟨fault, rfl⟩))
    | notText _ _ _ defect => exact .inr (.inr (.inr ⟨defect, rfl⟩))
    | unsaved _ _ _ _ fault => exact .inr (.inl ⟨fault, rfl⟩)
    | unequipped _ _ _ _ _ plain =>
        rcases Failure.isTransient_iff.mp plain.transient with http | io
        · exact .inl http
        · exact .inr (.inl io)

/-! ## Before the budget is spent -/

/-- A session with a token that is allowed three attempts; every server answers it, but nothing is
found where it is to put files called `missing`. -/
def answered : Session :=
  { start "startup" .standard (fun _ _ => .answer 200 [] [0x78] false) (.canned .empty)
      { Staging.Area.tallied with
        faults :=
          ⟨fun _ directory => if directory = "missing" then some .notFound else none,
            fun directory => directory != "missing"⟩ } with
    token := some "Bearer t" }

/-- A session with the same budget that reaches no server. -/
def unanswered : Session :=
  start "startup" .standard Http.unreachableNetwork (.canned .empty) .tallied

/-- On a full disk the attempt of the first session is in vain. -/
theorem answered_unsaved :
    ∃ fault after, answered.downloadAuthorizedOn .full "http://h/a" "d" =
      (.error (.io fault), after) ∧ after.history.length = 1 := by
  have failed : (answered.downloadAuthorizedOn .full "http://h/a" "d").1 =
      .error (.io (.other "No space left on device (os error 28)")) := by decide +kernel
  have once : (answered.downloadAuthorizedOn .full "http://h/a" "d").2.history.length = 1 := by
    decide +kernel
  generalize answered.downloadAuthorizedOn .full "http://h/a" "d" = ended at failed once
  obtain ⟨outcome, after⟩ := ended
  cases failed
  exact ⟨_, after, rfl, once⟩

theorem downloads_fail_unanswered :
    (∃ after, PlainFailure .reliable unanswered "http://h/a" "d"
      (.http (.unanswered "http://h/a")) after) ∧
    ∃ fault after, AuthorizedFailure .full answered "http://h/a" "d" (.io fault) after := by
  have failed : (unanswered.downloadPlainOn .reliable "http://h/a" "d").1 =
      .error (.http (.unanswered "http://h/a")) := by decide +kernel
  rcases plain : unanswered.downloadPlainOn .reliable "http://h/a" "d" with ⟨outcome, after⟩
  rw [plain] at failed
  cases failed
  obtain ⟨fault, ending, authorized, _⟩ := answered_unsaved
  constructor
  · exact ⟨after, ((downloads_fail _ _ _ _ _ _).2.2.1 plain).2⟩
  · exact ⟨fault, ending, ((downloads_fail _ _ _ _ _ _).2.2.2 authorized).2⟩

/-- A download with a token fails with a fault of the file system without making an attempt if no
file can be reserved, and after the first of three attempts if the body cannot be saved. -/
theorem attempts_left :
    answered.policy.budget = 3 ∧
      (∃ fault, answered.downloadAuthorized "http://h/a" "missing" =
        (.error (.io fault), answered)) ∧
      ∃ fault after, answered.downloadAuthorizedOn .full "http://h/a" "d" =
        (.error (.io fault), after) ∧ after.history.length = 1 := by
  have refused : answered.area.fault? "missing" = some .notFound := rfl
  obtain ⟨reason, reserved⟩ := Staging.Area.reserve_refused refused
  refine ⟨rfl, ⟨reason, ?_⟩, answered_unsaved⟩
  simp only [downloadAuthorized, reserved]

end Session
end InstanceScripts
