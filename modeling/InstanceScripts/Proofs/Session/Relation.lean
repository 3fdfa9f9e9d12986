import InstanceScripts.Session.Download

/-!
# Downloads side by side

Sessions may be related in many ways: one may have reported other things than the other, been
told other metadata, or lost its token.  If a relation is kept by the parts of which downloads
consist, it is kept by downloads, and they give the same in related sessions.
-/

namespace InstanceScripts
namespace Session

/-! ## The attempts of a download -/

/-- Ask for a URL without credentials, as often as it takes, and save the body in a file. -/
def attemptPlainly (session : Session) (url : String) (file : Nat) :
    Except Failure Unit × Session :=
  let run :=
    session.policy.run Failure.isTransient (Http.fetchToFile session.network url file)
      (session.history, session.area)
  (run.outcome, { session with history := run.state.1, area := run.state.2 })

/-- Ask for a URL with a token, as often as it takes. -/
def attemptWithToken (session : Session) (url token : String) :
    Except Failure Octets × Session :=
  let run :=
    session.policy.run Failure.isTransient (Http.fetchWithToken session.network url token)
      session.history
  (run.outcome, { session with history := run.state })

/-! ## Relations that downloads keep -/

/-- Two operations give the same, and leave related sessions behind. -/
def GiveRelated {α : Type} (related : Session → Session → Prop) (result other : α × Session) :
    Prop :=
  result.1 = other.1 ∧ related result.2 other.2

/-- A relation between sessions that the parts of downloads keep. -/
structure Lockstep (related : Session → Session → Prop) : Prop where
  area : ∀ {session other}, related session other → session.area = other.area
  report : ∀ {session other}, related session other → ∀ lines,
    related (session.report lines) (other.report lines)
  withArea : ∀ {session other}, related session other → ∀ area,
    related { session with area := area } { other with area := area }
  withoutToken : ∀ {session other}, related session other →
    related { session with token := none } { other with token := none }
  obtained : ∀ {session other}, related session other →
    GiveRelated related session.obtainToken other.obtainToken
  attempted : ∀ {session other}, related session other → ∀ url file,
    GiveRelated related (session.attemptPlainly url file) (other.attemptPlainly url file)
  presented : ∀ {session other}, related session other → ∀ url token,
    GiveRelated related (session.attemptWithToken url token) (other.attemptWithToken url token)

namespace Lockstep

variable {related : Session → Session → Prop} {session other : Session}

theorem downloadPlain (lockstep : Lockstep related) (same : related session other)
    (url directory : String) :
    GiveRelated related (session.downloadPlain url directory)
      (other.downloadPlain url directory) := by
  unfold Session.downloadPlain
  rw [lockstep.area same]
  rcases other.area.reserve directory with ⟨failure | file, area⟩
  · exact ⟨rfl, lockstep.withArea same area⟩
  · dsimp only
    generalize Log.Line.info _ = line
    have attempted :=
      lockstep.attempted (lockstep.report (lockstep.withArea same area) [line]) url file
    revert attempted
    unfold attemptPlainly
    dsimp only
    generalize Retry.Policy.run _ _ _ _ = run
    generalize Retry.Policy.run _ _ _ _ = another
    obtain ⟨outcome, ⟨history, written⟩, timeline⟩ := run
    obtain ⟨otherOutcome, ⟨otherHistory, otherWritten⟩, otherTimeline⟩ := another
    rintro ⟨outcomes, further⟩
    obtain rfl : outcome = otherOutcome := outcomes
    cases outcome with
    | ok done => exact ⟨rfl, further⟩
    | error failure => exact ⟨rfl, lockstep.report further _⟩

theorem downloadWithToken (lockstep : Lockstep related) (same : related session other)
    (url token : String) (file : Nat) :
    GiveRelated related (session.downloadWithToken url token file)
      (other.downloadWithToken url token file) := by
  have presented := lockstep.presented same url token
  revert presented
  unfold Session.downloadWithToken attemptWithToken
  dsimp only
  generalize Retry.Policy.run _ _ _ _ = run
  generalize Retry.Policy.run _ _ _ _ = another
  obtain ⟨outcome, history, timeline⟩ := run
  obtain ⟨otherOutcome, otherHistory, otherTimeline⟩ := another
  rintro ⟨outcomes, further⟩
  obtain rfl : outcome = otherOutcome := outcomes
  dsimp only at further ⊢
  cases outcome.bind requireText with
  | error failure =>
      dsimp only
      split
      · exact ⟨rfl, lockstep.report (lockstep.withoutToken further) _⟩
      · exact ⟨rfl, lockstep.report further _⟩
  | ok body =>
      dsimp only
      rw [lockstep.area same]
      rcases other.area.write file body with ⟨failure | done, area⟩
      · exact ⟨rfl, lockstep.withArea further area⟩
      · exact ⟨rfl, lockstep.withArea further area⟩

theorem downloadAuthorized (lockstep : Lockstep related) (same : related session other)
    (url directory : String) :
    GiveRelated related (session.downloadAuthorized url directory)
      (other.downloadAuthorized url directory) := by
  unfold Session.downloadAuthorized
  rw [lockstep.area same]
  rcases other.area.reserve directory with ⟨failure | file, area⟩
  · exact ⟨rfl, lockstep.withArea same area⟩
  · dsimp only
    generalize Log.Line.info _ = line
    have obtained := lockstep.obtained (lockstep.report (lockstep.withArea same area) [line])
    revert obtained
    rcases Session.obtainToken _ with ⟨token, after⟩
    rcases Session.obtainToken _ with ⟨otherToken, otherAfter⟩
    rintro ⟨tokens, further⟩
    obtain rfl : token = otherToken := tokens
    cases token with
    | some token => exact lockstep.downloadWithToken further url token file
    | none => exact lockstep.downloadPlain (lockstep.report further _) url directory

theorem downloadScript (lockstep : Lockstep related) (same : related session other)
    (url directory : String) :
    GiveRelated related (session.downloadScript url directory)
      (other.downloadScript url directory) := by
  unfold Session.downloadScript
  cases Script.Origin.classify url with
  | storage target => exact lockstep.downloadAuthorized same target directory
  | plain target => exact lockstep.downloadPlain same target directory

end Lockstep

end Session
end InstanceScripts
