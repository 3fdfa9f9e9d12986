import InstanceScripts.Proofs.Session.Step

/-!
# What steps do to files

Steps only ever add files.  A download that fails leaves the files that it has reserved empty,
and one that succeeds fills exactly one of them, with the whole body of the last answer.
-/

namespace InstanceScripts

open Http (Exchange PlainAttempt TokenAttempt lastBody?)

namespace Session

/-! ## Growth -/

theorem PlainCourse.extends
    {session after : Session} {url directory : String} {outcome : Except Failure Nat}
    (course : PlainCourse session url directory outcome after) :
    session.area.Extends after.area := by
  cases course with
  | refused => exact .refl
  | failed => exact Staging.Area.Extends.refl.withFile directory []
  | done sent log body => exact Staging.Area.Extends.refl.withFile directory body

theorem AuthorizedCourse.extends
    {session after : Session} {url directory : String} {outcome : Except Failure Nat}
    (course : AuthorizedCourse session url directory outcome after) :
    session.area.Extends after.area := by
  cases course with
  | refused => exact .refl
  | failed => exact Staging.Area.Extends.refl.withFile directory []
  | done token sent log body => exact Staging.Area.Extends.refl.withFile directory body
  | unequipped log _ _ granted unusable plain =>
      exact (Staging.Area.Extends.refl.withFile directory []).trans plain.extends

theorem withInline_extends (session : Session) (attributes : Option Script.Attributes)
    (directory : String) : session.area.Extends (session.withInline attributes directory).area := by
  unfold withInline
  split
  · next script declared => exact session.area.stage_extends directory script
  · exact .refl

theorem prepared_extends (session : Session) (step : Step) :
    session.area.Extends (session.prepared step).area := by
  cases step with
  | scripts directory => exact session.opened.withInline_extends _ directory
  | attributeScripts attributes directory => exact session.withInline_extends attributes directory
  | downloadScript => exact .refl
  | downloadAuthorized => exact .refl
  | downloadPlain => exact .refl

end Session

namespace Download

theorem extends_exit (download : Download) :
    download.entry.area.Extends download.exit.area := by
  rcases download.course with ⟨_, course⟩ | ⟨_, course⟩
  · exact course.extends
  · exact course.extends

/-- A download that is to present a token and has got a file, but has no token, so that it goes
on as a plain one. -/
structure FallsBack (download : Download) : Prop where
  authorized : download.authorized = true
  granted : download.entry.area.fault? download.directory = none
  unusable : download.entry.tokenToUse? = none

/-- If the file of the plain download is refused, nothing has been done but to ask for the
token and to reserve the first file. -/
theorem refused_again {download : Download} {fault : PathFault} (fallsBack : download.FallsBack)
    (refused : (download.entry.area.withFile download.directory []).fault? download.directory =
      some fault) :
    (∃ failure, download.outcome = .error failure) ∧
      download.exit.Resembles (download.entry.equipped download.directory []) := by
  have unusable := fallsBack.unusable
  rcases download.course with ⟨_, course⟩ | ⟨unauthorized, _⟩
  · generalize download.exit = after at course ⊢
    generalize download.outcome = outcome at course ⊢
    cases course with
    | refused fault reason refused =>
        rw [fallsBack.granted] at refused
        cases refused
    | failed token _ _ _ _ _ usable =>
        rw [unusable] at usable
        cases usable
    | done token _ _ _ _ usable =>
        rw [unusable] at usable
        cases usable
    | unequipped log _ _ _ _ plain =>
        have ungranted : ¬(download.entry.equipped download.directory log).area.fault?
            download.directory = none := by simp [Session.equipped, refused]
        cases plain with
        | refused => exact ⟨⟨_, rfl⟩, rfl⟩
        | failed _ _ _ granted => exact absurd granted ungranted
        | done _ _ _ granted => exact absurd granted ungranted
  · rw [fallsBack.authorized] at unauthorized
    cases unauthorized

/-! ## What a download leaves in its files -/

/-- The files that a download has reserved are empty. -/
def LeavesEmpty (download : Download) : Prop :=
  ∃ new, download.exit.area.files = download.entry.area.files ++ new ∧
    ∀ file ∈ new, file.body = []

/-- A download has filled one of the files that it has reserved, with the whole body of the
last answer that it has received; the others are empty. -/
def Delivers (download : Download) (file : Nat) : Prop :=
  ∃ before reserved behind sent,
    download.exit.area.files = download.entry.area.files ++ (before ++ reserved :: behind) ∧
    file = download.entry.area.files.length + before.length ∧
    (∀ other ∈ before ++ behind, other.body = []) ∧
    download.exit.history = download.entry.history ++ sent ∧
    lastBody? sent = some reserved.body

end Download

namespace Session

theorem PlainCourse.empty_of_error
    {session after : Session} {url directory : String} {outcome : Except Failure Nat}
    {failure : Failure} (course : PlainCourse session url directory outcome after)
    (failed : outcome = .error failure) :
    ∃ new, after.area.files = session.area.files ++ new ∧ ∀ file ∈ new, file.body = [] := by
  cases course with
  | refused => exact ⟨[], by simp, by simp⟩
  | failed => exact ⟨[session.area.nextFile directory []], rfl, by simp⟩
  | done => cases failed

theorem AuthorizedCourse.empty_of_error
    {session after : Session} {url directory : String} {outcome : Except Failure Nat}
    {failure : Failure} (course : AuthorizedCourse session url directory outcome after)
    (failed : outcome = .error failure) :
    ∃ new, after.area.files = session.area.files ++ new ∧ ∀ file ∈ new, file.body = [] := by
  cases course with
  | refused => exact ⟨[], by simp, by simp⟩
  | failed => exact ⟨[session.area.nextFile directory []], rfl, by simp⟩
  | done => cases failed
  | unequipped log _ _ granted unusable plain =>
      obtain ⟨new, grown, empty⟩ := plain.empty_of_error failed
      refine ⟨session.area.nextFile directory [] :: new, ?_, by simpa using empty⟩
      rw [grown]
      simp [equipped]

/-- The file of a plain download that succeeds is the next one. -/
theorem PlainCourse.file_of_ok
    {session after : Session} {url directory : String} {outcome : Except Failure Nat}
    {file : Nat} (course : PlainCourse session url directory outcome after)
    (succeeded : outcome = .ok file) :
    ∃ body sent, file = session.area.files.length ∧
      after.area = session.area.withFile directory body ∧
      after.history = session.history ++ sent ∧ lastBody? sent = some body := by
  cases course with
  | refused => cases succeeded
  | failed => cases succeeded
  | done sent log body granted retried =>
      cases succeeded
      exact ⟨body, sent, rfl, rfl, rfl, retried.body fun _ attempt => attempt.body rfl⟩

end Session

namespace Download

theorem leavesEmpty {download : Download} {failure : Failure}
    (failed : download.outcome = .error failure) : download.LeavesEmpty := by
  rcases download.course with ⟨_, course⟩ | ⟨_, course⟩
  · exact course.empty_of_error failed
  · exact course.empty_of_error failed

theorem delivers {download : Download} {file : Nat}
    (succeeded : download.outcome = .ok file) : download.Delivers file := by
  unfold Delivers
  rcases download.course with ⟨_, course⟩ | ⟨_, course⟩
  · generalize download.exit = after at course ⊢
    generalize download.outcome = outcome at course succeeded
    obtain ⟨asked, asking, _⟩ := download.entry.provided_history
    cases course with
    | refused => cases succeeded
    | failed => cases succeeded
    | done token sent log body granted usable retried =>
        cases succeeded
        refine ⟨[], download.entry.area.nextFile download.directory body, [], asked ++ sent, rfl,
          rfl, by simp, ?_, ?_⟩
        · rw [asking, List.append_assoc]
        · exact Http.lastBody?_append (retried.body fun _ attempt => attempt.body rfl) asked
    | unequipped log _ _ granted unusable plain =>
        obtain ⟨body, sent, rfl, area_eq, history_eq, whole⟩ := plain.file_of_ok succeeded
        refine ⟨[download.entry.area.nextFile download.directory []],
          (download.entry.area.withFile download.directory []).nextFile download.directory body,
          [], asked ++ sent, ?_, ?_, by simp, ?_, Http.lastBody?_append whole asked⟩
        · rw [area_eq]
          simp [Session.equipped]
        · simp [Session.equipped]
        · rw [history_eq]
          simp [Session.equipped, asking]
  · obtain ⟨body, sent, rfl, area_eq, history_eq, whole⟩ := course.file_of_ok succeeded
    refine ⟨[], download.entry.area.nextFile download.directory body, [], sent, ?_, by simp,
      by simp, history_eq, whole⟩
    rw [area_eq]
    rfl

end Download

namespace Session

/-! ## What a step leaves in its files -/

theorem settled_extends (session : Session) (step : Step) :
    (session.prepared step).area.Extends (session.settled step).area := by
  unfold settled
  cases made : session.download? step with
  | none => exact .refl
  | some download =>
      rw [← (perform_download made).1]
      exact download.extends_exit

/-- A step only adds files. -/
theorem perform_extends (session : Session) (step : Step) :
    session.area.Extends (session.perform step).2.area := by
  rw [session.perform_resembles step]
  exact (session.prepared_extends step).trans (session.settled_extends step)

/-- Any number of steps only adds files. -/
theorem performAll_extends (session : Session) (steps : List Step) :
    session.area.Extends (session.performAll steps).area := by
  induction steps generalizing session with
  | nil => exact .refl
  | cons step steps inductionHypothesis =>
      exact (session.perform_extends step).trans (inductionHypothesis _)

/-- A script at hand that has an entry with a file is in that file before anything is
downloaded. -/
theorem inline_held
    (session : Session) {attributes : Option Script.Attributes} {directory script : String}
    {file : Nat}
    (declared : Script.declaredIn attributes .inline session.scriptType = some script)
    (listed : (session.entries attributes directory).lookup
      (Script.Kind.inline.metadataKey session.scriptType) = some (some file)) :
    file = session.area.files.length ∧
      (session.withInline attributes directory).area.HoldsTrimmed file script := by
  rw [lookup_inline, declared] at listed
  unfold withInline
  rw [declared]
  exact Staging.Area.stage_ok (toOption_eq_some.mp (Option.some.inj listed))

theorem perform_inline
    {session : Session} {step : Step} {found : ScriptMap} {script : String} {file : Nat}
    (declared : session.inline? step = some script)
    (result : (session.perform step).1 = .scripts found)
    (listed : found.lookup (Script.Kind.inline.metadataKey session.scriptType) =
      some (some file)) :
    file = session.area.files.length ∧ (session.perform step).2.area.HoldsTrimmed file script := by
  have later := session.settled_extends step
  rw [session.perform_resembles step]
  cases step with
  | scripts directory =>
      have entries := (session.scripts_agrees directory).1
      obtain rfl : (session.scripts directory).1 = found := Step.Result.scripts.inj result
      rw [entries] at listed
      obtain ⟨next, held⟩ := session.opened.inline_held declared listed
      exact ⟨next, held.of_extends later⟩
  | attributeScripts attributes directory =>
      have entries := (attributeScripts_agrees (Resembles.refl session) attributes directory).1
      obtain rfl : (session.attributeScripts attributes directory).1 = found :=
        Step.Result.scripts.inj result
      rw [entries] at listed
      obtain ⟨next, held⟩ := session.inline_held declared listed
      exact ⟨next, held.of_extends later⟩
  | downloadScript => cases result
  | downloadAuthorized => cases result
  | downloadPlain => cases result

/-- However a session that gets fresh names for its files goes on, a further step leaves
every file alone that is there before, and all paths stay different.  A download in it leaves
its files empty when it fails, delivers the last body that it has received when it succeeds,
does nothing at all when its first file is refused, and nothing more than to ask for a token
when only its second one is.  A script at hand is staged without the blanks in front of it. -/
theorem staging_invariant
    (start : Session) (fresh : start.area.FreshNames) (steps : List Step) (step : Step) :
    let session := start.performAll steps
    let after := (session.perform step).2
    (∃ new, after.area.files = session.area.files ++ new) ∧
      (after.area.files.map (·.path)).Nodup ∧
      (∀ download, session.download? step = some download →
        (session.perform step).1.Tells session.scriptType download.outcome ∧
        download.entry = session.prepared step ∧ after.Resembles download.exit ∧
        (∀ failure, download.outcome = .error failure → download.LeavesEmpty) ∧
        (∀ file, download.outcome = .ok file → download.Delivers file) ∧
        (∀ fault, download.entry.area.fault? download.directory = some fault →
          (∃ failure, download.outcome = .error failure) ∧ download.exit = download.entry) ∧
        ∀ fault, download.FallsBack →
          (download.entry.area.withFile download.directory []).fault? download.directory =
            some fault →
          (∃ failure, download.outcome = .error failure) ∧
            download.exit.Resembles (download.entry.equipped download.directory [])) ∧
      ∀ script found file, session.inline? step = some script →
        (session.perform step).1 = .scripts found →
        found.lookup (Script.Kind.inline.metadataKey session.scriptType) = some (some file) →
        file = session.area.files.length ∧ after.area.HoldsTrimmed file script := by
  intro session after
  have grown : session.area.Extends after.area := session.perform_extends step
  have earlier : start.area.Extends session.area := start.performAll_extends steps
  refine ⟨grown.files, (fresh.of_extends (earlier.trans grown)).apart, ?_, ?_⟩
  · intro download made
    obtain ⟨entry, told, same⟩ := perform_download made
    exact ⟨told, entry, same, fun _ => Download.leavesEmpty, fun _ => Download.delivers,
      fun _ => Download.refused, fun _ => Download.refused_again⟩
  · intro script found file declared result listed
    exact perform_inline declared result listed

/-- A session that has done nothing, in an area that refuses nothing. -/
def talliedSession : Session :=
  .start "startup" .single Http.unreachableNetwork (.canned .empty) .tallied

/-- The same session with a server that gives a body of one octet for every URL. -/
def answeredSession : Session :=
  { talliedSession with network := fun _ _ => .answer 200 [] [0x78] false }

/-- Attributes with a script that begins with a blank. -/
def blankAttributes : Script.Attributes :=
  [("startup-script", .str " x")]

/-- The same script is staged twice, in files of its own.  A download from where no server can be
reached then leaves its file empty.  One that is to present a token and finds none delivers into
its second file. -/
theorem staged_twice :
    let step := Step.attributeScripts (some blankAttributes) "d"
    let session := talliedSession.performAll [step]
    let after := (session.perform step).2
    let failing : Download := ⟨session, false, "http://h/a", "d"⟩
    let fallingBack : Download := ⟨answeredSession, true, "http://h/a", "d"⟩
    after.area.HoldsTrimmed 1 " x" ∧ (after.area.files.map (·.path)).Nodup ∧
      failing.LeavesEmpty ∧ fallingBack.Delivers 1 := by
  intro step session after failing fallingBack
  obtain ⟨_, apart, _, staged⟩ :=
    talliedSession.staging_invariant Staging.Area.tallied_fresh [step] step
  obtain ⟨_, _, fails, _⟩ :=
    talliedSession.staging_invariant Staging.Area.tallied_fresh [step]
      (.downloadPlain "http://h/a" "d")
  obtain ⟨_, _, delivers, _⟩ :=
    answeredSession.staging_invariant Staging.Area.tallied_fresh []
      (.downloadAuthorized "http://h/a" "d")
  have lost : failing.outcome.toOption = none := by decide +kernel
  have brought : fallingBack.outcome.toOption = some 1 := by decide +kernel
  obtain ⟨failure, failed⟩ := toOption_eq_none.mp lost
  obtain ⟨_, _, _, empty, _⟩ := fails failing rfl
  obtain ⟨_, _, _, _, filled, _⟩ := delivers fallingBack rfl
  exact ⟨(staged " x" [("startup-script", some 1)] 1 rfl rfl rfl).2, apart,
    empty failure failed, filled 1 (toOption_eq_some.mp brought)⟩

end Session
end InstanceScripts
