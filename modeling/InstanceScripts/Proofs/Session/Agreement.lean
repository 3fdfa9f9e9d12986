import InstanceScripts.Proofs.Http.Direct
import InstanceScripts.Proofs.Retry.Exact
import InstanceScripts.Proofs.Session.Delivery

/-!
# Downloads with and without a token

A download that presents a token and one that does not are written separately: one saves the
body in the attempt that brings it, the other when all attempts are made and the body has turned
out to be text.  Where nothing redirects, this is all that tells them apart.
-/

namespace InstanceScripts
namespace Session

open Http (AskAlike NeverRedirects)

/-- What a plain download with a file leaves behind is what its attempts do. -/
theorem downloadPlain_granted
    {session : Session} {directory : String} (url : String)
    (granted : session.area.fault? directory = none) :
    let ended := session.downloadPlain url directory
    let run := session.policy.run Failure.isTransient
      (Http.fetchToFile session.network url session.area.files.length)
      (session.history, session.area.withFile directory [])
    ended.1 = run.outcome.map (fun _ => session.area.files.length) ∧
      ended.2.history = run.state.1 ∧ ended.2.area = run.state.2 := by
  intro ended run
  cases outcome : run.outcome with
  | error failure =>
      simp only [ended, downloadPlain, Staging.Area.reserve_granted granted, report]
      rw [outcome]
      exact ⟨rfl, rfl, rfl⟩
  | ok done =>
      simp only [ended, downloadPlain, Staging.Area.reserve_granted granted, report]
      rw [outcome]
      exact ⟨rfl, rfl, rfl⟩

/-- What a download with a file and a token leaves behind is what its attempts do; the file gets
the body that they bring, if that is text. -/
theorem downloadAuthorized_held
    {session : Session} {directory token : String} (url : String)
    (granted : session.area.fault? directory = none) (held : session.token = some token) :
    let ended := session.downloadAuthorized url directory
    let run := session.policy.run Failure.isTransient
      (Http.fetchWithToken session.network url token) session.history
    let checked := run.outcome.bind requireText
    ended.1 = checked.map (fun _ => session.area.files.length) ∧
      ended.2.history = run.state ∧
      ended.2.area = session.area.withFile directory (checked.toOption.getD []) := by
  intro ended run checked
  obtain ⟨log, continued⟩ := downloadAuthorized_granted url granted
  have usable : session.tokenToUse? = some token := by
    unfold tokenToUse?
    rw [held]
  have same : session.provided = session := by
    unfold provided
    rw [held]
  rw [usable] at continued
  simp only [ended, continued, downloadWithToken, equipped, same]
  cases accepted : checked with
  | error failure =>
      simp only [checked, run] at accepted
      simp only [accepted]
      exact ⟨rfl, rfl, rfl⟩
  | ok body =>
      simp only [checked, run] at accepted
      simp only [accepted, Staging.Area.write_withFile]
      exact ⟨rfl, rfl, rfl⟩

theorem requireText_of_ok {body : Octets} {text : String}
    (decoded : Utf8.decode body = .ok text) :
    (Except.ok body : Except Failure Octets).bind requireText = .ok body := by
  change requireText body = _
  rw [requireText, decoded]

theorem requireText_of_error {body : Octets} {defect : Utf8.Defect}
    (decoded : Utf8.decode body = .error defect) :
    (Except.ok body : Except Failure Octets).bind requireText = .error (.notText defect) := by
  change requireText body = _
  rw [requireText, decoded]

/-- A plain download that has its file fails with an HTTP fault or not at all. -/
theorem PlainCourse.http_of_error
    {session after : Session} {url directory : String} {outcome : Except Failure Nat}
    {failure : Failure} (course : PlainCourse session url directory outcome after)
    (granted : session.area.fault? directory = none) (failed : outcome = .error failure) :
    ∃ fault, failure = .http fault := by
  cases course with
  | refused fault reason refused =>
      rw [granted] at refused
      cases refused
  | failed sent log reason _ retried =>
      cases failed
      generalize outcome_eq : (Except.error failure : Except Failure Octets) = outcome at retried
      obtain ⟨_, _, _, _, _, ends, _⟩ := retried
      exact ends.http_of_error outcome_eq.symm
  | done => cases failed

/-- Where nothing redirects, a download that has a token and one that does without send requests
for the same URL, as many of them and with the same replies.  Both fail with the same HTTP fault,
or both save the same body; only a body that is not text is refused by the one with the token,
which then leaves its file empty. -/
theorem downloads_agree
    (authorized plain : Session) (url directory elsewhere token : String)
    (policy : authorized.policy = plain.policy) (network : authorized.network = plain.network)
    (counts : ∀ asked, authorized.history.count asked = plain.history.count asked)
    (held : authorized.token = some token)
    (legal : token.toList.all Http.Draft.isHeaderChar = true)
    (granted : authorized.area.fault? directory = none)
    (alsoGranted : plain.area.fault? elsewhere = none)
    (direct : NeverRedirects plain.network url) :
    let ended := authorized.downloadAuthorized url directory
    let other := plain.downloadPlain url elsewhere
    let file := authorized.area.files.length
    let otherFile := plain.area.files.length
    (∃ sent received,
      ended.2.history = authorized.history ++ sent ∧
      other.2.history = plain.history ++ received ∧
      List.Forall₂ (AskAlike url) sent received) ∧
    ((∃ fault,
        ended.1 = .error (.http fault) ∧ other.1 = .error (.http fault) ∧
        ended.2.area.body? file = some [] ∧ other.2.area.body? otherFile = some []) ∨
      ∃ body, other.1 = .ok otherFile ∧ other.2.area.body? otherFile = some body ∧
        ((∃ text, Utf8.decode body = .ok text ∧
            ended.1 = .ok file ∧ ended.2.area.body? file = some body) ∨
          ∃ defect, Utf8.decode body = .error defect ∧
            ended.1 = .error (.notText defect) ∧ ended.2.area.body? file = some [])) := by
  intro ended other file otherFile
  obtain ⟨result, history, area⟩ := downloadAuthorized_held url granted held
  obtain ⟨otherResult, otherHistory, otherArea⟩ := downloadPlain_granted url alsoGranted
  have alike :=
    Http.run_fetch_endsAlike plain.policy plain.area elsewhere legal direct counts
  rw [policy, network] at result history area
  revert result history area otherResult otherHistory otherArea
  dsimp only at alike
  revert alike
  generalize plain.policy.run Failure.isTransient
    (Http.fetchWithToken plain.network url token) authorized.history = run
  generalize plain.policy.run Failure.isTransient
    (Http.fetchToFile plain.network url plain.area.files.length)
    (plain.history, plain.area.withFile elsewhere []) = otherRun
  obtain ⟨outcome, state, _⟩ := run
  obtain ⟨otherOutcome, otherState, _⟩ := otherRun
  dsimp only
  intro alike result history area otherResult otherHistory otherArea
  cases alike with
  | failed failure still =>
      obtain ⟨level, unwritten⟩ := still
      obtain ⟨fault, rfl⟩ := (plain.downloadPlain_course url elsewhere).http_of_error
        alsoGranted otherResult
      refine ⟨?_, .inl ⟨fault, result, otherResult, ?_, ?_⟩⟩
      · rw [history, otherHistory]
        exact level.grown
      · rw [area]
        exact authorized.area.body?_withFile directory []
      · rw [otherArea, unwritten]
        exact plain.area.body?_withFile elsewhere []
  | @done body _ _ _ both =>
      obtain ⟨level, written⟩ := both
      refine ⟨?_, .inr ⟨body, otherResult, ?_, ?_⟩⟩
      · rw [history, otherHistory]
        exact level.grown
      · rw [otherArea, written]
        exact plain.area.body?_withFile elsewhere body
      · cases decoded : Utf8.decode body with
        | error defect =>
            rw [requireText_of_error decoded] at result area
            refine .inr ⟨defect, rfl, result, ?_⟩
            rw [area]
            exact authorized.area.body?_withFile directory []
        | ok text =>
            rw [requireText_of_ok decoded] at result area
            refine .inl ⟨text, rfl, result, ?_⟩
            rw [area]
            exact authorized.area.body?_withFile directory body

/-! ## A body that is not text -/

/-- A network that drops the first request for a URL, and answers the others with a body that is
not text. -/
def garbledNetwork : Http.Network := fun _ earlier =>
  if earlier = 0 then .dropped else .answer 200 [] [0xFF] false

/-- A session in that network that attempts everything twice. -/
def garbled (token : Option String) : Session :=
  { start "startup" ⟨2, 0⟩ garbledNetwork (.canned .empty) .tallied with token := token }

theorem garbled_direct : NeverRedirects garbledNetwork "http://h/a" := by
  intro draft _ earlier status headers body truncated replied
  unfold garbledNetwork at replied
  split at replied
  · cases replied
  · cases replied
    decide

/-- The exchange for `http://h/a` with a reply. -/
def garbledExchange (reply : Http.Reply) : Http.Exchange :=
  ⟨⟨onHost ['a'], [], false⟩, reply⟩

theorem garbled_dropped :
    Http.send garbledNetwork true ⟨onHost ['a'], [], false⟩ [] =
      (.error (.unanswered (onHost ['a']).render), [garbledExchange .dropped]) := by
  unfold Http.send
  rw [if_pos (by decide), if_pos rfl, Http.redirectLimit, Http.follow]
  rfl

theorem garbled_answered :
    Http.send garbledNetwork true ⟨onHost ['a'], [], false⟩ [garbledExchange .dropped] =
      (.ok ⟨200, onHost ['a'], [], [0xFF], false⟩,
        [garbledExchange .dropped, garbledExchange (.answer 200 [] [0xFF] false)]) := by
  unfold Http.send
  rw [if_pos (by decide), if_pos rfl, Http.redirectLimit,
    Http.follow_answered rfl rfl (by decide)]
  rfl

theorem garbled_plain :
    ((garbled none).downloadPlain "http://h/a" "d").1 = .ok 0 ∧
      ((garbled none).downloadPlain "http://h/a" "d").2.area.body? 0 = some [0xFF] := by
  have granted : (garbled none).area.fault? "d" = none := rfl
  have whole : Http.bodyOf ⟨200, onHost ['a'], [], [0xFF], false⟩ = .ok [0xFF] := rfl
  obtain ⟨result, _, area⟩ := downloadPlain_granted "http://h/a" granted
  have failing : Http.fetchToFile garbledNetwork "http://h/a" 0
      ([], (garbled none).area.withFile "d" []) =
        (.error (.http (.unanswered (onHost ['a']).render)), [garbledExchange .dropped],
          (garbled none).area.withFile "d" []) := by
    simp only [Http.fetchToFile, Http.ofText_onHost, garbled_dropped]
  have written : ((garbled none).area.withFile "d" []).write 0 [0xFF] =
      (.ok (), (garbled none).area.withFile "d" [0xFF]) :=
    (garbled none).area.write_withFile "d" [] [0xFF]
  have saving : Http.fetchToFile garbledNetwork "http://h/a" 0
      ([garbledExchange .dropped], (garbled none).area.withFile "d" []) =
        (.ok (), [garbledExchange .dropped, garbledExchange (.answer 200 [] [0xFF] false)],
          (garbled none).area.withFile "d" [0xFF]) := by
    simp only [Http.fetchToFile, Http.ofText_onHost, garbled_answered, whole, written]
  have run_eq : (garbled none).policy.run Failure.isTransient
      (Http.fetchToFile garbledNetwork "http://h/a" 0)
      ([], (garbled none).area.withFile "d" []) = ⟨.ok (),
        ([garbledExchange .dropped, garbledExchange (.answer 200 [] [0xFF] false)],
          (garbled none).area.withFile "d" [0xFF]), [.attempt, .pause 0, .attempt]⟩ := by
    change (garbled none).policy.attempt _ _ 1 _ = _
    rw [Retry.Policy.attempt_again _ (by rw [failing]; exact ⟨_, rfl, rfl⟩), failing]
    simp only [Retry.Policy.attempt, saving]
    rfl
  change (garbled none).policy.run Failure.isTransient
    (Http.fetchToFile (garbled none).network "http://h/a" (garbled none).area.files.length)
    ((garbled none).history, (garbled none).area.withFile "d" []) = _ at run_eq
  rw [run_eq] at result area
  refine ⟨result, ?_⟩
  rw [area]
  exact (garbled none).area.body?_withFile "d" [0xFF]

/-- A body that is not text is saved without a token and refused with one. -/
theorem garbled_refused :
    let ended := (garbled (some "t")).downloadAuthorized "http://h/a" "d"
    let other := (garbled none).downloadPlain "http://h/a" "d"
    other.1 = .ok 0 ∧ other.2.area.body? 0 = some [0xFF] ∧
      (∃ defect, ended.1 = .error (.notText defect)) ∧ ended.2.area.body? 0 = some [] := by
  dsimp only
  obtain ⟨result, held⟩ := garbled_plain
  refine ⟨result, held, ?_⟩
  have legal : "t".toList.all Http.Draft.isHeaderChar = true := by decide
  have granted : (garbled (some "t")).area.fault? "d" = none := rfl
  have alsoGranted : (garbled none).area.fault? "d" = none := rfl
  have direct : NeverRedirects (garbled none).network "http://h/a" := garbled_direct
  have both := downloads_agree (garbled (some "t")) (garbled none) "http://h/a" "d" "d" "t"
    rfl rfl (fun _ => rfl) rfl legal granted alsoGranted direct
  rcases both.2 with ⟨fault, _, failed, _⟩ | ⟨body, _, saved, text | ⟨defect, _, refused, empty⟩⟩
  · rw [result] at failed
    cases failed
  · obtain ⟨text, decoded, _⟩ := text
    obtain rfl : [0xFF] = body := Option.some.inj (held.symm.trans saved)
    cases decoded
  · exact ⟨⟨defect, refused⟩, empty⟩

end Session
end InstanceScripts
