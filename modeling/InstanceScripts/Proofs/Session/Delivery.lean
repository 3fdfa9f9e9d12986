import InstanceScripts.Proofs.Http.Answer
import InstanceScripts.Proofs.Session.Confinement
import InstanceScripts.Proofs.Session.TokenCache

/-!
# Which answers are staged

A download stages the body of the last answer that it has received.  No answer that reports an
error is staged, and no redirection in answer to a token; but a plain download takes a
redirection that leads nowhere for what it has been looking for.
-/

namespace InstanceScripts

open Http (Exchange Delivered PlainAttempt TokenAttempt)

/-- The file reserved last holds what has been written to it. -/
theorem Staging.Area.body?_withFile (area : Staging.Area) (directory : String) (body : Octets) :
    (area.withFile directory body).body? area.files.length = some body := by
  simp [body?]

/-- An answer that reports success. -/
def Http.Response.isSuccess (response : Http.Response) : Bool :=
  200 ≤ response.status && response.status < 300

set_option maxRecDepth 4000 in
theorem Http.ofText_onHost :
    Http.Draft.ofText "http://h/a" = .ok ⟨Session.onHost ['a'], [], false⟩ := by
  rfl

namespace Session

theorem PlainCourse.delivered
    {session after : Session} {url directory : String} {outcome : Except Failure Nat}
    {file : Nat} (course : PlainCourse session url directory outcome after)
    (succeeded : outcome = .ok file) :
    ∃ sent body, after.history = session.history ++ sent ∧ after.area.body? file = some body ∧
      Delivered sent body := by
  cases course with
  | refused => cases succeeded
  | failed => cases succeeded
  | done sent log body granted retried =>
      cases succeeded
      exact ⟨sent, body, rfl, session.area.body?_withFile directory body,
        retried.delivered fun _ attempt => attempt.delivered⟩

theorem AuthorizedCourse.delivered
    {session after : Session} {url directory : String} {outcome : Except Failure Nat}
    {file : Nat} (course : AuthorizedCourse session url directory outcome after)
    (succeeded : outcome = .ok file) :
    ∃ sent body, after.history = session.history ++ sent ∧ after.area.body? file = some body ∧
      Delivered sent body := by
  obtain ⟨asked, asking, _⟩ := session.provided_history
  cases course with
  | refused => cases succeeded
  | failed => cases succeeded
  | done token sent log body granted usable retried =>
      cases succeeded
      have delivered := retried.delivered fun _ attempt => attempt.delivered
      refine ⟨asked ++ sent, body, ?_, session.area.body?_withFile directory body,
        delivered.append asked⟩
      rw [asking, List.append_assoc]
  | unequipped log _ _ granted unusable plain =>
      obtain ⟨sent, body, history_eq, held, delivered⟩ := plain.delivered succeeded
      refine ⟨asked ++ sent, body, ?_, held, delivered.append asked⟩
      rw [history_eq, equipped, asking, List.append_assoc]

end Session

namespace Download

/-- A download that succeeds has staged the whole body of the last answer that it has received.
That answer reports success, or it is a redirection that leads nowhere and answers a request
without a token, or its status says neither that nor that anything is wrong. -/
theorem staged_answer (download : Download) (file : Nat)
    (succeeded : download.outcome = .ok file) :
    ∃ earlier exchange response body,
      download.exit.history = download.entry.history ++ (earlier ++ [exchange]) ∧
      exchange.response? = some response ∧ response.content = .ok body ∧
      download.exit.area.body? file = some body ∧
      (response.isSuccess = true ∨
        (response.isRedirection = true ∧ ¬response.IsFollowed ∧ exchange.request.IsPlain) ∨
        response.status < 200 ∨ 600 ≤ response.status) := by
  have delivered : ∃ sent body, download.exit.history = download.entry.history ++ sent ∧
      download.exit.area.body? file = some body ∧ Delivered sent body := by
    rcases download.course with ⟨_, course⟩ | ⟨_, course⟩
    · exact course.delivered succeeded
    · exact course.delivered succeeded
  obtain ⟨_, body, history_eq, held, earlier, exchange, response, rfl, answer, whole, accepted,
    stays⟩ := delivered
  refine ⟨earlier, exchange, response, body, history_eq, answer, whole, held, ?_⟩
  cases redirection : response.isRedirection with
  | true => exact .inr (.inl ⟨rfl, stays redirection⟩)
  | false =>
      simp only [Http.isErrorStatus, Bool.and_eq_false_iff, decide_eq_false_iff_not] at accepted
      simp only [Http.Response.isRedirection, Bool.and_eq_false_iff, decide_eq_false_iff_not]
        at redirection
      simp only [Http.Response.isSuccess, Bool.and_eq_true, decide_eq_true_eq]
      omega

/-! ## A redirection that leads nowhere -/

theorem run_plain (session : Session) (url directory : String) :
    run ⟨session, false, url, directory⟩ = session.downloadPlain url directory := rfl

/-- A network whose servers answer everything with a redirection that does not say where to. -/
def lostNetwork : Http.Network :=
  fun _ _ => .answer 302 [] [0x78] false

/-- A plain download in that network. -/
def lost : Download :=
  ⟨.start "startup" .single lostNetwork (.canned .empty) .tallied, false, "http://h/a", "d"⟩

theorem lost_run :
    lost.outcome = .ok 0 ∧ lost.exit.area.body? 0 = some [0x78] ∧
      lost.exit.history =
        [⟨⟨Session.onHost ['a'], [], false⟩, .answer 302 [] [0x78] false⟩] := by
  have granted : lost.entry.area.fault? "d" = none := rfl
  have sent : Http.send lost.entry.network true ⟨Session.onHost ['a'], [], false⟩
      lost.entry.history =
        (.ok ⟨302, Session.onHost ['a'], [], [0x78], false⟩,
          [⟨⟨Session.onHost ['a'], [], false⟩, .answer 302 [] [0x78] false⟩]) := by
    unfold Http.send
    rw [if_pos (by decide), if_pos rfl, Http.redirectLimit,
      Http.follow_answered rfl rfl (by decide)]
    rfl
  have whole : Http.bodyOf ⟨302, Session.onHost ['a'], [], [0x78], false⟩ = .ok [0x78] := rfl
  have written := lost.entry.area.write_withFile "d" [] [0x78]
  have fetched : Http.fetchToFile lost.entry.network "http://h/a" lost.entry.area.files.length
      (lost.entry.history, lost.entry.area.withFile "d" []) =
        (.ok (), [⟨⟨Session.onHost ['a'], [], false⟩, .answer 302 [] [0x78] false⟩],
          lost.entry.area.withFile "d" [0x78]) := by
    simp only [Http.fetchToFile, Http.ofText_onHost, sent, whole, written]
  have ended : lost.run = lost.entry.downloadPlain "http://h/a" "d" := run_plain _ _ _
  have downloaded : ∃ log, lost.entry.downloadPlain "http://h/a" "d" =
      (.ok 0, { lost.entry with
        area := lost.entry.area.withFile "d" [0x78]
        history := [⟨⟨Session.onHost ['a'], [], false⟩, .answer 302 [] [0x78] false⟩]
        log := log }) := by
    simp only [Session.downloadPlain, Staging.Area.reserve_granted granted, Session.report,
      Retry.Policy.run_ok _ _ _ fetched]
    exact ⟨_, rfl⟩
  obtain ⟨log, downloaded⟩ := downloaded
  unfold outcome exit
  rw [ended, downloaded]
  exact ⟨rfl, rfl, rfl⟩

/-- A redirection that does not say where to is staged like a script. -/
theorem lost_staged :
    ∃ exchange response, lost.outcome = .ok 0 ∧ lost.exit.history = [exchange] ∧
      exchange.response? = some response ∧ response.status = 302 ∧
      response.isSuccess = false ∧ response.content = .ok [0x78] ∧
      lost.exit.area.body? 0 = some [0x78] :=
  ⟨_, ⟨302, Session.onHost ['a'], [], [0x78], false⟩, lost_run.1, lost_run.2.2, rfl, rfl, rfl,
    rfl, lost_run.2.1⟩

/-- The answer that is staged there is the last one. -/
theorem lost_answer :
    ∃ earlier exchange response, lost.exit.history = earlier ++ [exchange] ∧
      exchange.response? = some response ∧ response.content = .ok [0x78] := by
  obtain ⟨earlier, exchange, response, body, history_eq, answer, whole, held, _⟩ :=
    lost.staged_answer 0 lost_run.1
  obtain rfl : [0x78] = body := Option.some.inj (lost_run.2.1.symm.trans held)
  exact ⟨earlier, exchange, response, history_eq, answer, whole⟩

end Download
end InstanceScripts
