import InstanceScripts.Proofs.Http.Presentation
import InstanceScripts.Proofs.Session.Delivery

/-!
# How a download uses its token

A download presents the token that it uses once in each of its attempts, and nowhere else.  It
gives the token up when it fails with the status that rejects one.  That failure does not tell
which request has been answered so: the last one that presented the token, or one behind a
redirect, which did not.
-/

namespace InstanceScripts

open Http
  (Exchange TokenAttempt Retried Tokenless Attempted PresentsOnce lastPresenting? lastStatus?)

namespace Session

theorem statusIn?_requireText (outcome : Except Failure Octets) :
    Failure.statusIn? (outcome.bind requireText) = Failure.statusIn? outcome := by
  cases outcome with
  | error failure => rfl
  | ok body =>
      change Failure.statusIn? (requireText body) = none
      unfold requireText
      cases Utf8.decode body with
      | ok text => rfl
      | error defect => rfl

/-- A download that uses a token makes retried attempts with it.  It fails with a status if they
do, and gives the token up if that is the status that rejects one. -/
theorem AuthorizedCourse.retried
    {session after : Session} {url directory token : String} {outcome : Except Failure Nat}
    (course : AuthorizedCourse session url directory outcome after)
    (granted : session.area.fault? directory = none)
    (usable : session.tokenToUse? = some token) :
    ∃ sent result, after.history = session.provided.history ++ sent ∧
      Retried (TokenAttempt url token) session.policy.budget sent result ∧
      Failure.statusIn? outcome = Failure.statusIn? result ∧
      after.token = if Failure.statusIn? result = some 401 then none else some token := by
  cases course with
  | refused fault reason refused =>
      rw [granted] at refused
      cases refused
  | failed other sent log result failure _ known retried failed =>
      obtain rfl : token = other := Option.some.inj (usable.symm.trans known)
      have status : failure.status? = Failure.statusIn? result := by
        rw [← statusIn?_requireText, failed, Failure.statusIn?_error]
      exact ⟨sent, result, rfl, retried, status, by rw [status]⟩
  | done other sent log body _ known retried text =>
      obtain rfl : token = other := Option.some.inj (usable.symm.trans known)
      refine ⟨sent, .ok body, rfl, retried, rfl, ?_⟩
      rw [Failure.statusIn?_ok, if_neg (by simp)]
      exact session.provided_token.trans usable
  | unequipped log _ _ _ unusable =>
      rw [usable] at unusable
      cases unusable

theorem downloadWithToken_history (session : Session) (url token : String) (file : Nat) :
    (session.downloadWithToken url token file).2.history =
      (session.policy.run Failure.isTransient (Http.fetchWithToken session.network url token)
        session.history).state := by
  unfold downloadWithToken
  dsimp only
  generalize Retry.Policy.run _ _ _ _ = run
  cases run.outcome.bind requireText with
  | error failure => rfl
  | ok body =>
      dsimp only
      rcases session.area.write file body with ⟨failure | done, area⟩
      · rfl
      · rfl

end Session

namespace Download

/-- A download that uses a token is to present it, has a file for it, and has the token. -/
theorem uses_iff {download : Download} {token : String} :
    download.token? = some token ↔
      download.authorized = true ∧ download.entry.area.fault? download.directory = none ∧
        download.entry.tokenToUse? = some token := by
  unfold token? needsToken
  cases download.authorized <;> cases download.entry.area.fault? download.directory <;> simp

/-- A download that uses a token makes retried attempts with it, once it has asked for it if it
must. -/
theorem retried {download : Download} {token : String} (uses : download.token? = some token) :
    ∃ asked sent result,
      download.exit.history = download.entry.history ++ (asked ++ sent) ∧ Tokenless asked ∧
      Retried (TokenAttempt download.url token) download.entry.policy.budget sent result ∧
      Failure.statusIn? download.outcome = Failure.statusIn? result ∧
      download.exit.token = if Failure.statusIn? result = some 401 then none else some token := by
  obtain ⟨authorized, granted, usable⟩ := uses_iff.mp uses
  rcases download.course with ⟨_, course⟩ | ⟨unauthorized, _⟩
  · obtain ⟨asked, asking, tokenless⟩ := download.entry.provided_history
    obtain ⟨sent, result, history_eq, retried, status, token_eq⟩ := course.retried granted usable
    refine ⟨asked, sent, result, ?_, tokenless, retried, status, token_eq⟩
    rw [history_eq, asking, List.append_assoc]
  · rw [authorized] at unauthorized
    cases unauthorized

/-- A download that uses a token leaves it behind, or none.  It leaves none exactly if it has
failed, and either the last request that presented the token was answered with the status that
rejects it, or that request was redirected, and the last request behind it, which did not
present the token, was answered so. -/
theorem token_given_up_iff (download : Download) (token : String)
    (uses : download.token? = some token) :
    ∃ sent, download.exit.history = download.entry.history ++ sent ∧
      (download.exit.token = none ∨ download.exit.token = some token) ∧
      (download.exit.token = none ↔
        (∃ failure, download.outcome = .error failure) ∧
          ∃ presented, lastPresenting? token sent = some presented ∧
            (presented.status? = some 401 ∨
              presented.IsRedirected ∧ lastStatus? sent = some 401)) := by
  obtain ⟨asked, sent, result, history_eq, tokenless, retried, status, token_eq⟩ :=
    download.retried uses
  refine ⟨asked ++ sent, history_eq, ?_, ?_⟩
  · rw [token_eq]
    split
    · exact .inl rfl
    · exact .inr rfl
  have rejects := retried.status_eq_some_iff (show Http.isErrorStatus 401 = true by decide)
  have given_up : download.exit.token = none ↔ lastStatus? sent = some 401 := by
    rw [token_eq, ← rejects]
    simp
  have failed (rejected : lastStatus? sent = some 401) :
      ∃ failure, download.outcome = .error failure :=
    Failure.exists_of_statusIn? (status.trans (rejects.mpr rejected))
  rw [given_up]
  by_cases silent : sent = []
  · rw [silent, List.append_nil, Http.lastPresenting?_tokenless tokenless]
    simp [lastStatus?]
  obtain ⟨front, presented, chain, rfl, tokens, plain, redirected⟩ := retried.split silent
  have found : lastPresenting? token (asked ++ (front ++ presented :: chain)) = some presented := by
    rw [← List.append_assoc]
    exact Http.lastPresenting?_append _ (Http.Exchange.presents_of_tokens tokens)
      fun exchange member => (plain exchange member).2
  have last : lastStatus? (front ++ presented :: chain) = lastStatus? (presented :: chain) :=
    Http.lastStatus?_append front (List.cons_ne_nil _ _)
  have whole : lastStatus? (asked ++ (front ++ presented :: chain)) =
      lastStatus? (front ++ presented :: chain) := Http.lastStatus?_append asked silent
  rw [found, whole]
  constructor
  · intro rejected
    refine ⟨failed rejected, presented, rfl, ?_⟩
    by_cases alone : chain = []
    · rw [last, alone, Http.lastStatus?_singleton] at rejected
      exact .inl rejected
    · exact .inr ⟨redirected alone, rejected⟩
  · rintro ⟨_, same, chosen, rejected | ⟨_, rejected⟩⟩
    · obtain rfl : presented = same := Option.some.inj chosen
      have alone : chain = [] := by
        by_contra more
        exact (redirected more).status?_ne rfl rejected
      rw [last, alone, Http.lastStatus?_singleton]
      exact rejected
    · exact rejected

theorem run_authorized (session : Session) (url directory : String) :
    run ⟨session, true, url, directory⟩ = session.downloadAuthorized url directory := rfl

/-- A download that uses a token makes at least one attempt, and no more than its policy allows.
Each presents the token at most once, in its first request, which is for the URL of the download;
its other requests are behind a redirect and plain. -/
theorem presents_once (download : Download) (token : String)
    (uses : download.token? = some token) :
    ∃ asked made,
      download.exit.history = download.entry.history ++ asked ++ made.flatten ∧
      Tokenless asked ∧ made ≠ [] ∧
      made.length ≤ max download.entry.policy.attempts.toNat 1 ∧
      Attempted (Http.fetchWithToken download.entry.network download.url token)
        (download.entry.history ++ asked) made ∧
      (∀ sent ∈ made, PresentsOnce download.url token sent) ∧
      made.flatten.countP Exchange.isCredentialed ≤
        max download.entry.policy.attempts.toNat 1 := by
  obtain ⟨authorized, granted, usable⟩ := uses_iff.mp uses
  obtain ⟨asked, asking, tokenless⟩ := download.entry.provided_history
  have once (history : Http.History) (sent : List Exchange)
      (added : (Http.fetchWithToken download.entry.network download.url token history).2 =
        history ++ sent) : PresentsOnce download.url token sent := by
    obtain ⟨same, attempt, grown⟩ :=
      Http.fetchWithToken_attempt download.entry.network download.url token history
    obtain rfl : sent = same := List.append_cancel_left (added.symm.trans grown)
    exact attempt.presentsOnce
  obtain ⟨made, some, few, attempted, state_eq⟩ :=
    Http.run_attempted download.entry.policy
      (fun history => by
        obtain ⟨sent, _, grown⟩ :=
          Http.fetchWithToken_attempt download.entry.network download.url token history
        exact ⟨sent, grown⟩)
      (download.entry.history ++ asked)
  have every : ∀ sent ∈ made, PresentsOnce download.url token sent := attempted.forall_mem once
  have count : made.flatten.countP Exchange.isCredentialed ≤ made.length :=
    Http.countP_flatten_le fun sent member => (every sent member).countP_le
  refine ⟨asked, made, ?_, tokenless, some, few, attempted, every, count.trans few⟩
  obtain ⟨log, continued⟩ := Session.downloadAuthorized_granted download.url granted
  have ended : download.run = download.entry.downloadAuthorized download.url download.directory := by
    rw [run, if_pos authorized]
  rw [usable] at continued
  rw [exit, ended, continued, Session.downloadWithToken_history, ← state_eq, ← asking]
  simp only [Session.equipped, Session.provided_policy, Session.provided_network]

/-! ## A redirect to another host -/

/-- A URL of the host `g` with one segment. -/
def elsewhere (segment : List Char) : Url :=
  ⟨"http".toList, some ⟨[], none, some (.domain ['g']), none⟩, .segments [segment], none, none⟩

/-- The answer that redirects from `http://h/a` to `http://u:p@g/b`. -/
def awayReply : Http.Reply :=
  .answer 302 [("location", [0x2F, 0x2F, 0x75, 0x3A, 0x70, 0x40, 0x67, 0x2F, 0x62])] [] false

/-- The answer that redirects from `http://g/b` to `http://g/c`. -/
def onwardReply : Http.Reply :=
  .answer 302 [("location", [0x2F, 0x63])] [] false

/-- The answer that rejects. -/
def rejectingReply : Http.Reply :=
  .answer 401 [] [] false

/-- A network with these servers. -/
def strayingNetwork : Http.Network := fun url _ =>
  if url = Session.onHost ['a'] then awayReply
  else if url = elsewhere ['b'] then onwardReply
  else rejectingReply

/-- A download in that network by a session that has a token. -/
def strayed : Download :=
  ⟨{ Session.start "startup" .single strayingNetwork (.canned .empty) .tallied with
      token := some "t" }, true, "http://h/a", "d"⟩

/-- What the download sends. -/
def strayedSent : List Exchange :=
  [⟨⟨Session.onHost ['a'], [.token "t"], true⟩, awayReply⟩,
    ⟨⟨elsewhere ['b'], [.basic [0x75, 0x3A, 0x70]], false⟩, onwardReply⟩,
    ⟨⟨elsewhere ['c'], [.basic [0x75, 0x3A, 0x70]], false⟩, rejectingReply⟩]

set_option maxRecDepth 4000 in
theorem away_found :
    Http.redirectTarget ⟨302, Session.onHost ['a'],
        [("location", [0x2F, 0x2F, 0x75, 0x3A, 0x70, 0x40, 0x67, 0x2F, 0x62])], [], false⟩ =
      .ok (some ⟨"http".toList, some ⟨['u'], some ['p'], some (.domain ['g']), none⟩,
        .segments [['b']], none, none⟩) := by
  have located : (Http.Response.mk 302 (Session.onHost ['a'])
      [("location", [0x2F, 0x2F, 0x75, 0x3A, 0x70, 0x40, 0x67, 0x2F, 0x62])] []
      false).location? = some [0x2F, 0x2F, 0x75, 0x3A, 0x70, 0x40, 0x67, 0x2F, 0x62] := by
    simp [Http.Response.location?, Http.Response.header?, Session.location_toLower]
  unfold Http.redirectTarget
  rw [located]
  rfl

theorem onward_found :
    Http.redirect? ⟨302, elsewhere ['b'], [("location", [0x2F, 0x63])], [], false⟩ =
      some (elsewhere ['c']) := by
  have located : (Http.Response.mk 302 (elsewhere ['b']) [("location", [0x2F, 0x63])] []
      false).location? = some [0x2F, 0x63] := by
    simp [Http.Response.location?, Http.Response.header?, Session.location_toLower]
  unfold Http.redirect?
  rw [located]
  decide

theorem fetch_strayed :
    Http.fetchWithToken strayingNetwork "http://h/a" "t" [] =
      (.error (.http (.status 401 (elsewhere ['c']).render)), strayedSent) := by
  have drafted : Http.tokenDraft "http://h/a" "t" =
      .ok ⟨Session.onHost ['a'], [.token "t"], true⟩ := by
    rw [Http.tokenDraft, Http.ofText_onHost]
    rfl
  have asked : Http.send strayingNetwork false ⟨Session.onHost ['a'], [.token "t"], true⟩ [] =
      (.ok ⟨302, Session.onHost ['a'],
          [("location", [0x2F, 0x2F, 0x75, 0x3A, 0x70, 0x40, 0x67, 0x2F, 0x62])], [], false⟩,
        [⟨⟨Session.onHost ['a'], [.token "t"], true⟩, awayReply⟩]) := by
    unfold Http.send
    rw [if_pos (by decide), if_neg (by decide)]
    rfl
  have redrafted : Http.Draft.ofUrl ⟨"http".toList,
      some ⟨['u'], some ['p'], some (.domain ['g']), none⟩, .segments [['b']], none, none⟩ =
        .ok ⟨elsewhere ['b'], [.basic [0x75, 0x3A, 0x70]], false⟩ := rfl
  have followed : Http.send strayingNetwork true
      ⟨elsewhere ['b'], [.basic [0x75, 0x3A, 0x70]], false⟩
      [⟨⟨Session.onHost ['a'], [.token "t"], true⟩, awayReply⟩] =
        (.ok ⟨401, elsewhere ['c'], [], [], false⟩, strayedSent) := by
    unfold Http.send
    rw [if_pos (by decide), if_pos rfl, Http.redirectLimit,
      Http.follow_hop rfl rfl onward_found (by decide), Http.follow_answered rfl rfl (by decide)]
    rfl
  simp only [Http.fetchWithToken, drafted, asked, away_found, redrafted, followed]
  rfl

theorem strayed_run :
    strayed.outcome = .error (.http (.status 401 (elsewhere ['c']).render)) ∧
      strayed.exit.history = strayedSent ∧ strayed.exit.token = none := by
  have reserved : strayed.entry.area.fault? "d" = none := rfl
  obtain ⟨log, granted⟩ := Session.downloadAuthorized_granted "http://h/a" reserved
  have usable : strayed.entry.tokenToUse? = some "t" := rfl
  have ended : strayed.run = strayed.entry.downloadAuthorized "http://h/a" "d" :=
    run_authorized _ _ _
  have attempted : (strayed.entry.equipped "d" log).policy.run Failure.isTransient
      (Http.fetchWithToken (strayed.entry.equipped "d" log).network "http://h/a" "t")
      (strayed.entry.equipped "d" log).history =
        ⟨.error (.http (.status 401 (elsewhere ['c']).render)), strayedSent, [.attempt]⟩ := by
    change Retry.Policy.single.run Failure.isTransient
      (Http.fetchWithToken strayingNetwork "http://h/a" "t") [] = _
    rw [Retry.Policy.run_single, fetch_strayed]
  rw [usable] at granted
  unfold outcome exit
  rw [ended, granted]
  simp only [Session.downloadWithToken, attempted]
  exact ⟨rfl, rfl, rfl⟩

/-- A session gives up a token that nobody has rejected: the request that presented it was
redirected, and another server rejected the request behind the redirect, which did not. -/
theorem strayed_given_up :
    ∃ presented last,
      strayed.token? = some "t" ∧
      strayed.exit.history = strayed.entry.history ++ strayedSent ∧
      strayed.exit.token = none ∧
      lastPresenting? "t" strayedSent = some presented ∧ presented.status? = some 302 ∧
      strayedSent.getLast? = some last ∧ last.status? = some 401 ∧ last.request.IsPlain ∧
      Http.sameServer presented.request.url last.request.url = false :=
  ⟨_, _, rfl, strayed_run.2.1, strayed_run.2.2, rfl, rfl, rfl, rfl, ⟨rfl, rfl⟩, rfl⟩

/-- What that download shows of when a token is given up. -/
theorem strayed_last :
    ∃ presented, lastPresenting? "t" strayedSent = some presented ∧
      (presented.status? = some 401 ∨
        presented.IsRedirected ∧ lastStatus? strayedSent = some 401) := by
  obtain ⟨sent, history_eq, _, given_up⟩ := strayed.token_given_up_iff "t" rfl
  obtain rfl : strayedSent = sent := strayed_run.2.1.symm.trans history_eq
  exact (given_up.mp strayed_run.2.2).2

/-- Behind a redirect, a request may carry a user name and a password that are not those of its
own URL. -/
theorem strayed_basic :
    ∃ first second third response target,
      strayed.exit.history = strayed.entry.history ++ [first, second, third] ∧
      first.presents "t" = true ∧ second.response? = some response ∧
      Http.redirect? response = some target ∧ Http.Draft.userinfo? target = none ∧
      third.request.url = target.withoutFragment ∧
      third.request.credentials = [.basic [0x75, 0x3A, 0x70]] :=
  ⟨_, _, _, ⟨302, elsewhere ['b'], [("location", [0x2F, 0x63])], [], false⟩, elsewhere ['c'],
    strayed_run.2.1, rfl, rfl, onward_found, rfl, rfl, rfl⟩

/-- That download presents its token once. -/
theorem strayed_once :
    ∃ (asked : Http.History) (made : List (List Exchange)),
      strayedSent = asked ++ made.flatten ∧ made.length = 1 ∧
      ∀ sent ∈ made, PresentsOnce "http://h/a" "t" sent := by
  obtain ⟨asked, made, history_eq, _, some, few, _, once, _⟩ := strayed.presents_once "t" rfl
  have length : made.length = 1 := by
    have least := List.length_pos_of_ne_nil some
    have most : made.length ≤ 1 := few
    omega
  exact ⟨asked, made, strayed_run.2.1.symm.trans history_eq, length, once⟩

end Download
end InstanceScripts
