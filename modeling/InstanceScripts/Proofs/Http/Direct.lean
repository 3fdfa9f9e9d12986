import InstanceScripts.Proofs.Http.Answer
import Mathlib.Data.List.Forall2

/-!
# Requests that are not redirected

Where no answer redirects, it makes no difference to the network whether a token is presented:
with it and without it the same URL is asked for as often, with the same replies, and what comes
of the last reply is the same.
-/

namespace InstanceScripts
namespace Http

open Retry.Policy (EndsAlike)

/-- No answer to a request for the URL that a text spells redirects. -/
def NeverRedirects (network : Network) (text : String) : Prop :=
  ∀ draft, Draft.ofText text = .ok draft →
    ∀ earlier status headers body truncated,
      network draft.request.url earlier = .answer status headers body truncated →
        ¬(300 ≤ status ∧ status < 400)

/-- In two exchanges the URL that a text spells is asked for and the same reply comes. -/
structure AskAlike (text : String) (exchange other : Exchange) : Prop where
  spelled : ∃ draft, Draft.ofText text = .ok draft ∧ exchange.request.url = draft.request.url
  url : other.request.url = exchange.request.url
  reply : other.reply = exchange.reply

/-- Two histories that began as two others, with as many requests for each URL, and have grown
by asking alike. -/
structure Level (text : String) (first second history other : History) : Prop where
  counts : ∀ url, history.count url = other.count url
  grown : ∃ sent received, history = first ++ sent ∧ other = second ++ received ∧
    List.Forall₂ (AskAlike text) sent received

/-- Histories in which every URL has been asked for as often stay so if the same URL is asked for
next. -/
theorem History.count_append {history other : History}
    (counts : ∀ url, history.count url = other.count url) {exchange another : Exchange}
    (same : exchange.request.url = another.request.url) (url : Url) :
    History.count (history ++ [exchange]) url = History.count (other ++ [another]) url := by
  have before := counts url
  simp only [History.count, List.countP_append, List.countP_singleton, same] at before ⊢
  rw [before]

section

variable {network : Network} {text : String} {first second history other : History}

theorem Level.refl (counts : ∀ url, first.count url = second.count url) :
    Level text first second first second :=
  ⟨counts, [], [], by simp, by simp, .nil⟩

theorem Level.exchange {exchange another : Exchange}
    (level : Level text first second history other) (alike : AskAlike text exchange another) :
    Level text first second (history ++ [exchange]) (other ++ [another]) := by
  obtain ⟨sent, received, rfl, rfl, together⟩ := level.grown
  exact ⟨History.count_append level.counts alike.url.symm, sent ++ [exchange],
    received ++ [another], List.append_assoc .., List.append_assoc ..,
    List.rel_append together (.cons alike .nil)⟩

/-! ## One request -/

/-- An answer has the status of its reply. -/
theorem response?_answer {status : Nat} {headers : List (String × Octets)} {body : Octets}
    {truncated : Bool} {url : Url} {response : Response}
    (answered : (Reply.answer status headers body truncated).response? url = some response) :
    response.status = status := by
  unfold Reply.response? at answered
  by_cases bodiless : isBodiless status
  · simp only [bodiless, if_true, Option.some.injEq] at answered
    rw [← answered]
  · by_cases informational : 100 ≤ status ∧ status < 200
    · simp [bodiless, informational] at answered
    · simp only [bodiless, informational, if_false, Bool.false_eq_true, Option.some.injEq]
        at answered
      rw [← answered]

/-- An answer from a network that never redirects is no redirection. -/
theorem NeverRedirects.isRedirection {draft : Draft} {earlier : Nat} {response : Response}
    (direct : NeverRedirects network text) (drafted : Draft.ofText text = .ok draft)
    (answered : (network draft.request.url earlier).response? draft.url = some response) :
    response.isRedirection = false := by
  have outside := direct draft drafted earlier
  cases replied : network draft.request.url earlier with
  | unreachable => simp [replied, Reply.response?] at answered
  | refusedTunnel => simp [replied, Reply.response?] at answered
  | dropped => simp [replied, Reply.response?] at answered
  | answer status headers body truncated =>
      rw [replied] at answered
      have other := outside status headers body truncated replied
      simp only [Response.isRedirection, Bool.and_eq_false_iff, decide_eq_false_iff_not,
        response?_answer answered]
      omega

theorem redirectTarget_of_direct {response : Response}
    (direct : response.isRedirection = false) : redirectTarget response = .ok none := by
  by_contra directed
  rw [isRedirection_of_redirectTarget directed] at direct
  cases direct

theorem redirect?_of_direct {response : Response}
    (direct : response.isRedirection = false) : redirect? response = none := by
  rw [← Option.not_isSome_iff_eq_none]
  intro followed
  rw [Response.IsFollowed.isRedirection followed] at direct
  cases direct

/-- A client that follows redirects and one that does not get the same for the same URL. -/
theorem send_direct {draft : Draft} (presenting : Draft) (direct : NeverRedirects network text)
    (drafted : Draft.ofText text = .ok draft) (same : presenting.url = draft.url)
    (level : Level text first second history other) :
    ∃ after otherAfter, Level text first second after otherAfter ∧
      ((∃ fault, send network false presenting history = (.error fault, after) ∧
          send network true draft other = (.error fault, otherAfter)) ∨
        ∃ response, response.isRedirection = false ∧
          send network false presenting history = (.ok response, after) ∧
          send network true draft other = (.ok response, otherAfter)) := by
  have asked : presenting.request.url = draft.request.url := congrArg Url.withoutFragment same
  unfold send
  rw [same]
  by_cases possible : isHttp draft.url ∧ isTarget draft.url
  · rw [if_pos possible, if_pos possible, if_neg Bool.false_ne_true, if_pos rfl, ask,
      redirectLimit, follow, asked, same, level.counts draft.request.url]
    generalize replied : network draft.request.url (other.count draft.request.url) = reply
    have alike : AskAlike text ⟨presenting.request, reply⟩ ⟨draft.request, reply⟩ :=
      ⟨⟨draft, drafted, asked⟩, asked.symm, rfl⟩
    refine ⟨_, _, level.exchange alike, ?_⟩
    dsimp only
    cases answered : reply.response? draft.url with
    | none => exact .inl ⟨_, rfl, rfl⟩
    | some response =>
        rw [← replied] at answered
        have final := direct.isRedirection drafted answered
        refine .inr ⟨response, final, rfl, ?_⟩
        dsimp only
        rw [redirect?_of_direct final]
  · rw [if_neg possible, if_neg possible]
    exact ⟨history, other, level, .inl ⟨_, rfl, rfl⟩⟩

/-! ## One attempt -/

/-- A request that can be made without a token can be made with any that a header holds. -/
theorem tokenDraft_of_legal {draft : Draft} {token : String}
    (legal : token.toList.all Draft.isHeaderChar = true)
    (drafted : Draft.ofText text = .ok draft) :
    tokenDraft text token = .ok ⟨draft.url, draft.credentials ++ [.token token], true⟩ := by
  unfold tokenDraft
  rw [drafted]
  change draft.withFlavor.withToken token = _
  unfold Draft.withToken
  rw [if_pos legal]
  rfl

/-- Until an attempt succeeds, the histories are level and the reserved file stays empty. -/
def StillLevel (text directory : String) (first second : History) (area : Staging.Area)
    (history : History) (state : History × Staging.Area) : Prop :=
  Level text first second history state.1 ∧ state.2 = area.withFile directory []

/-- When an attempt succeeds, the histories are level and the reserved file holds the body that
the other attempt has brought. -/
def Together (text directory : String) (first second : History) (area : Staging.Area)
    (body : Octets) (history : History) (_ : Unit) (state : History × Staging.Area) : Prop :=
  Level text first second history state.1 ∧ state.2 = area.withFile directory body

/-- Asking once with a token and asking once without one end alike. -/
theorem fetch_endsAlike {token directory : String} {area : Staging.Area}
    (legal : token.toList.all Draft.isHeaderChar = true) (direct : NeverRedirects network text)
    {state : History × Staging.Area}
    (still : StillLevel text directory first second area history state) :
    EndsAlike (StillLevel text directory first second area)
      (Together text directory first second area)
      (fetchWithToken network text token history)
      (fetchToFile network text area.files.length state) := by
  obtain ⟨other, _⟩ := state
  obtain ⟨level, rfl⟩ := still
  cases drafted : Draft.ofText text with
  | error fault =>
      have undrafted : tokenDraft text token = .error fault := by
        rw [tokenDraft, drafted]
        rfl
      simp only [fetchWithToken, fetchToFile, drafted, undrafted]
      exact .failed _ ⟨level, rfl⟩
  | ok draft =>
      have presenting := tokenDraft_of_legal legal drafted
      obtain ⟨after, otherAfter, still, ended⟩ :=
        send_direct ⟨draft.url, draft.credentials ++ [.token token], true⟩ direct drafted rfl
          level
      rcases ended with ⟨fault, sent, received⟩ | ⟨response, final, sent, received⟩
      · simp only [fetchWithToken, fetchToFile, drafted, presenting, sent, received]
        exact .failed _ ⟨still, rfl⟩
      · simp only [fetchWithToken, fetchToFile, drafted, presenting, sent, received,
          redirectTarget_of_direct final]
        cases bodyOf response with
        | error failure => exact .failed _ ⟨still, rfl⟩
        | ok body =>
            simp only [Staging.Area.write_withFile]
            exact .done ⟨still, rfl⟩

/-- So do both however often they are retried. -/
theorem run_fetch_endsAlike {token : String} (policy : Retry.Policy) (area : Staging.Area)
    (directory : String) (legal : token.toList.all Draft.isHeaderChar = true)
    (direct : NeverRedirects network text)
    (counts : ∀ url, first.count url = second.count url) :
    let run := policy.run Failure.isTransient (fetchWithToken network text token) first
    let plain := policy.run Failure.isTransient (fetchToFile network text area.files.length)
      (second, area.withFile directory [])
    EndsAlike (StillLevel text directory first second area)
      (Together text directory first second area)
      (run.outcome, run.state) (plain.outcome, plain.state) :=
  policy.run_endsAlike Failure.isTransient
    (fun _ _ still => fetch_endsAlike legal direct still)
    ⟨Level.refl counts, rfl⟩

end

/-- What is wrong with an answer is an HTTP fault. -/
theorem http_of_bodyOf {response : Response} {failure : Failure}
    (failed : bodyOf response = .error failure) : ∃ fault, failure = .http fault := by
  unfold bodyOf at failed
  cases successful : response.successful with
  | error fault =>
      rw [successful] at failed
      cases failed
      exact ⟨fault, rfl⟩
  | ok accepted =>
      cases whole : accepted.content with
      | error fault =>
          simp only [successful, whole, Except.mapError] at failed
          cases failed
          exact ⟨fault, rfl⟩
      | ok body =>
          simp only [successful, whole, Except.mapError] at failed
          cases failed

theorem http_of_bodyOfOutcome {outcome : Except HttpFault Response} {failure : Failure}
    (failed : bodyOfOutcome outcome = .error failure) : ∃ fault, failure = .http fault := by
  cases outcome with
  | error fault =>
      cases failed
      exact ⟨fault, rfl⟩
  | ok response => exact http_of_bodyOf failed

/-- An attempt without a token that fails has met an HTTP fault. -/
theorem PlainAttempt.http_of_error {text : String} {sent : List Exchange}
    {outcome : Except Failure Octets} {failure : Failure}
    (attempt : PlainAttempt text sent outcome) (failed : outcome = .error failure) :
    ∃ fault, failure = .http fault := by
  cases attempt with
  | unsent fault =>
      cases failed
      exact ⟨fault, rfl⟩
  | sent => exact http_of_bodyOfOutcome failed

end Http
end InstanceScripts
