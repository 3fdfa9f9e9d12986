import InstanceScripts.Proofs.Http.Direct
import InstanceScripts.Proofs.Session.Delivery
import InstanceScripts.Proofs.Text.Decoding
import InstanceScripts.Proofs.Url.Hosted

/-!
# Redirects with and without a token

A redirect in answer to a token is read by a stricter reader than the one of a client that follows
redirects by itself.  Where both read it they agree on its target, and then the token does not
stand in the way of an answer; where the place is not written in ASCII, only the client gets on.
-/

namespace InstanceScripts
namespace Http

/-! ## One answer -/

/-- What a response says about where to look is in ASCII, without control characters except
tabs. -/
def Response.HasReadableLocation (response : Response) : Prop :=
  ∀ location, response.location? = some location →
    ∀ octet ∈ location, octet = 0x09 ∨ (0x20 ≤ octet ∧ octet < 0x7F)

theorem isReadable_iff {octet : UInt8} :
    isReadable octet = true ↔ octet = 0x09 ∨ (0x20 ≤ octet ∧ octet < 0x7F) := by
  simp [isReadable]

/-- A redirect that a client follows says in a text where to look, and a request can name the
place. -/
theorem redirect?_eq_some {response : Response} {target : Url}
    (followed : redirect? response = some target) :
    response.isRedirection = true ∧ isTarget target = true ∧
      ∃ location text, response.location? = some location ∧ Utf8.decode location = .ok text ∧
        Url.resolve response.url text = .ok target := by
  refine ⟨Response.IsFollowed.isRedirection (Option.isSome_iff_exists.mpr ⟨target, followed⟩), ?_⟩
  unfold redirect? at followed
  split at followed
  · cases located : response.location? with
    | none =>
        rw [located] at followed
        cases followed
    | some location =>
        rw [located] at followed
        cases decoded : Utf8.decode location with
        | error defect =>
            simp only [decoded] at followed
            cases followed
        | ok text =>
            simp only [decoded] at followed
            obtain ⟨resolved, possible⟩ := Option.filter_eq_some_iff.mp followed
            cases read : Url.resolve response.url text with
            | error fault =>
                rw [read] at resolved
                cases resolved
            | ok url =>
                rw [read] at resolved
                obtain rfl := Option.some.inj resolved
                exact ⟨possible, location, text, rfl, decoded, read⟩
  · cases followed

/-- Where a client follows a redirect to a place that is readable, it leads there. -/
theorem redirectTarget_of_readable {response : Response} {target : Url}
    (followed : redirect? response = some target) (readable : response.HasReadableLocation) :
    redirectTarget response = .ok (some target) := by
  obtain ⟨redirection, _, location, text, located, decoded, resolved⟩ :=
    redirect?_eq_some followed
  have ascii : location.all isReadable = true :=
    List.all_eq_true.mpr fun octet member =>
      isReadable_iff.mpr (readable location located octet member)
  unfold redirectTarget
  simp only [redirection, Bool.not_true, Bool.false_eq_true, if_false, located, ascii, if_true,
    Utf8.decodeLossy_of_decode decoded, resolved]

/-- Where it follows one to a place that is not readable, that is refused in answer to a token. -/
theorem redirectTarget_of_unreadable {response : Response} {target : Url}
    (followed : redirect? response = some target) (unreadable : ¬response.HasReadableLocation) :
    redirectTarget response = .error .unreadableLocation := by
  obtain ⟨redirection, _, location, text, located, decoded, resolved⟩ :=
    redirect?_eq_some followed
  have foreign : location.all isReadable ≠ true := by
    intro ascii
    refine unreadable fun other found octet member => ?_
    obtain rfl := Option.some.inj (located.symm.trans found)
    exact isReadable_iff.mp (List.all_eq_true.mp ascii octet member)
  unfold redirectTarget
  simp only [redirection, Bool.not_true, Bool.false_eq_true, if_false, located, foreign]

/-! ## Two clients behind it -/

section

variable {network : Network} {draft : Draft} {history : History} {response : Response}

/-- A client that gets an answer in the end gets it at once, or follows a redirect to it. -/
theorem follow_eq_ok {first : Url} {redirects : Nat}
    (ended : (follow network first redirects draft history).1 = .ok response) :
    ∃ reply answer, network draft.request.url (history.count draft.request.url) = reply ∧
      reply.response? draft.url = some answer ∧
      ((redirect? answer = none ∧ answer = response) ∨
        ∃ target fewer, redirect? answer = some target ∧ redirects = fewer + 1 ∧
          isHttp target = true ∧
          (follow network first fewer (draft.redirected target)
            (history ++ [⟨draft.request, reply⟩])).1 = .ok response) := by
  generalize replied : network draft.request.url (history.count draft.request.url) = reply
  cases answered : reply.response? draft.url with
  | none =>
      rw [follow, replied] at ended
      simp only [answered] at ended
      cases ended
  | some answer =>
      refine ⟨reply, answer, rfl, answered, ?_⟩
      cases redirect : redirect? answer with
      | none =>
          rw [follow_answered replied answered redirect] at ended
          exact .inl ⟨rfl, Except.ok.inj ended⟩
      | some target =>
          cases redirects with
          | zero =>
              rw [follow, replied] at ended
              simp only [answered, redirect] at ended
              cases ended
          | succ fewer =>
              by_cases http : isHttp target = true
              · rw [follow_hop replied answered redirect http] at ended
                exact .inr ⟨target, fewer, rfl, rfl, http, ended⟩
              · rw [follow, replied] at ended
                simp only [answered, redirect, http, if_false, Bool.false_eq_true] at ended
                cases ended

/-- Clients that begin with the same URL, after every URL has been asked for as often, get the
same answer if the one that follows fewer redirects gets any. -/
theorem follow_ok_of_ok {first second : Url} {fewer more : Nat} (enough : fewer ≤ more)
    {other : Draft} (same : other.url = draft.url) {later : History}
    (counts : ∀ url, later.count url = history.count url)
    (ended : (follow network first fewer draft history).1 = .ok response) :
    (follow network second more other later).1 = .ok response := by
  induction fewer using Nat.strong_induction_on generalizing more draft other history later with
  | h fewer inductionHypothesis =>
      have asked : other.request.url = draft.request.url := congrArg Url.withoutFragment same
      obtain ⟨reply, answer, replied, answered, course⟩ := follow_eq_ok ended
      rw [← asked, ← counts] at replied
      rw [← same] at answered
      rcases course with ⟨final, rfl⟩ | ⟨target, left, redirect, rfl, http, rest⟩
      · rw [follow_answered replied answered final]
      · obtain ⟨more, rfl⟩ : ∃ less, more = less + 1 :=
          Nat.exists_eq_add_one.mpr (Nat.lt_of_lt_of_le (Nat.zero_lt_succ _) enough)
        have reached : (other.redirected target).url = (draft.redirected target).url := rfl
        have level : ∀ url, History.count (later ++ [⟨other.request, reply⟩]) url =
            History.count (history ++ [⟨draft.request, reply⟩]) url :=
          History.count_append counts asked
        rw [follow_hop replied answered redirect http]
        exact inductionHypothesis left (Nat.lt_succ_self left) (Nat.le_of_succ_le_succ enough)
          reached level rest

end

/-! ## Whole attempts -/

/-- A draft for a URL has the host of that URL, and there is one. -/
theorem ofUrl_host {url : Url} {draft : Draft} (drafted : Draft.ofUrl url = .ok draft) :
    draft.url.host?.isSome = true := by
  have hosted : url.host?.isSome = true := by
    by_contra hostless
    rw [Bool.not_eq_true, Option.isSome_eq_false_iff] at hostless
    rw [Draft.ofUrl, if_pos hostless] at drafted
    cases drafted
  rcases ofUrl_ok drafted with ⟨_, rfl⟩ | ⟨_, _, rfl⟩
  · exact hosted
  · rw [Url.host?_withoutUserinfo]
    exact hosted

/-- A URL with a host and without a user name is asked for as it is. -/
theorem ofUrl_of_anonymous {url : Url} (hosted : url.host?.isSome = true)
    (anonymous : url.hasUserinfo = false) : Draft.ofUrl url = .ok ⟨url, [], false⟩ := by
  have present : ¬url.host?.isNone = true := by
    rwa [Bool.not_eq_true, Option.isNone_eq_false_iff]
  rw [Draft.ofUrl, if_neg present, userinfo?_of_anonymous anonymous]

/-- Without a token, the URL that a text spells is answered by one response, and a client that
follows redirects ends with another. -/
def LeadsOn (network : Network) (text : String) (history : History)
    (first final : Response) : Prop :=
  ∃ draft, Draft.ofText text = .ok draft ∧
    (network draft.request.url (history.count draft.request.url)).response? draft.url =
      some first ∧
    (send network true draft history).1 = .ok final

/-- What a client does that is led on by a redirect. -/
theorem LeadsOn.course {network : Network} {text : String} {history : History}
    {response final : Response} {target : Url} (followed : redirect? response = some target)
    (leads : LeadsOn network text history response final) :
    ∃ draft reply fewer, Draft.ofText text = .ok draft ∧
      (isHttp draft.url = true ∧ isTarget draft.url = true) ∧
      network draft.request.url (history.count draft.request.url) = reply ∧
      reply.response? draft.url = some response ∧ isHttp target = true ∧
      fewer ≤ redirectLimit ∧
      (follow network draft.url fewer (draft.redirected target)
        (history ++ [⟨draft.request, reply⟩])).1 = .ok final := by
  obtain ⟨draft, drafted, answered, ended⟩ := leads
  unfold send at ended
  by_cases possible : isHttp draft.url ∧ isTarget draft.url
  · rw [if_pos possible, if_pos rfl] at ended
    obtain ⟨reply, answer, replied, found, course⟩ := follow_eq_ok ended
    rw [replied] at answered
    obtain rfl : response = answer := Option.some.inj (answered.symm.trans found)
    rcases course with ⟨none, _⟩ | ⟨same, fewer, redirect, limit, http, rest⟩
    · rw [followed] at none
      cases none
    · obtain rfl : target = same := Option.some.inj (followed.symm.trans redirect)
      exact ⟨draft, reply, fewer, drafted, possible, replied, answered, http, by omega, rest⟩
  · rw [if_neg possible] at ended
    cases ended

/-- Where a redirect is followed to an answer without a token, it is with a token, if the place
is readable. -/
theorem fetchWithToken_leadsOn {network : Network} {text token : String} {history : History}
    {response final : Response} {target : Url} (followed : redirect? response = some target)
    (readable : response.HasReadableLocation) (anonymous : target.hasUserinfo = false)
    (legal : token.toList.all Draft.isHeaderChar = true)
    (leads : LeadsOn network text history response final) :
    (fetchWithToken network text token history).1 = bodyOf final := by
  obtain ⟨draft, reply, fewer, drafted, possible, replied, answered, http, enough, rest⟩ :=
    leads.course followed
  obtain ⟨url, _, bare⟩ := ofText_ok drafted
  obtain ⟨_, nameable, _, _, _, _, resolved⟩ := redirect?_eq_some followed
  rw [response_url answered] at resolved
  have hosted := Url.resolve_host (ofUrl_host bare) resolved http
  let presented : Exchange :=
    ⟨⟨draft.url.withoutFragment, draft.credentials ++ [.token token], true⟩, reply⟩
  have asked : send network false ⟨draft.url, draft.credentials ++ [.token token], true⟩ history =
      (.ok response, history ++ [presented]) := by
    unfold send
    rw [if_pos possible, if_neg Bool.false_ne_true, ask]
    simp only [Draft.request] at replied ⊢
    simp only [replied, answered, presented]
  -- The target is asked for like any other URL, with as many redirects left as ever.
  have reached : (send network true ⟨target, [], false⟩ (history ++ [presented])).1 =
      .ok final := by
    have begins : (Draft.mk target [] false).url = (draft.redirected target).url := rfl
    have level : ∀ url, History.count (history ++ [presented]) url =
        History.count (history ++ [⟨draft.request, reply⟩]) url :=
      History.count_append (fun _ => rfl) rfl
    unfold send
    rw [if_pos ⟨http, nameable⟩, if_pos rfl]
    exact follow_ok_of_ok enough begins level rest
  unfold fetchWithToken
  simp only [tokenDraft_of_legal legal drafted]
  rw [asked]
  simp only [redirectTarget_of_readable followed readable, ofUrl_of_anonymous hosted anonymous]
  generalize send network true ⟨target, [], false⟩ (history ++ [presented]) = sent at reached
  obtain ⟨outcome, after⟩ := sent
  cases reached
  rfl

/-- A redirect that a client follows by itself leads to the same target in answer to a token,
if the place is readable: then the attempt with the token brings what one without it brings.
Any other place is refused. -/
theorem redirects_agree (response : Response) (target : Url)
    (followed : redirect? response = some target) :
    (response.HasReadableLocation → redirectTarget response = .ok (some target) ∧
      (target.hasUserinfo = false → ∀ network text token history final,
        token.toList.all Draft.isHeaderChar = true → LeadsOn network text history response final →
          (fetchWithToken network text token history).1 = bodyOf final)) ∧
      (¬response.HasReadableLocation →
        redirectTarget response = .error .unreadableLocation) :=
  ⟨fun readable => ⟨redirectTarget_of_readable followed readable,
    fun anonymous _ _ _ _ _ legal leads =>
      fetchWithToken_leadsOn followed readable anonymous legal leads⟩,
    redirectTarget_of_unreadable followed⟩

/-- The answer with which a server redirects from `/a` to `/b`. -/
def redirecting : Response :=
  ⟨302, Session.onHost ['a'], [("location", [0x2F, 0x62])], [], false⟩

theorem redirecting_leadsOn :
    LeadsOn Session.redirectingNetwork "http://h/a" [] redirecting
      ⟨200, Session.onHost ['b'], [], [0x78], false⟩ := by
  refine ⟨_, ofText_onHost, rfl, ?_⟩
  unfold send
  rw [if_pos (by decide), if_pos rfl, redirectLimit,
    follow_hop rfl rfl Session.redirect_found (by decide), follow_answered rfl rfl (by decide)]
  rfl

/-- That redirect leads to the same target and to the same body with a token. -/
theorem redirecting_agrees :
    redirectTarget redirecting = .ok (some (Session.onHost ['b'])) ∧
      (fetchWithToken Session.redirectingNetwork "http://h/a" "t" []).1 = .ok [0x78] := by
  have readable : redirecting.HasReadableLocation := by
    intro location located octet member
    have written : redirecting.location? = some [0x2F, 0x62] := by
      simp [redirecting, Response.location?, Response.header?, Session.location_toLower]
    obtain rfl := Option.some.inj (written.symm.trans located)
    simp only [List.mem_cons, List.not_mem_nil, or_false] at member
    rcases member with rfl | rfl
    · exact .inr (by decide)
    · exact .inr (by decide)
  obtain ⟨target, body⟩ :=
    (redirects_agree redirecting (Session.onHost ['b']) Session.redirect_found).1 readable
  exact ⟨target, body rfl _ "http://h/a" "t" [] _ (by decide) redirecting_leadsOn⟩

/-! ## A place that is not written in ASCII -/

/-- The answer with which a server redirects from `/a` to `/é`. -/
def accented : Response :=
  ⟨302, Session.onHost ['a'], [("location", [0x2F, 0xC3, 0xA9])], [], false⟩

/-- A network with that server, which answers everything else. -/
def accentedNetwork : Network := fun url _ =>
  if url = Session.onHost ['a'] then .answer 302 [("location", [0x2F, 0xC3, 0xA9])] [] false
  else .answer 200 [] [0x78] false

theorem accented_located : accented.location? = some [0x2F, 0xC3, 0xA9] := by
  simp [accented, Response.location?, Response.header?, Session.location_toLower]

theorem accented_followed : redirect? accented = some (Session.onHost "%C3%A9".toList) := by
  unfold redirect?
  rw [accented_located]
  decide

theorem accented_refused : redirectTarget accented = .error .unreadableLocation := by
  unfold redirectTarget
  rw [accented_located]
  decide

/-- A client that has no token follows the redirect to an answer; with a token there is none. -/
theorem accented_lost :
    redirect? accented = some (Session.onHost "%C3%A9".toList) ∧
      redirectTarget accented = .error .unreadableLocation ∧
      LeadsOn accentedNetwork "http://h/a" [] accented
        ⟨200, Session.onHost "%C3%A9".toList, [], [0x78], false⟩ ∧
      (fetchWithToken accentedNetwork "http://h/a" "t" []).1 =
        .error (.invalidData .unreadableLocation) := by
  refine ⟨accented_followed, accented_refused, ⟨_, ofText_onHost, rfl, ?_⟩, ?_⟩
  · unfold send
    rw [if_pos (by decide), if_pos rfl, redirectLimit,
      follow_hop rfl rfl accented_followed (by decide), follow_answered rfl rfl (by decide)]
    rfl
  · have drafted : tokenDraft "http://h/a" "t" =
        .ok ⟨Session.onHost ['a'], [.token "t"], true⟩ :=
      tokenDraft_of_legal (by decide) ofText_onHost
    have asked : send accentedNetwork false ⟨Session.onHost ['a'], [.token "t"], true⟩ [] =
        (.ok accented, [⟨⟨Session.onHost ['a'], [.token "t"], true⟩,
          .answer 302 [("location", [0x2F, 0xC3, 0xA9])] [] false⟩]) := by
      unfold send
      rw [if_pos (by decide), if_neg Bool.false_ne_true]
      rfl
    simp only [fetchWithToken, drafted, asked, accented_refused]

end Http
end InstanceScripts
