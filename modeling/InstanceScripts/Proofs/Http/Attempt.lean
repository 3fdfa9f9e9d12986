import InstanceScripts.Proofs.Http.Chain
import InstanceScripts.Proofs.Retry.Loop
import InstanceScripts.Proofs.Staging.Reservation
import InstanceScripts.Session.Download

/-!
# Attempts to download

One attempt without a token is a chain of requests; one with a token is a single request
that presents it, and a chain without it if the answer redirects.  A download is a
sequence of attempts of which all but the last have failed.
-/

namespace InstanceScripts
namespace Http

/-! ## Sending -/

/-- A client that follows redirects sends nothing or a chain. -/
theorem send_following (network : Network) (draft : Draft) (history : History) :
    (∃ fault, fault.IsStatusless ∧
        send network true draft history = (.error fault, history)) ∨
      ∃ chain, Chain draft chain (send network true draft history).1 ∧
        (send network true draft history).2 = history ++ chain := by
  unfold send
  by_cases possible : isHttp draft.url ∧ isTarget draft.url
  · rw [if_pos possible]
    exact .inr (follow_chain network draft.url redirectLimit draft history)
  · rw [if_neg possible]
    exact .inl ⟨.unsupported draft.url.render, rfl, rfl⟩

/-- A client that does not follow redirects sends nothing for a URL that cannot be asked for,
and one request otherwise. -/
theorem send_asking (network : Network) (draft : Draft) (history : History) :
    (¬(isHttp draft.url = true ∧ isTarget draft.url = true) ∧
        ∃ fault, fault.IsStatusless ∧
          send network false draft history = (.error fault, history)) ∨
      (isHttp draft.url = true ∧ isTarget draft.url = true) ∧
        ∃ reply, (send network false draft history).2 = history ++ [⟨draft.request, reply⟩] ∧
          ((∃ fault, fault.IsStatusless ∧ reply.response? draft.url = none ∧
              (send network false draft history).1 = .error fault) ∨
            ∃ response, reply.response? draft.url = some response ∧
              (send network false draft history).1 = .ok response) := by
  unfold send
  by_cases possible : isHttp draft.url ∧ isTarget draft.url
  · rw [if_pos possible]
    simp only [Bool.false_eq_true, if_false, ask]
    generalize network draft.request.url (history.count draft.request.url) = reply
    refine .inr ⟨possible, reply, ?_, ?_⟩
    · cases reply.response? draft.url <;> rfl
    · cases answer : reply.response? draft.url with
      | none => exact .inl ⟨.unanswered draft.url.render, rfl, rfl, rfl⟩
      | some response => exact .inr ⟨response, rfl, rfl⟩
  · rw [if_neg possible]
    exact .inl ⟨possible, .unsupported draft.url.render, rfl, rfl⟩

/-! ## Drafts that cannot be made up -/

theorem ofUrl_statusless
    {url : Url} {fault : HttpFault} (failed : Draft.ofUrl url = .error fault) :
    fault.IsStatusless := by
  unfold Draft.ofUrl at failed
  split at failed
  · cases failed
    rfl
  · split at failed <;> cases failed

theorem ofText_statusless
    {text : String} {fault : HttpFault} (failed : Draft.ofText text = .error fault) :
    fault.IsStatusless := by
  unfold Draft.ofText at failed
  split at failed
  · exact ofUrl_statusless failed
  · cases failed
    rfl

/-- A draft for a URL carries its user name and password, if there are any. -/
theorem ofUrl_ok
    {url : Url} {draft : Draft} (drafted : Draft.ofUrl url = .ok draft) :
    (Draft.userinfo? url = none ∧ draft = ⟨url, [], false⟩) ∨
      ∃ info, Draft.userinfo? url = some info ∧
        draft = ⟨url.withoutUserinfo, [.basic info], false⟩ := by
  unfold Draft.ofUrl at drafted
  split at drafted
  · cases drafted
  · cases carried : Draft.userinfo? url with
    | none =>
        rw [carried] at drafted
        cases drafted
        exact .inl ⟨rfl, rfl⟩
    | some info =>
        rw [carried] at drafted
        cases drafted
        exact .inr ⟨info, rfl, rfl⟩

theorem ofText_ok
    {text : String} {draft : Draft} (drafted : Draft.ofText text = .ok draft) :
    ∃ url, Url.parse text = .ok url ∧ Draft.ofUrl url = .ok draft := by
  unfold Draft.ofText at drafted
  split at drafted
  · next url parsed => exact ⟨url, parsed, drafted⟩
  · cases drafted

/-- A draft for a URL makes a plain request. -/
theorem ofUrl_plain
    {url : Url} {draft : Draft} (drafted : Draft.ofUrl url = .ok draft) :
    draft.request.IsPlain := by
  rcases ofUrl_ok drafted with ⟨_, rfl⟩ | ⟨info, _, rfl⟩
  · exact ⟨rfl, rfl⟩
  · exact ⟨rfl, rfl⟩

theorem ofText_plain
    {text : String} {draft : Draft} (drafted : Draft.ofText text = .ok draft) :
    draft.request.IsPlain := by
  obtain ⟨url, _, drafted⟩ := ofText_ok drafted
  exact ofUrl_plain drafted

/-- A draft with a token is the draft for its URL, with the token behind what is there. -/
theorem tokenDraft_ok
    {text token : String} {draft : Draft} (drafted : tokenDraft text token = .ok draft) :
    ∃ plain, Draft.ofText text = .ok plain ∧
      draft = ⟨plain.url, plain.credentials ++ [.token token], true⟩ := by
  unfold tokenDraft at drafted
  cases plain : Draft.ofText text with
  | error fault => simp [plain, Except.bind] at drafted
  | ok bare =>
      simp only [plain, Except.bind, Draft.withToken] at drafted
      split at drafted
      · cases drafted
        exact ⟨bare, rfl, rfl⟩
      · cases drafted

theorem tokenDraft_statusless
    {text token : String} {fault : HttpFault} (failed : tokenDraft text token = .error fault) :
    fault.IsStatusless := by
  unfold tokenDraft at failed
  cases plain : Draft.ofText text with
  | error reason =>
      simp only [plain, Except.bind, Except.error.injEq] at failed
      exact failed ▸ ofText_statusless plain
  | ok bare =>
      simp only [plain, Except.bind, Draft.withToken] at failed
      split at failed <;> cases failed
      rfl

/-! ## One attempt -/

/-- The body that comes of an answer, or of its absence. -/
def bodyOfOutcome : Except HttpFault Response → Except Failure Octets
  | .error fault => .error (.http fault)
  | .ok response => bodyOf response

/-- The exchanges of one attempt without a token, and what comes of it. -/
inductive PlainAttempt (text : String) : List Exchange → Except Failure Octets → Prop
  | unsent (fault : HttpFault) (statusless : fault.IsStatusless) :
      PlainAttempt text [] (.error (.http fault))
  | sent (draft : Draft) (chain : List Exchange) (outcome : Except HttpFault Response)
      (drafted : Draft.ofText text = .ok draft) (followed : Chain draft chain outcome) :
      PlainAttempt text chain (bodyOfOutcome outcome)

/-- A request for a URL can present a token: a header can hold the token, and the URL can be
asked for. -/
def Presentable (text token : String) : Prop :=
  ∃ draft, tokenDraft text token = .ok draft ∧ isHttp draft.url = true ∧ isTarget draft.url = true

/-- The exchanges of one attempt with a token, and what comes of it. -/
inductive TokenAttempt (text token : String) :
    List Exchange → Except Failure Octets → Prop
  | unsent (fault : HttpFault) (statusless : fault.IsStatusless)
      (unpresentable : ¬Presentable text token) :
      TokenAttempt text token [] (.error (.http fault))
  | broken (draft : Draft) (reply : Reply) (fault : HttpFault)
      (drafted : tokenDraft text token = .ok draft) (statusless : fault.IsStatusless)
      (unfinished : ∀ response, reply.response? draft.url = some response →
        ∃ target, redirectTarget response = .ok (some target))
      (presentable : Presentable text token) :
      TokenAttempt text token [⟨draft.request, reply⟩] (.error (.http fault))
  | misdirected (draft : Draft) (reply : Reply) (response : Response) (fault : DataFault)
      (drafted : tokenDraft text token = .ok draft)
      (answer : reply.response? draft.url = some response)
      (refused : redirectTarget response = .error fault) (presentable : Presentable text token) :
      TokenAttempt text token [⟨draft.request, reply⟩] (.error (.invalidData fault))
  | answered (draft : Draft) (reply : Reply) (response : Response)
      (drafted : tokenDraft text token = .ok draft)
      (answer : reply.response? draft.url = some response)
      (final : redirectTarget response = .ok none) (presentable : Presentable text token) :
      TokenAttempt text token [⟨draft.request, reply⟩] (bodyOf response)
  | redirected (draft : Draft) (reply : Reply) (response : Response) (target : Url)
      (next : Draft) (chain : List Exchange) (outcome : Except HttpFault Response)
      (drafted : tokenDraft text token = .ok draft)
      (answer : reply.response? draft.url = some response)
      (redirect : redirectTarget response = .ok (some target))
      (redrafted : Draft.ofUrl target = .ok next) (followed : Chain next chain outcome)
      (presentable : Presentable text token) :
      TokenAttempt text token (⟨draft.request, reply⟩ :: chain) (bodyOfOutcome outcome)

theorem bodyOf_ok
    {response : Response} {body : Octets} (whole : bodyOf response = .ok body) :
    response.content = .ok body := by
  unfold bodyOf Response.successful at whole
  by_cases failed : 400 ≤ response.status ∧ response.status < 600
  · simp [failed] at whole
  · simp only [failed, if_false] at whole
    cases content : response.content with
    | error fault => simp [content, Except.mapError] at whole
    | ok octets => simpa [content, Except.mapError] using whole

/-- A body that comes of a chain is the whole body of its last exchange. -/
theorem Chain.body
    {draft : Draft} {chain : List Exchange} {outcome : Except HttpFault Response}
    {body : Octets} (followed : Chain draft chain outcome)
    (delivered : bodyOfOutcome outcome = .ok body) :
    lastBody? chain = some body := by
  cases outcome with
  | error fault => cases delivered
  | ok response => exact followed.content (bodyOf_ok delivered)

/-- A body that an attempt delivers is the whole body of its last exchange. -/
theorem PlainAttempt.body
    {text : String} {sent : List Exchange} {outcome : Except Failure Octets} {body : Octets}
    (attempt : PlainAttempt text sent outcome) (delivered : outcome = .ok body) :
    lastBody? sent = some body := by
  cases attempt with
  | unsent => cases delivered
  | sent draft _ answer drafted followed => exact followed.body delivered

theorem TokenAttempt.body
    {text token : String} {sent : List Exchange} {outcome : Except Failure Octets}
    {body : Octets} (attempt : TokenAttempt text token sent outcome)
    (delivered : outcome = .ok body) :
    lastBody? sent = some body := by
  cases attempt with
  | unsent => cases delivered
  | broken => cases delivered
  | misdirected => cases delivered
  | answered draft reply response drafted answer final =>
      exact wholeBody?_of_draft answer (bodyOf_ok delivered)
  | redirected draft reply response target next chain answer drafted _ redirect redrafted
      followed =>
      exact lastBody?_append (followed.body delivered) [⟨draft.request, reply⟩]

/-- A chain that begins with a plain request consists of plain requests. -/
theorem Chain.plain
    {draft : Draft} {chain : List Exchange} {outcome : Except HttpFault Response}
    (followed : Chain draft chain outcome) (bare : draft.request.IsPlain)
    {exchange : Exchange} (member : exchange ∈ chain) : exchange.request.IsPlain :=
  ⟨(followed.flavored exchange member).trans bare.1, followed.tokens_nil bare.2 member⟩

/-- An attempt without a token consists of plain requests. -/
theorem PlainAttempt.plain
    {text : String} {sent : List Exchange} {outcome : Except Failure Octets}
    (attempt : PlainAttempt text sent outcome) {exchange : Exchange} (member : exchange ∈ sent) :
    exchange.request.IsPlain := by
  cases attempt with
  | unsent => cases member
  | sent draft _ answer drafted followed => exact followed.plain (ofText_plain drafted) member

/-- An attempt with a token consists of requests that present exactly this token, and of
plain ones. -/
theorem TokenAttempt.tokens
    {text token : String} {sent : List Exchange} {outcome : Except Failure Octets}
    (attempt : TokenAttempt text token sent outcome) {exchange : Exchange}
    (member : exchange ∈ sent) :
    (exchange.request.flavored = true ∧ exchange.request.tokens = [token]) ∨
      exchange.request.IsPlain := by
  have presented {draft : Draft} (drafted : tokenDraft text token = .ok draft) :
      draft.request.flavored = true ∧ draft.request.tokens = [token] := by
    obtain ⟨plain, bare, rfl⟩ := tokenDraft_ok drafted
    refine ⟨rfl, ?_⟩
    have none : plain.request.tokens = [] := (ofText_plain bare).2
    simp only [Request.tokens, Draft.request, List.filterMap_append] at none ⊢
    rw [none]
    rfl
  cases attempt with
  | unsent => cases member
  | broken draft reply fault drafted =>
      rw [List.mem_singleton.mp member]
      exact .inl (presented drafted)
  | misdirected draft reply response fault drafted =>
      rw [List.mem_singleton.mp member]
      exact .inl (presented drafted)
  | answered draft reply response drafted =>
      rw [List.mem_singleton.mp member]
      exact .inl (presented drafted)
  | redirected draft reply response target next chain answer drafted _ redirect redrafted
      followed =>
      rcases List.mem_cons.mp member with rfl | later
      · exact .inl (presented drafted)
      · exact .inr (followed.plain (ofUrl_plain redrafted) later)

/-- Asking once without a token adds an attempt to the history.  The file reserved last
gets the body if one comes, and stays as it is otherwise. -/
theorem fetchToFile_attempt
    (network : Network) (text directory : String) (history : History) (area : Staging.Area)
    (old : Octets) :
    ∃ sent,
      (∃ failure, PlainAttempt text sent (.error failure) ∧
        fetchToFile network text area.files.length (history, area.withFile directory old) =
          (.error failure, history ++ sent, area.withFile directory old)) ∨
      ∃ body, PlainAttempt text sent (.ok body) ∧
        fetchToFile network text area.files.length (history, area.withFile directory old) =
          (.ok (), history ++ sent, area.withFile directory body) := by
  cases drafted : Draft.ofText text with
  | error fault =>
      refine ⟨[], .inl ⟨.http fault, .unsent fault (ofText_statusless drafted), ?_⟩⟩
      simp [fetchToFile, drafted]
  | ok draft =>
      rcases send_following network draft history with
        ⟨fault, statusless, unsent⟩ | ⟨chain, followed, sent⟩
      · refine ⟨[], .inl ⟨.http fault, .unsent fault statusless, ?_⟩⟩
        simp [fetchToFile, drafted, unsent]
      rcases asked : send network true draft history with ⟨answer, after⟩
      rw [asked] at followed sent
      dsimp only at followed sent
      subst sent
      have attempt := PlainAttempt.sent draft chain answer drafted followed
      refine ⟨chain, ?_⟩
      cases answer with
      | error fault =>
          exact .inl ⟨.http fault, attempt, by simp only [fetchToFile, drafted, asked]⟩
      | ok response =>
          cases delivered : bodyOf response with
          | error failure =>
              simp only [bodyOfOutcome, delivered] at attempt
              exact .inl ⟨failure, attempt, by
                simp only [fetchToFile, drafted, asked, delivered]⟩
          | ok body =>
              simp only [bodyOfOutcome, delivered] at attempt
              exact .inr ⟨body, attempt, by
                simp only [fetchToFile, drafted, asked, delivered, Staging.Area.write_withFile]⟩

/-- Asking without a token for the target of a redirect gives nothing or the rest of an
attempt. -/
theorem redirected_attempt
    (network : Network) {text token : String} {draft : Draft} {reply : Reply}
    {response : Response} {target : Url} {next : Draft} (history : History)
    (drafted : tokenDraft text token = .ok draft)
    (answer : reply.response? draft.url = some response)
    (redirect : redirectTarget response = .ok (some target))
    (redrafted : Draft.ofUrl target = .ok next) (presentable : Presentable text token) :
    ∃ chain,
      TokenAttempt text token (⟨draft.request, reply⟩ :: chain)
        (bodyOfOutcome (send network true next history).1) ∧
      (send network true next history).2 = history ++ chain := by
  rcases send_following network next history with
    ⟨fault, statusless, unsent⟩ | ⟨chain, followed, sent⟩
  · refine ⟨[], ?_, by simp [unsent]⟩
    rw [unsent]
    refine .broken draft reply fault drafted statusless (fun other same => ?_) presentable
    rw [answer] at same
    cases same
    exact ⟨target, redirect⟩
  · exact ⟨chain,
      .redirected draft reply response target next chain _ drafted answer redirect redrafted
        followed presentable, sent⟩

/-- Asking once with a token adds an attempt to the history. -/
theorem fetchWithToken_attempt
    (network : Network) (text token : String) (history : History) :
    ∃ sent, TokenAttempt text token sent (fetchWithToken network text token history).1 ∧
      (fetchWithToken network text token history).2 = history ++ sent := by
  cases drafted : tokenDraft text token with
  | error fault =>
      simp only [fetchWithToken, drafted]
      exact ⟨[], .unsent fault (tokenDraft_statusless drafted) (by simp [Presentable, drafted]),
        by simp⟩
  | ok draft =>
      rcases asked : send network false draft history with ⟨answer, after⟩
      rcases send_asking network draft history with
        ⟨impossible, fault, statusless, unsent⟩ | ⟨possible, reply, sent, outcome⟩
      · simp only [fetchWithToken, drafted, unsent]
        refine ⟨[], .unsent fault statusless ?_, by simp⟩
        simpa [Presentable, drafted] using impossible
      have presentable : Presentable text token := ⟨draft, drafted, possible⟩
      rw [asked] at sent outcome
      dsimp only at sent outcome
      subst sent
      rcases outcome with ⟨fault, statusless, unanswered, rfl⟩ | ⟨response, answered, rfl⟩
      · simp only [fetchWithToken, drafted, asked]
        exact ⟨_, .broken draft reply fault drafted statusless (by simp [unanswered]) presentable,
          rfl⟩
      cases redirect : redirectTarget response with
      | error fault =>
          simp only [fetchWithToken, drafted, asked, redirect]
          exact ⟨_, .misdirected draft reply response fault drafted answered redirect presentable,
            rfl⟩
      | ok target? =>
          cases target? with
          | none =>
              simp only [fetchWithToken, drafted, asked, redirect]
              exact ⟨_, .answered draft reply response drafted answered redirect presentable, rfl⟩
          | some target =>
              cases redrafted : Draft.ofUrl target with
              | error fault =>
                  simp only [fetchWithToken, drafted, asked, redirect, redrafted]
                  exact ⟨_, .broken draft reply fault drafted (ofUrl_statusless redrafted)
                    (by simp [answered, redirect]) presentable, rfl⟩
              | ok next =>
                  obtain ⟨chain, attempt, sent⟩ :=
                    redirected_attempt network
                      (history ++ [⟨draft.request, reply⟩]) drafted answered redirect redrafted
                      presentable
                  rcases followed : send network true next (history ++ [⟨draft.request, reply⟩])
                    with ⟨final, ending⟩
                  rw [followed] at attempt sent
                  refine ⟨⟨draft.request, reply⟩ :: chain, ?_, ?_⟩
                  · cases final <;>
                      simpa only [fetchWithToken, drafted, asked, redirect, redrafted, followed,
                        bodyOfOutcome] using attempt
                  · cases final <;>
                      simpa [fetchWithToken, drafted, asked, redirect, redrafted, followed]
                        using sent

/-! ## Retried attempts -/

/-- The exchanges of attempts of which all but the last failed in a way that can be
retried, and what comes of the last one.  Only such a failure spends the whole budget. -/
inductive Retried (attempt : List Exchange → Except Failure Octets → Prop) (budget : Nat) :
    List Exchange → Except Failure Octets → Prop
  | intro (failed : List (List Exchange)) (last : List Exchange)
      (outcome : Except Failure Octets) (few : failed.length < budget)
      (failures : ∀ exchanges ∈ failed, ∃ failure, failure.isTransient = true ∧
        attempt exchanges (.error failure))
      (ends : attempt last outcome)
      (exhausted : ∀ failure, outcome = .error failure → failure.isTransient = true →
        failed.length + 1 = budget) :
      Retried attempt budget (failed.flatten ++ last) outcome

/-- What holds of all exchanges of every single attempt holds of all exchanges. -/
theorem Retried.forall_mem
    {attempt : List Exchange → Except Failure Octets → Prop} {budget : Nat}
    {sent : List Exchange} {outcome : Except Failure Octets} {holds : Exchange → Prop}
    (retried : Retried attempt budget sent outcome)
    (single : ∀ exchanges result, attempt exchanges result →
      ∀ exchange ∈ exchanges, holds exchange) :
    ∀ exchange ∈ sent, holds exchange := by
  obtain ⟨failed, last, _, few, failures, ends, exhausted⟩ := retried
  intro exchange member
  rcases List.mem_append.mp member with early | late
  · obtain ⟨exchanges, chosen, inside⟩ := List.mem_flatten.mp early
    obtain ⟨failure, _, attempted⟩ := failures exchanges chosen
    exact single exchanges _ attempted exchange inside
  · exact single last outcome ends exchange late

/-- A body that comes of retried attempts is that of the last answer, if it is so for every
single attempt. -/
theorem Retried.body
    {attempt : List Exchange → Except Failure Octets → Prop} {budget : Nat}
    {sent : List Exchange} {body : Octets} (retried : Retried attempt budget sent (.ok body))
    (single : ∀ exchanges, attempt exchanges (.ok body) → lastBody? exchanges = some body) :
    lastBody? sent = some body := by
  obtain ⟨failed, last, _, few, failures, ends, exhausted⟩ := retried
  exact lastBody?_append (single last ends) failed.flatten

/-- Retrying an operation of which every failure adds a failed attempt to the history: so
do all attempts before the last. -/
theorem run_failures
    {σ α : Type} (policy : Retry.Policy) (operation : σ → Except Failure α × σ)
    (attempt : List Exchange → Except Failure Octets → Prop) (stateAt : History → σ)
    (fails : ∀ history failure after, operation (stateAt history) = (.error failure, after) →
      ∃ sent, attempt sent (.error failure) ∧ after = stateAt (history ++ sent))
    (history : History) :
    ∃ failed : List (List Exchange), failed.length < policy.budget ∧
      (∀ exchanges ∈ failed, ∃ failure : Failure, failure.isTransient = true ∧
        attempt exchanges (.error failure)) ∧
      operation (stateAt (history ++ failed.flatten)) =
        ((policy.run Failure.isTransient operation (stateAt history)).outcome,
          (policy.run Failure.isTransient operation (stateAt history)).state) ∧
      ∀ failure : Failure,
        (policy.run Failure.isTransient operation (stateAt history)).outcome = .error failure →
        failure.isTransient = true → failed.length + 1 = policy.budget := by
  obtain ⟨count, last, few, ⟨failed, length_eq, failures, rfl⟩, ends, exhausted⟩ :=
    policy.run_ends Failure.isTransient operation
      (fun count state => ∃ failed : List (List Exchange), failed.length = count ∧
        (∀ exchanges ∈ failed, ∃ failure : Failure, failure.isTransient = true ∧
          attempt exchanges (.error failure)) ∧
        state = stateAt (history ++ failed.flatten))
      (by
        rintro count before failure after ⟨failed, length_eq, failures, rfl⟩ failing retryable
        obtain ⟨sent, attempted, grown⟩ := fails (history ++ failed.flatten) failure after failing
        refine ⟨failed ++ [sent], by simp [length_eq], ?_, by simpa using grown⟩
        intro exchanges member
        rcases List.mem_append.mp member with earlier | same
        · exact failures exchanges earlier
        · rw [List.mem_singleton.mp same]
          exact ⟨failure, retryable, attempted⟩)
      (stateAt history) ⟨[], rfl, by simp, by simp⟩
  subst length_eq
  exact ⟨failed, few, failures, ends, exhausted⟩

/-- Asking again and again with a token adds retried attempts to the history. -/
theorem run_fetchWithToken
    (policy : Retry.Policy) (network : Network) (text token : String) (history : History) :
    ∃ sent,
      Retried (TokenAttempt text token) policy.budget sent
        (policy.run Failure.isTransient (fetchWithToken network text token) history).outcome ∧
      (policy.run Failure.isTransient (fetchWithToken network text token) history).state =
        history ++ sent := by
  have once (history : History) := fetchWithToken_attempt network text token history
  obtain ⟨failed, few, failures, ends, exhausted⟩ :=
    run_failures policy (fetchWithToken network text token) (TokenAttempt text token)
      id (by
        intro history failure after failing
        obtain ⟨sent, attempted, grown⟩ := once history
        rw [id, failing] at *
        exact ⟨sent, attempted, grown⟩)
      history
  obtain ⟨sent, attempted, grown⟩ := once (history ++ failed.flatten)
  rw [id, id] at ends
  rw [ends] at attempted grown
  exact ⟨failed.flatten ++ sent, .intro failed sent _ few failures attempted exhausted,
    by simpa using grown⟩

/-- Asking again and again without a token adds retried attempts to the history, and the
file reserved last ends up with the body that comes of them, if one does. -/
theorem run_fetchToFile
    (policy : Retry.Policy) (network : Network) (text directory : String) (history : History)
    (area : Staging.Area) :
    ∃ sent,
      let run := policy.run Failure.isTransient (fetchToFile network text area.files.length)
        (history, area.withFile directory [])
      (∃ failure, Retried (PlainAttempt text) policy.budget sent (.error failure) ∧
        run.outcome = .error failure ∧
        run.state = (history ++ sent, area.withFile directory [])) ∨
      ∃ body, Retried (PlainAttempt text) policy.budget sent (.ok body) ∧
        run.outcome = .ok () ∧ run.state = (history ++ sent, area.withFile directory body) := by
  have once (history : History) := fetchToFile_attempt network text directory history area []
  obtain ⟨failed, few, failures, ends, exhausted⟩ :=
    run_failures policy (fetchToFile network text area.files.length)
      (PlainAttempt text) (fun history => (history, area.withFile directory []))
      (by
        intro history failure after failing
        obtain ⟨sent, ⟨reason, attempted, shown⟩ | ⟨body, _, shown⟩⟩ := once history
        · rw [failing] at shown
          cases shown
          exact ⟨sent, attempted, rfl⟩
        · rw [failing] at shown
          cases shown)
      history
  obtain ⟨sent, ⟨failure, attempted, shown⟩ | ⟨body, attempted, shown⟩⟩ :=
    once (history ++ failed.flatten)
  · rw [ends] at shown
    obtain ⟨outcome_eq, state_eq⟩ := Prod.mk.inj shown
    refine ⟨failed.flatten ++ sent, .inl ⟨failure, ?_, outcome_eq, by simpa using state_eq⟩⟩
    refine .intro failed sent _ few failures attempted ?_
    intro final same retryable
    cases same
    exact exhausted failure outcome_eq retryable
  · rw [ends] at shown
    obtain ⟨outcome_eq, state_eq⟩ := Prod.mk.inj shown
    refine ⟨failed.flatten ++ sent, .inr ⟨body, ?_, outcome_eq, by simpa using state_eq⟩⟩
    exact .intro failed sent _ few failures attempted (by simp)

end Http
end InstanceScripts
