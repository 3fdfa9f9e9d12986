import InstanceScripts.Proofs.Http.Attempt

/-!
# The last answer

What comes of an attempt is decided by its last answer.  If that reports an error, the attempt
fails with its status, and a body that is delivered is the body of an answer that reports none.
-/

namespace InstanceScripts

/-- The HTTP status of the failure in an outcome, if it is a failure that has one. -/
def Failure.statusIn? {α : Type} (outcome : Except Failure α) : Option Nat :=
  match outcome with
  | .error failure => failure.status?
  | .ok _ => none

@[simp] theorem Failure.statusIn?_ok {α : Type} (value : α) :
    Failure.statusIn? (.ok value) = none := rfl

@[simp] theorem Failure.statusIn?_error {α : Type} (failure : Failure) :
    Failure.statusIn? (.error failure : Except Failure α) = failure.status? := rfl

/-- Only a failure has a status. -/
theorem Failure.exists_of_statusIn? {α : Type} {outcome : Except Failure α} {code : Nat}
    (reported : Failure.statusIn? outcome = some code) :
    ∃ failure, outcome = .error failure := by
  cases outcome with
  | error failure => exact ⟨failure, rfl⟩
  | ok value => cases reported

namespace Http

/-! ## Statuses -/

/-- Statuses that report an error. -/
def isErrorStatus (status : Nat) : Bool :=
  400 ≤ status && status < 600

/-- The status of the answer in an exchange, if one came. -/
def Exchange.status? (exchange : Exchange) : Option Nat :=
  exchange.response?.map (·.status)

/-- The status of the last answer among some exchanges, if the last request was answered. -/
def lastStatus? (sent : List Exchange) : Option Nat :=
  sent.getLast?.bind Exchange.status?

@[simp] theorem lastStatus?_singleton (exchange : Exchange) :
    lastStatus? [exchange] = exchange.status? := rfl

/-- Exchanges before the last one have no part in its status. -/
theorem lastStatus?_append (earlier : List Exchange) {sent : List Exchange} (some : sent ≠ []) :
    lastStatus? (earlier ++ sent) = lastStatus? sent := by
  unfold lastStatus?
  rw [List.getLast?_append, List.getLast?_eq_some_getLast some, Option.some_or]

theorem lastStatus?_cons (first : Exchange) {sent : List Exchange} (some : sent ≠ []) :
    lastStatus? (first :: sent) = lastStatus? sent :=
  lastStatus?_append [first] some

/-- The status of an answer does not depend on the fragment of the URL that is asked for. -/
theorem status?_of_draft (draft : Draft) (reply : Reply) :
    (Exchange.mk draft.request reply).status? = (reply.response? draft.url).map (·.status) := by
  unfold Exchange.status? Exchange.response?
  cases answered : reply.response? draft.url with
  | some response =>
      rw [response?_at answered]
      rfl
  | none =>
      cases moved : reply.response? draft.request.url with
      | none => rfl
      | some response =>
          rw [response?_at moved] at answered
          cases answered

/-! ## Redirections -/

/-- An answer that a client follows to another place. -/
def Response.IsFollowed (response : Response) : Prop :=
  (redirect? response).isSome = true

/-- The answer in an exchange redirects to a place that can be asked for without a token. -/
def Exchange.IsRedirected (exchange : Exchange) : Prop :=
  ∃ response target, exchange.response? = some response ∧
    redirectTarget response = .ok (some target)

theorem Response.IsFollowed.isRedirection {response : Response} (followed : response.IsFollowed) :
    response.isRedirection = true := by
  obtain ⟨target, found⟩ := Option.isSome_iff_exists.mp followed
  unfold redirect? at found
  split at found
  · next redirects =>
      have listed : response.status ∈ [301, 302, 303, 307, 308] :=
        List.contains_iff_mem.mp redirects
      simp only [List.mem_cons, List.not_mem_nil, or_false] at listed
      simp only [Response.isRedirection, Bool.and_eq_true, decide_eq_true_eq]
      omega
  · cases found

/-- Redirections report no error. -/
theorem isErrorStatus_of_isRedirection {response : Response}
    (redirection : response.isRedirection = true) : isErrorStatus response.status = false := by
  simp only [Response.isRedirection, Bool.and_eq_true, decide_eq_true_eq] at redirection
  simp only [isErrorStatus, Bool.and_eq_false_iff, decide_eq_false_iff_not]
  omega

/-- A response has a target, or none that can be read, only if it is a redirection. -/
theorem isRedirection_of_redirectTarget {response : Response}
    (directed : redirectTarget response ≠ .ok none) : response.isRedirection = true := by
  by_contra other
  rw [Bool.not_eq_true] at other
  exact directed (by simp [redirectTarget, other])

theorem redirectTarget_none {response : Response}
    (final : redirectTarget response = .ok none) : response.isRedirection = false := by
  unfold redirectTarget at final
  cases redirection : response.isRedirection with
  | false => rfl
  | true =>
      rw [redirection, Bool.not_true, if_neg Bool.false_ne_true] at final
      split at final
      · cases final
      · split at final
        · dsimp only at final
          split at final <;> cases final
        · cases final

/-! ## Failures with a status -/

/-- Of what can go wrong with an answer, only an error status is a status. -/
theorem statusIn?_bodyOf (response : Response) :
    Failure.statusIn? (bodyOf response) = (some response.status).filter isErrorStatus := by
  unfold bodyOf Response.successful
  by_cases failed : 400 ≤ response.status ∧ response.status < 600
  · have reported : isErrorStatus response.status = true := by
      simpa [isErrorStatus] using failed
    rw [if_pos failed, Option.filter_some_pos reported]
    rfl
  · have accepted : isErrorStatus response.status = false := by
      simpa [isErrorStatus] using failed
    rw [if_neg failed, Option.filter_some_neg (by simp [accepted])]
    dsimp only
    unfold Response.content
    cases response.truncated with
    | true => rfl
    | false => rfl

/-- Exchanges whose answer leads elsewhere report no error. -/
theorem filter_status?_of_draft
    {draft : Draft} {reply : Reply}
    (leads : ∀ response, reply.response? draft.url = some response →
      response.isRedirection = true) :
    (Exchange.mk draft.request reply).status?.filter isErrorStatus = none := by
  rw [status?_of_draft]
  cases answered : reply.response? draft.url with
  | none => rfl
  | some response =>
      have accepted := isErrorStatus_of_isRedirection (leads response answered)
      exact Option.filter_some_neg (by simp [accepted])

/-- The failure of a chain has the status of its last answer if that is an error. -/
theorem Chain.status
    {draft : Draft} {chain : List Exchange} {outcome : Except HttpFault Response}
    (followed : Chain draft chain outcome) :
    Failure.statusIn? (bodyOfOutcome outcome) = (lastStatus? chain).filter isErrorStatus := by
  induction followed with
  | broken draft reply fault statusless unfinished =>
      rw [lastStatus?_singleton, filter_status?_of_draft fun response answered =>
        Response.IsFollowed.isRedirection (unfinished response answered)]
      exact statusless
  | answered draft reply response answer final =>
      rw [lastStatus?_singleton, status?_of_draft, answer]
      exact statusIn?_bodyOf response
  | hop draft reply response target rest outcome answer redirect followed inductionHypothesis =>
      obtain ⟨next, later, rfl⟩ := followed.head
      rw [inductionHypothesis, lastStatus?_cons _ (List.cons_ne_nil _ _)]

/-- The failure of an attempt with a token has the status of its last answer if that is an
error, whether the answer is to the request with the token or to one behind a redirect. -/
theorem TokenAttempt.status
    {text token : String} {sent : List Exchange} {outcome : Except Failure Octets}
    (attempt : TokenAttempt text token sent outcome) :
    Failure.statusIn? outcome = (lastStatus? sent).filter isErrorStatus := by
  cases attempt with
  | unsent fault statusless => exact statusless
  | broken draft reply fault drafted statusless unfinished =>
      rw [lastStatus?_singleton, filter_status?_of_draft]
      · exact statusless
      · intro response answered
        obtain ⟨target, redirect⟩ := unfinished response answered
        exact isRedirection_of_redirectTarget (by simp [redirect])
  | misdirected draft reply response fault drafted answer refused =>
      rw [lastStatus?_singleton, filter_status?_of_draft]
      · rfl
      · intro other answered
        obtain rfl : response = other := Option.some.inj (answer.symm.trans answered)
        exact isRedirection_of_redirectTarget (by simp [refused])
  | answered draft reply response drafted answer final =>
      rw [lastStatus?_singleton, status?_of_draft, answer]
      exact statusIn?_bodyOf response
  | redirected draft reply response target next chain answer drafted answered redirect redrafted
      followed =>
      obtain ⟨final, later, rfl⟩ := followed.head
      rw [followed.status, lastStatus?_cons _ (List.cons_ne_nil _ _)]

/-- An attempt with a token is empty exactly if the token cannot be presented at all. -/
theorem TokenAttempt.eq_nil_iff
    {text token : String} {sent : List Exchange} {outcome : Except Failure Octets}
    (attempt : TokenAttempt text token sent outcome) : sent = [] ↔ ¬Presentable text token := by
  cases attempt with
  | unsent fault statusless unpresentable => simpa using unpresentable
  | broken draft reply fault drafted statusless unfinished presentable => simpa using presentable
  | misdirected draft reply response fault drafted answer refused presentable =>
      simpa using presentable
  | answered draft reply response drafted answer final presentable => simpa using presentable
  | redirected draft reply response target next chain answer drafted answered redirect redrafted
      followed presentable => simpa using presentable

/-- A token that cannot be presented in one attempt cannot be presented in any other one. -/
theorem TokenAttempt.flatten_eq_nil
    {text token : String} {last : List Exchange} {outcome : Except Failure Octets}
    (ends : TokenAttempt text token last outcome) {failed : List (List Exchange)}
    (failures : ∀ exchanges ∈ failed, ∃ failure : Failure, failure.isTransient = true ∧
      TokenAttempt text token exchanges (.error failure)) (silent : last = []) :
    failed.flatten = [] := by
  rw [List.flatten_eq_nil_iff]
  intro exchanges chosen
  obtain ⟨failure, _, attempted⟩ := failures exchanges chosen
  exact attempted.eq_nil_iff.mpr (ends.eq_nil_iff.mp silent)

/-- The failure of retried attempts with a token has the status of their last answer if that is
an error. -/
theorem Retried.status
    {text token : String} {budget : Nat} {sent : List Exchange} {outcome : Except Failure Octets}
    (retried : Retried (TokenAttempt text token) budget sent outcome) :
    Failure.statusIn? outcome = (lastStatus? sent).filter isErrorStatus := by
  obtain ⟨failed, last, _, few, failures, ends, exhausted⟩ := retried
  rw [ends.status]
  by_cases silent : last = []
  · rw [ends.flatten_eq_nil failures silent, List.nil_append]
  · rw [lastStatus?_append failed.flatten silent]

/-- Retried attempts with a token fail with an error status exactly if that is the status of
their last answer. -/
theorem Retried.status_eq_some_iff
    {text token : String} {budget : Nat} {sent : List Exchange} {outcome : Except Failure Octets}
    (retried : Retried (TokenAttempt text token) budget sent outcome) {code : Nat}
    (wrong : isErrorStatus code = true) :
    Failure.statusIn? outcome = some code ↔ lastStatus? sent = some code := by
  rw [retried.status, Option.filter_eq_some_iff]
  exact and_iff_left wrong

/-! ## Bodies that are delivered -/

/-- A body is that of the last answer, which reports no error.  If the answer is a redirection,
it leads nowhere, and its request presents no token. -/
def Delivered (sent : List Exchange) (body : Octets) : Prop :=
  ∃ earlier exchange response, sent = earlier ++ [exchange] ∧
    exchange.response? = some response ∧ response.content = .ok body ∧
    isErrorStatus response.status = false ∧
    (response.isRedirection = true → ¬response.IsFollowed ∧ exchange.request.IsPlain)

theorem Delivered.append {sent : List Exchange} {body : Octets} (delivered : Delivered sent body)
    (front : List Exchange) : Delivered (front ++ sent) body := by
  obtain ⟨earlier, exchange, response, rfl, rest⟩ := delivered
  exact ⟨front ++ earlier, exchange, response, (List.append_assoc _ _ _).symm, rest⟩

theorem isErrorStatus_of_bodyOf {response : Response} {body : Octets}
    (whole : bodyOf response = .ok body) : isErrorStatus response.status = false := by
  have reported := statusIn?_bodyOf response
  rw [whole, Failure.statusIn?_ok] at reported
  cases failed : isErrorStatus response.status with
  | false => rfl
  | true =>
      rw [Option.filter_some_pos failed] at reported
      cases reported

/-- The body of an answer that reports no error is delivered if it does not lead elsewhere. -/
theorem delivered_of_draft
    {draft : Draft} {reply : Reply} {response : Response} {body : Octets}
    (answer : reply.response? draft.url = some response) (whole : bodyOf response = .ok body)
    (stays : response.isRedirection = true → ¬response.IsFollowed ∧ draft.request.IsPlain) :
    Delivered [⟨draft.request, reply⟩] body := by
  refine ⟨[], _, _, rfl, response?_of_draft answer, ?_, ?_, ?_⟩
  · change response.content = .ok body
    exact bodyOf_ok whole
  · change isErrorStatus response.status = false
    exact isErrorStatus_of_bodyOf whole
  · intro redirection
    obtain ⟨unfollowed, plain⟩ := stays redirection
    refine ⟨?_, plain⟩
    rwa [Response.IsFollowed, ← response_url answer, redirect?_at]

/-- A redirect is followed without a token and without asking for metadata if the request that
it answers had neither. -/
theorem Draft.redirected_plain
    {draft : Draft} (plain : draft.request.IsPlain) (target : Url) :
    (draft.redirected target).request.IsPlain := by
  refine ⟨plain.1, ?_⟩
  unfold Draft.redirected
  by_cases same : sameServer draft.url target
  · rw [if_pos same]
    exact plain.2
  · rw [if_neg same]
    rfl

theorem Chain.delivered
    {draft : Draft} {chain : List Exchange} {outcome : Except HttpFault Response} {body : Octets}
    (followed : Chain draft chain outcome) (plain : draft.request.IsPlain)
    (whole : bodyOfOutcome outcome = .ok body) : Delivered chain body := by
  induction followed with
  | broken => cases whole
  | answered draft reply response answer final =>
      refine delivered_of_draft answer whole fun _ => ⟨?_, plain⟩
      simp [Response.IsFollowed, final]
  | hop draft reply response target rest outcome answer redirect followed inductionHypothesis =>
      have delivered := inductionHypothesis (Draft.redirected_plain plain target) whole
      exact delivered.append [⟨draft.request, reply⟩]

theorem PlainAttempt.delivered
    {text : String} {sent : List Exchange} {body : Octets}
    (attempt : PlainAttempt text sent (.ok body)) : Delivered sent body := by
  generalize ended : Except.ok body = outcome at attempt
  cases attempt with
  | unsent => cases ended
  | sent draft _ answer drafted followed =>
      exact followed.delivered (ofText_plain drafted) ended.symm

theorem TokenAttempt.delivered
    {text token : String} {sent : List Exchange} {body : Octets}
    (attempt : TokenAttempt text token sent (.ok body)) : Delivered sent body := by
  generalize ended : Except.ok body = outcome at attempt
  cases attempt with
  | unsent => cases ended
  | broken => cases ended
  | misdirected => cases ended
  | answered draft reply response drafted answer final =>
      refine delivered_of_draft answer ended.symm fun redirection => ?_
      rw [redirectTarget_none final] at redirection
      cases redirection
  | redirected draft reply response target next chain answer drafted answered redirect redrafted
      followed =>
      exact (followed.delivered (ofUrl_plain redrafted) ended.symm).append
        [⟨draft.request, reply⟩]

theorem Retried.delivered
    {attempt : List Exchange → Except Failure Octets → Prop} {budget : Nat}
    {sent : List Exchange} {body : Octets} (retried : Retried attempt budget sent (.ok body))
    (single : ∀ exchanges, attempt exchanges (.ok body) → Delivered exchanges body) :
    Delivered sent body := by
  obtain ⟨failed, last, _, few, failures, ends, exhausted⟩ := retried
  exact (single last ends).append failed.flatten

end Http
end InstanceScripts
