import InstanceScripts.Http.Client
import Mathlib.Data.List.Chain

/-!
# Chains of requests

A client that follows redirects sends a chain of requests, each for the place to which
the answer before it redirects.  A chain says everything that such a client adds to the
history, and how its last exchange gives the outcome.
-/

namespace InstanceScripts

/-- A fault that is not the status of an answer. -/
def HttpFault.IsStatusless (fault : HttpFault) : Prop :=
  (Failure.http fault).status? = none

namespace Http

/-! ## What an exchange shows -/

/-- The tokens that a request presents. -/
def Request.tokens (request : Request) : List String :=
  request.credentials.filterMap fun credential =>
    match credential with
    | .token text => some text
    | .basic _ => none

/-- A request that neither asks for metadata nor presents a token. -/
def Request.IsPlain (request : Request) : Prop :=
  request.flavored = false ∧ request.tokens = []

/-- The answer in an exchange, if one came. -/
def Exchange.response? (exchange : Exchange) : Option Response :=
  exchange.reply.response? exchange.request.url

/-- The body of the answer in an exchange, if one came and came whole. -/
def Exchange.wholeBody? (exchange : Exchange) : Option Octets :=
  exchange.response?.bind fun response => response.content.toOption

/-- The body of the last answer among some exchanges, if it came and came whole. -/
def lastBody? (sent : List Exchange) : Option Octets :=
  sent.getLast?.bind Exchange.wholeBody?

/-- Exchanges before the last answer have no part in its body. -/
theorem lastBody?_append
    {sent : List Exchange} {body : Octets} (last : lastBody? sent = some body)
    (earlier : List Exchange) : lastBody? (earlier ++ sent) = some body := by
  obtain ⟨exchange, ends, whole⟩ := Option.bind_eq_some_iff.mp last
  unfold lastBody?
  rw [List.getLast?_append, ends]
  exact whole

/-- The answer in the first exchange redirects to the URL of the second. -/
def Exchange.LeadsTo (first second : Exchange) : Prop :=
  ∃ response target, first.response? = some response ∧ redirect? response = some target ∧
    second.request.url = target.withoutFragment

/-- The URL of an answer is the URL asked, whatever it is. -/
theorem response?_at
    {reply : Reply} {url : Url} {response : Response}
    (answered : reply.response? url = some response) (other : Url) :
    reply.response? other = some { response with url := other } := by
  cases reply with
  | unreachable => contradiction
  | refusedTunnel => contradiction
  | dropped => contradiction
  | answer status headers body truncated =>
      unfold Reply.response? at answered ⊢
      by_cases bodiless : isBodiless status
      · simp only [bodiless, if_true, Option.some.injEq] at answered ⊢
        rw [← answered]
      · by_cases informational : 100 ≤ status ∧ status < 200
        · simp [bodiless, informational] at answered
        · simp only [bodiless, informational, if_false, Bool.false_eq_true,
            Option.some.injEq] at answered ⊢
          rw [← answered]

/-- Reading a reference does not depend on the fragment of its base. -/
theorem resolve_withoutFragment (base : Url) (reference : String) :
    Url.resolve base.withoutFragment reference = Url.resolve base reference := by
  have relative (chars : List Char) :
      Url.Reader.relative base.withoutFragment chars = Url.Reader.relative base chars := by
    unfold Url.Reader.relative
    rfl
  unfold Url.resolve Url.read
  rcases Url.Reader.scheme? (Url.Reader.significant reference.toList) with _ | ⟨scheme, rest⟩
  · simp only [relative]
    rfl
  · simp only [Url.Reader.withScheme, relative]
    rfl

theorem redirect?_at (response : Response) :
    redirect? { response with url := response.url.withoutFragment } = redirect? response := by
  unfold redirect?
  simp only [resolve_withoutFragment]
  rfl

/-- The answer to a draft is the answer in the exchange of its request. -/
theorem response?_of_draft
    {draft : Draft} {reply : Reply} {response : Response}
    (answered : reply.response? draft.url = some response) :
    (Exchange.mk draft.request reply).response? =
      some { response with url := draft.url.withoutFragment } :=
  response?_at answered _

theorem response_url
    {reply : Reply} {url : Url} {response : Response}
    (answered : reply.response? url = some response) : response.url = url := by
  have same := response?_at answered url
  rw [answered] at same
  exact congrArg Response.url (Option.some.inj same)

/-- A whole body is found again in the exchange that brought it. -/
theorem wholeBody?_of_draft
    {draft : Draft} {reply : Reply} {response : Response} {body : Octets}
    (answered : reply.response? draft.url = some response)
    (whole : response.content = .ok body) :
    (Exchange.mk draft.request reply).wholeBody? = some body := by
  unfold Exchange.wholeBody?
  rw [response?_of_draft answered, Option.bind_some]
  change response.content.toOption = some body
  rw [whole]
  rfl

/-! ## Chains -/

/-- The draft with which a redirect to another URL is followed. -/
def Draft.redirected (draft : Draft) (target : Url) : Draft :=
  { draft with
    url := target, credentials := if sameServer draft.url target then draft.credentials else [] }

/-- The exchanges of a client that begins with a draft and follows redirects, and what
comes of them. -/
inductive Chain : Draft → List Exchange → Except HttpFault Response → Prop
  | broken (draft : Draft) (reply : Reply) (fault : HttpFault) (statusless : fault.IsStatusless)
      (unfinished : ∀ response, reply.response? draft.url = some response →
        (redirect? response).isSome = true) :
      Chain draft [⟨draft.request, reply⟩] (.error fault)
  | answered (draft : Draft) (reply : Reply) (response : Response)
      (answer : reply.response? draft.url = some response)
      (final : redirect? response = none) :
      Chain draft [⟨draft.request, reply⟩] (.ok response)
  | hop (draft : Draft) (reply : Reply) (response : Response) (target : Url)
      (rest : List Exchange) (outcome : Except HttpFault Response)
      (answer : reply.response? draft.url = some response)
      (redirect : redirect? response = some target)
      (followed : Chain (draft.redirected target) rest outcome) :
      Chain draft (⟨draft.request, reply⟩ :: rest) outcome

/-- An answer that is no redirect is the outcome. -/
theorem follow_answered
    {network : Network} {first : Url} {redirects : Nat} {draft : Draft} {history : History}
    {reply : Reply} {response : Response}
    (replied : network draft.request.url (history.count draft.request.url) = reply)
    (answer : reply.response? draft.url = some response) (final : redirect? response = none) :
    follow network first redirects draft history =
      (.ok response, history ++ [⟨draft.request, reply⟩]) := by
  rw [follow, replied]
  simp only [answer, final]

/-- A redirect is followed as long as there are redirects left. -/
theorem follow_hop
    {network : Network} {first : Url} {redirects : Nat} {draft : Draft} {history : History}
    {reply : Reply} {response : Response} {target : Url}
    (replied : network draft.request.url (history.count draft.request.url) = reply)
    (answer : reply.response? draft.url = some response)
    (redirect : redirect? response = some target) (http : isHttp target = true) :
    follow network first (redirects + 1) draft history =
      follow network first redirects (draft.redirected target)
        (history ++ [⟨draft.request, reply⟩]) := by
  rw [follow, replied]
  simp only [answer, redirect, http, if_true]
  rfl

/-- Following redirects adds a chain to the history. -/
theorem follow_chain
    (network : Network) (first : Url) (redirects : Nat) (draft : Draft) (history : History) :
    ∃ chain, Chain draft chain (follow network first redirects draft history).1 ∧
      (follow network first redirects draft history).2 = history ++ chain := by
  induction redirects generalizing draft history with
  | zero =>
      generalize replied : network draft.request.url (history.count draft.request.url) = reply
      cases answer : reply.response? draft.url with
      | none =>
          rw [follow, replied]
          simp only [answer]
          exact ⟨_, .broken draft reply _ rfl (by simp [answer]), rfl⟩
      | some response =>
          cases redirect : redirect? response with
          | none =>
              rw [follow_answered replied answer redirect]
              exact ⟨_, .answered draft reply response answer redirect, rfl⟩
          | some target =>
              rw [follow, replied]
              simp only [answer, redirect]
              exact ⟨_, .broken draft reply _ rfl (by simp [answer, redirect]), rfl⟩
  | succ redirects inductionHypothesis =>
      generalize replied : network draft.request.url (history.count draft.request.url) = reply
      cases answer : reply.response? draft.url with
      | none =>
          rw [follow, replied]
          simp only [answer]
          exact ⟨_, .broken draft reply _ rfl (by simp [answer]), rfl⟩
      | some response =>
          cases redirect : redirect? response with
          | none =>
              rw [follow_answered replied answer redirect]
              exact ⟨_, .answered draft reply response answer redirect, rfl⟩
          | some target =>
              by_cases http : isHttp target
              · rw [follow_hop replied answer redirect http]
                obtain ⟨rest, followed, sent⟩ :=
                  inductionHypothesis (draft.redirected target)
                    (history ++ [⟨draft.request, reply⟩])
                refine ⟨⟨draft.request, reply⟩ :: rest,
                  .hop draft reply response target rest _ answer redirect followed, ?_⟩
                rw [sent, List.append_assoc, List.singleton_append]
              · rw [follow, replied]
                simp only [answer, redirect, http]
                exact ⟨_, .broken draft reply _ rfl (by simp [answer, redirect]), rfl⟩

/-! ## What a chain shows -/

theorem sameServer_iff {left right : Url} :
    sameServer left right = true ↔
      left.host? = right.host? ∧ left.effectivePort? = right.effectivePort? := by
  simp [sameServer]

/-- The request of a draft goes where the draft does. -/
theorem sameServer_request (draft : Draft) (url : Url) :
    sameServer url draft.request.url = sameServer url draft.url := rfl

theorem sameServer_refl (url : Url) : sameServer url url = true :=
  sameServer_iff.mpr ⟨rfl, rfl⟩

theorem sameServer_trans
    {first second third : Url}
    (left : sameServer first second = true) (right : sameServer second third = true) :
    sameServer first third = true := by
  rw [sameServer_iff] at left right ⊢
  exact ⟨left.1.trans right.1, left.2.trans right.2⟩

/-- The first exchange of a chain is that of its draft. -/
theorem Chain.head
    {draft : Draft} {chain : List Exchange} {outcome : Except HttpFault Response}
    (followed : Chain draft chain outcome) :
    ∃ reply rest, chain = ⟨draft.request, reply⟩ :: rest := by
  cases followed with
  | broken _ reply => exact ⟨reply, [], rfl⟩
  | answered _ reply => exact ⟨reply, [], rfl⟩
  | hop _ reply _ _ rest => exact ⟨reply, rest, rfl⟩

/-- Every exchange of a chain leads to the next one. -/
theorem Chain.links
    {draft : Draft} {chain : List Exchange} {outcome : Except HttpFault Response}
    (followed : Chain draft chain outcome) : chain.IsChain Exchange.LeadsTo := by
  induction followed with
  | broken draft reply => exact List.IsChain.singleton _
  | answered draft reply => exact List.IsChain.singleton _
  | hop draft reply response target rest outcome answer redirect followed inductionHypothesis =>
      obtain ⟨nextReply, later, rfl⟩ := followed.head
      refine List.IsChain.cons_cons ⟨_, target, response?_of_draft answer, ?_, rfl⟩
        inductionHypothesis
      rw [← response_url answer, redirect?_at, redirect]

/-- A whole body that comes of a chain is in its last exchange. -/
theorem Chain.content
    {draft : Draft} {chain : List Exchange} {response : Response} {body : Octets}
    (followed : Chain draft chain (.ok response)) (whole : response.content = .ok body) :
    lastBody? chain = some body := by
  generalize ended : Except.ok response = outcome at followed
  induction followed with
  | broken => cases ended
  | answered draft reply received answer final =>
      cases ended
      exact wholeBody?_of_draft answer whole
  | hop draft reply received target rest outcome answer redirect followed inductionHypothesis =>
      exact lastBody?_append (inductionHypothesis ended) [⟨draft.request, reply⟩]

/-- Only the requests of a chain that have not left its first server carry credentials,
and they carry those of its draft. -/
theorem Chain.credentials_kept
    {draft : Draft} {chain : List Exchange} {outcome : Except HttpFault Response}
    (followed : Chain draft chain outcome)
    {before : List Exchange} {exchange : Exchange} {after : List Exchange}
    (place : chain = before ++ exchange :: after) :
    exchange.request.credentials = [] ∨
      (exchange.request.credentials = draft.credentials ∧
        ∀ earlier ∈ before ++ [exchange],
          sameServer draft.url earlier.request.url = true) := by
  induction followed generalizing before with
  | broken draft reply =>
      obtain ⟨rfl, rfl, rfl⟩ : before = [] ∧ exchange = ⟨draft.request, reply⟩ ∧ after = [] := by
        cases before <;> simp_all
      exact .inr ⟨rfl, by simp [sameServer_request, sameServer_refl]⟩
  | answered draft reply =>
      obtain ⟨rfl, rfl, rfl⟩ : before = [] ∧ exchange = ⟨draft.request, reply⟩ ∧ after = [] := by
        cases before <;> simp_all
      exact .inr ⟨rfl, by simp [sameServer_request, sameServer_refl]⟩
  | hop draft reply response target rest outcome answer redirect followed inductionHypothesis =>
      cases before with
      | nil =>
          obtain ⟨rfl, rfl⟩ := List.cons.inj place
          exact .inr ⟨rfl, by simp [sameServer_request, sameServer_refl]⟩
      | cons first between =>
          obtain ⟨rfl, rest_eq⟩ := List.cons.inj place
          by_cases same : sameServer draft.url target
          · rcases inductionHypothesis rest_eq with none | ⟨kept, near⟩
            · exact .inl none
            · refine .inr ⟨by rw [kept]; simp [Draft.redirected, same], ?_⟩
              intro earlier member
              rcases List.mem_cons.mp member with rfl | later
              · exact sameServer_refl _
              · exact sameServer_trans same (near earlier later)
          · rcases inductionHypothesis rest_eq with none | ⟨kept, _⟩
            · exact .inl none
            · exact .inl (by rw [kept]; simp [Draft.redirected, same])

/-- A chain that begins without a token goes on without one. -/
theorem Chain.tokens_nil
    {draft : Draft} {chain : List Exchange} {outcome : Except HttpFault Response}
    (followed : Chain draft chain outcome) (bare : draft.request.tokens = [])
    {exchange : Exchange} (member : exchange ∈ chain) : exchange.request.tokens = [] := by
  obtain ⟨before, after, place⟩ := List.append_of_mem member
  rcases followed.credentials_kept place with none | ⟨kept, _⟩
  · rw [Request.tokens, none]
    rfl
  · rw [Request.tokens, kept]
    exact bare

/-- All requests of a chain ask for metadata if its draft does, and none otherwise. -/
theorem Chain.flavored
    {draft : Draft} {chain : List Exchange} {outcome : Except HttpFault Response}
    (followed : Chain draft chain outcome) :
    ∀ exchange ∈ chain, exchange.request.flavored = draft.flavored := by
  induction followed with
  | broken draft reply => simp [Draft.request]
  | answered draft reply => simp [Draft.request]
  | hop draft reply response target rest outcome answer redirect followed inductionHypothesis =>
      intro exchange member
      rcases List.mem_cons.mp member with rfl | later
      · rfl
      · exact inductionHypothesis exchange later

end Http
end InstanceScripts
