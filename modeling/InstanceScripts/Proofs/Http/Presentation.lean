import InstanceScripts.Proofs.Http.Answer
import InstanceScripts.Proofs.Http.Confinement
import InstanceScripts.Proofs.Metadata.Query

/-!
# Requests that present a token

An attempt presents its token in its first request and in no other one.  Whatever it sends behind
a redirect is plain, and carries at most the user name and the password of the URL to which it
has been redirected.
-/

namespace InstanceScripts
namespace Http

/-! ## One attempt -/

/-- A request is for a URL, apart from its fragment and from user name and password. -/
def Request.AsksFor (request : Request) (url : Url) : Prop :=
  request.url.withoutUserinfo = url.withoutUserinfo.withoutFragment

theorem withoutUserinfo_withoutUserinfo (url : Url) :
    url.withoutUserinfo.withoutUserinfo = url.withoutUserinfo := by
  cases authority : url.authority <;> simp [Url.withoutUserinfo, authority]

theorem ofUrl_asksFor {url : Url} {draft : Draft} (drafted : Draft.ofUrl url = .ok draft) :
    draft.request.AsksFor url := by
  rcases ofUrl_ok drafted with ⟨_, rfl⟩ | ⟨userinfo, _, rfl⟩
  · rfl
  · change url.withoutUserinfo.withoutUserinfo.withoutFragment = _
    rw [withoutUserinfo_withoutUserinfo]

/-- Requests of a client that has been redirected to a target.  All of them are plain, and carry
at most the user name and the password of the target, as long as redirects have stayed on its
server. -/
structure FollowsPlainly (target : Url) (chain : List Exchange) : Prop where
  begins : ∀ first, chain.head? = some first → first.request.AsksFor target
  plain : ∀ exchange ∈ chain, exchange.request.IsPlain
  basic : ∀ front exchange back, chain = front ++ exchange :: back →
    exchange.request.credentials = [] ∨
      ∃ userinfo, Draft.userinfo? target = some userinfo ∧
        exchange.request.credentials = [.basic userinfo] ∧
        ∀ link ∈ front ++ [exchange], sameServer target link.request.url = true

theorem Chain.followsPlainly
    {target : Url} {draft : Draft} {chain : List Exchange} {outcome : Except HttpFault Response}
    (followed : Chain draft chain outcome) (drafted : Draft.ofUrl target = .ok draft) :
    FollowsPlainly target chain where
  begins := by
    intro first begins
    obtain ⟨reply, rest, rfl⟩ := followed.head
    obtain rfl : Exchange.mk draft.request reply = first := Option.some.inj begins
    exact ofUrl_asksFor drafted
  plain := fun exchange member => followed.plain (ofUrl_plain drafted) member
  basic := by
    intro front exchange back place
    rcases followed.credentials_kept place with none | ⟨kept, near⟩
    · exact .inl none
    rcases ofUrl_ok drafted with ⟨_, rfl⟩ | ⟨userinfo, own, rfl⟩
    · exact .inl kept
    · refine .inr ⟨userinfo, own, kept, fun link inside => ?_⟩
      rw [← sameServer_withoutUserinfo]
      exact near link inside

/-- The requests of an attempt to get the URL that a text spells with a token.  If there are any,
the first one is for that URL, asks for metadata and presents the token, and all others are
behind a redirect. -/
inductive PresentsOnce (text token : String) : List Exchange → Prop
  | silent : PresentsOnce text token []
  | presented (url : Url) (first : Exchange) (chain : List Exchange)
      (parsed : Url.parse text = .ok url) (asks : first.request.AsksFor url)
      (flavored : first.request.flavored = true)
      (credentials : first.request.credentials =
        (Draft.userinfo? url).toList.map .basic ++ [.token token])
      (redirected : chain ≠ [] → ∃ response target, first.response? = some response ∧
        redirectTarget response = .ok (some target) ∧ FollowsPlainly target chain) :
      PresentsOnce text token (first :: chain)

theorem tokenDraft_presentsOnce
    {text token : String} {draft : Draft} (drafted : tokenDraft text token = .ok draft)
    {reply : Reply} {chain : List Exchange}
    (redirected : chain ≠ [] → ∃ response target,
      (Exchange.mk draft.request reply).response? = some response ∧
        redirectTarget response = .ok (some target) ∧ FollowsPlainly target chain) :
    PresentsOnce text token (⟨draft.request, reply⟩ :: chain) := by
  obtain ⟨plain, bare, rfl⟩ := tokenDraft_ok drafted
  obtain ⟨url, parsed, bare⟩ := ofText_ok bare
  have asks : plain.request.AsksFor url := ofUrl_asksFor bare
  refine .presented url _ chain parsed asks rfl ?_ redirected
  rcases ofUrl_ok bare with ⟨none, rfl⟩ | ⟨userinfo, own, rfl⟩
  · rw [none]
    rfl
  · rw [own]
    rfl

/-- An attempt presents its token in its first request only. -/
theorem TokenAttempt.presentsOnce
    {text token : String} {sent : List Exchange} {outcome : Except Failure Octets}
    (attempt : TokenAttempt text token sent outcome) : PresentsOnce text token sent := by
  cases attempt with
  | unsent => exact .silent
  | broken draft reply fault drafted => exact tokenDraft_presentsOnce drafted (by simp)
  | misdirected draft reply response fault drafted =>
      exact tokenDraft_presentsOnce drafted (by simp)
  | answered draft reply response drafted => exact tokenDraft_presentsOnce drafted (by simp)
  | redirected draft reply response target next chain answer drafted answered redirect redrafted
      followed =>
      refine tokenDraft_presentsOnce drafted fun _ =>
        ⟨_, target, response?_of_draft answered, ?_, followed.followsPlainly redrafted⟩
      rw [← response_url answered, redirectTarget_at, redirect]

/-- The requests of an attempt with a token are none, or one that presents it and, if the answer
redirects, plain ones behind it. -/
theorem PresentsOnce.split
    {text token : String} {sent : List Exchange} (once : PresentsOnce text token sent)
    (made : sent ≠ []) :
    ∃ presented chain, sent = presented :: chain ∧ presented.request.tokens = [token] ∧
      (∀ exchange ∈ chain, exchange.request.IsPlain) ∧
      (chain ≠ [] → presented.IsRedirected) := by
  cases once with
  | silent => exact absurd rfl made
  | presented url first chain parsed asks flavored credentials redirected =>
      refine ⟨first, chain, rfl, ?_, ?_, ?_⟩
      · rw [Request.tokens, credentials]
        cases Draft.userinfo? url with
        | none => rfl
        | some userinfo => rfl
      · intro exchange member
        obtain ⟨_, _, _, _, follows⟩ := redirected (List.ne_nil_of_mem member)
        exact follows.plain exchange member
      · intro more
        obtain ⟨response, target, answer, redirect, _⟩ := redirected more
        exact ⟨response, target, answer, redirect⟩

/-- Whether a request asks for metadata or presents a token. -/
def Exchange.isCredentialed (exchange : Exchange) : Bool :=
  exchange.request.flavored || !exchange.request.tokens.isEmpty

theorem isCredentialed_of_plain {exchange : Exchange} (plain : exchange.request.IsPlain) :
    exchange.isCredentialed = false := by
  simp [Exchange.isCredentialed, plain.1, plain.2]

theorem PresentsOnce.countP_le
    {text token : String} {sent : List Exchange} (once : PresentsOnce text token sent) :
    sent.countP Exchange.isCredentialed ≤ 1 := by
  cases once with
  | silent => exact Nat.zero_le 1
  | presented url first chain parsed asks flavored credentials redirected =>
      have none : chain.countP Exchange.isCredentialed = 0 := by
        refine List.countP_eq_zero.mpr fun exchange member => ?_
        obtain ⟨_, _, _, _, follows⟩ := redirected (List.ne_nil_of_mem member)
        rw [isCredentialed_of_plain (follows.plain exchange member)]
        exact Bool.false_ne_true
      rw [List.countP_cons, none]
      split <;> omega

/-! ## All attempts -/

/-- The exchanges of attempts that have been made one after the other from a history on. -/
def Attempted {α : Type} (attempt : History → Except Failure α × History) :
    History → List (List Exchange) → Prop
  | _, [] => True
  | history, sent :: later =>
      (attempt history).2 = history ++ sent ∧ Attempted attempt (history ++ sent) later

theorem Attempted.append
    {α : Type} {attempt : History → Except Failure α × History} {history : History}
    {made : List (List Exchange)} (attempted : Attempted attempt history made)
    {sent : List Exchange}
    (last : (attempt (history ++ made.flatten)).2 = history ++ made.flatten ++ sent) :
    Attempted attempt history (made ++ [sent]) := by
  induction made generalizing history with
  | nil => exact ⟨by simpa using last, trivial⟩
  | cons first made inductionHypothesis =>
      refine ⟨attempted.1, inductionHypothesis attempted.2 ?_⟩
      simpa using last

/-- What holds of an attempt from any history holds of all attempts that are made. -/
theorem Attempted.forall_mem
    {α : Type} {attempt : History → Except Failure α × History}
    {holds : List Exchange → Prop}
    (single : ∀ history sent, (attempt history).2 = history ++ sent → holds sent)
    {history : History} {made : List (List Exchange)}
    (attempted : Attempted attempt history made) : ∀ sent ∈ made, holds sent := by
  induction made generalizing history with
  | nil => simp
  | cons first made inductionHypothesis =>
      intro sent member
      rcases List.mem_cons.mp member with rfl | later
      · exact single history sent attempted.1
      · exact inductionHypothesis attempted.2 sent later

/-- A retried operation that only adds to the history makes attempts within its budget. -/
theorem run_attempted
    {α : Type} (policy : Retry.Policy) {attempt : History → Except Failure α × History}
    (adds : ∀ history, ∃ sent, (attempt history).2 = history ++ sent) (history : History) :
    ∃ made, made ≠ [] ∧ made.length ≤ policy.budget ∧ Attempted attempt history made ∧
      (policy.run Failure.isTransient attempt history).state = history ++ made.flatten := by
  obtain ⟨count, last, few, ⟨made, length_eq, attempted, rfl⟩, ends, _⟩ :=
    policy.run_ends Failure.isTransient attempt
      (fun count state => ∃ made, made.length = count ∧ Attempted attempt history made ∧
        state = history ++ made.flatten)
      (by
        rintro count before failure after ⟨made, length_eq, attempted, rfl⟩ failing _
        obtain ⟨sent, grown⟩ := adds (history ++ made.flatten)
        have added : after = history ++ made.flatten ++ sent := by rw [← grown, failing]
        exact ⟨made ++ [sent], by simp [length_eq], attempted.append grown, by simp [added]⟩)
      history ⟨[], rfl, trivial, by simp⟩
  obtain ⟨sent, grown⟩ := adds (history ++ made.flatten)
  refine ⟨made ++ [sent], by simp, by simp [length_eq]; omega, attempted.append grown, ?_⟩
  rw [ends] at grown
  simpa using grown

theorem countP_flatten_le {made : List (List Exchange)} {test : Exchange → Bool}
    (once : ∀ sent ∈ made, sent.countP test ≤ 1) : made.flatten.countP test ≤ made.length := by
  induction made with
  | nil => exact Nat.le_refl 0
  | cons first made inductionHypothesis =>
      have head := once first List.mem_cons_self
      have rest := inductionHypothesis fun sent member => once sent (List.mem_cons_of_mem _ member)
      rw [List.flatten_cons, List.countP_append, List.length_cons]
      omega

/-! ## The last request with a token -/

/-- Whether a request presents a token. -/
def Exchange.presents (token : String) (exchange : Exchange) : Bool :=
  exchange.request.tokens.contains token

/-- The last exchange in which a token is presented. -/
def lastPresenting? (token : String) (sent : List Exchange) : Option Exchange :=
  sent.reverse.find? (·.presents token)

theorem Exchange.presents_of_tokens
    {token : String} {exchange : Exchange} (tokens : exchange.request.tokens = [token]) :
    exchange.presents token = true := by
  simp [presents, tokens]

theorem Exchange.not_presents
    {exchange : Exchange} (tokenless : exchange.request.tokens = []) (token : String) :
    exchange.presents token = false := by
  simp [presents, tokenless]

theorem lastPresenting?_tokenless
    {sent : List Exchange} (tokenless : Tokenless sent) (token : String) :
    lastPresenting? token sent = none := by
  refine List.find?_eq_none.mpr fun exchange member => ?_
  rw [Exchange.not_presents (tokenless exchange (List.mem_reverse.mp member)) token]
  exact Bool.false_ne_true

/-- Behind the last request with a token there are only requests without one. -/
theorem lastPresenting?_append
    (front : List Exchange) {token : String} {presented : Exchange} {chain : List Exchange}
    (presents : presented.presents token = true) (tokenless : Tokenless chain) :
    lastPresenting? token (front ++ presented :: chain) = some presented := by
  have behind : chain.reverse.find? (·.presents token) = none :=
    lastPresenting?_tokenless tokenless token
  unfold lastPresenting?
  rw [List.reverse_append, List.reverse_cons, List.append_assoc, List.find?_append, behind,
    Option.none_or, List.singleton_append, List.find?_cons_of_pos presents]

/-- An answer with an error status is no redirect. -/
theorem Exchange.IsRedirected.status?_ne
    {exchange : Exchange} (redirected : exchange.IsRedirected) {status : Nat}
    (failed : isErrorStatus status = true) : exchange.status? ≠ some status := by
  obtain ⟨response, target, answer, redirect⟩ := redirected
  have redirection : response.isRedirection = true :=
    isRedirection_of_redirectTarget (by simp [redirect])
  intro same
  rw [Exchange.status?, answer, Option.map_some, Option.some.injEq] at same
  rw [← same, isErrorStatus_of_isRedirection redirection] at failed
  cases failed

/-- The last of retried attempts with a token ends the whole. -/
theorem Retried.split
    {text token : String} {budget : Nat} {sent : List Exchange} {outcome : Except Failure Octets}
    (retried : Retried (TokenAttempt text token) budget sent outcome) (made : sent ≠ []) :
    ∃ front presented chain, sent = front ++ presented :: chain ∧
      presented.request.tokens = [token] ∧ (∀ exchange ∈ chain, exchange.request.IsPlain) ∧
      (chain ≠ [] → presented.IsRedirected) := by
  obtain ⟨failed, last, _, few, failures, ends, exhausted⟩ := retried
  have lastMade : last ≠ [] := by
    intro silent
    exact made (by rw [ends.flatten_eq_nil failures silent, silent, List.append_nil])
  obtain ⟨presented, chain, rfl, tokens, plain, redirected⟩ := ends.presentsOnce.split lastMade
  exact ⟨failed.flatten, presented, chain, rfl, tokens, plain, redirected⟩

end Http
end InstanceScripts
