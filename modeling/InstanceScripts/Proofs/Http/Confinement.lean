import InstanceScripts.Proofs.Http.Attempt
import InstanceScripts.Proofs.Script.Origin

/-!
# Where credentials go

Requests that present a token go to Cloud Storage and nowhere else.  A user name with its
password goes where the URL that carries them leads, and along redirects as long as these
stay on the same server.
-/

namespace InstanceScripts
namespace Http

open Script.Origin (LeadsToStorage)

/-! ## Confined requests -/

/-- A URL with which a client begins to follow redirects: the one that a text spells, or the
one to which the answer to a request with a token has redirected. -/
inductive Begins (text : String) (earlier : List Exchange) (url : Url) : Prop
  | asked (parsed : Url.parse text = .ok url)
  | redirected (exchange : Exchange) (response : Response)
      (last : earlier.getLast? = some exchange) (presented : ¬exchange.request.IsPlain)
      (answer : exchange.response? = some response)
      (redirect : redirectTarget response = .ok (some url))

/-- A request carries the user name and the password of the URL with which its client has
begun, and no redirect has led it away from the server of that URL. -/
def Inherits (text : String) (before : List Exchange) (exchange : Exchange)
    (userinfo : Octets) : Prop :=
  ∃ earlier chain url, before = earlier ++ chain ∧ Begins text earlier url ∧
    Draft.userinfo? url = some userinfo ∧
    (chain ++ [exchange]).head?.map (·.request.url) =
      some url.withoutUserinfo.withoutFragment ∧
    (chain ++ [exchange]).IsChain Exchange.LeadsTo ∧
    ∀ link ∈ chain ++ [exchange], sameServer url link.request.url = true

/-- A request either presents one token and nothing else to Cloud Storage, or it is plain and
carries no more than the user name and the password with which its client has begun. -/
inductive Confined (text : String) (before : List Exchange) (exchange : Exchange) : Prop
  | presented (token : String) (credentials : exchange.request.credentials = [.token token])
      (storage : LeadsToStorage exchange.request.url)
  | plain (plain : exchange.request.IsPlain)
      (basic : ∀ credential ∈ exchange.request.credentials,
        ∃ userinfo, credential = .basic userinfo ∧ Inherits text before exchange userinfo)

/-- Every one of some requests is confined by one of some texts, whatever has been sent before
them. -/
def AllConfined (texts : List String) (sent : List Exchange) : Prop :=
  ∀ earlier front exchange back, sent = front ++ exchange :: back →
    ∃ text ∈ texts, Confined text (earlier ++ front) exchange

theorem AllConfined.nil (texts : List String) : AllConfined texts [] := by
  intro earlier front exchange back place
  cases front <;> cases place

theorem AllConfined.mono
    {texts more : List String} {sent : List Exchange} (confined : AllConfined texts sent)
    (known : ∀ text ∈ texts, text ∈ more) : AllConfined more sent := by
  intro earlier front exchange back place
  obtain ⟨text, member, held⟩ := confined earlier front exchange back place
  exact ⟨text, known text member, held⟩

theorem AllConfined.append
    {texts : List String} {early late : List Exchange} (first : AllConfined texts early)
    (second : AllConfined texts late) : AllConfined texts (early ++ late) := by
  intro earlier front exchange back place
  rcases List.append_eq_append_iff.mp place with ⟨between, rfl, inLate⟩ | ⟨between, inEarly, rest⟩
  · rw [← List.append_assoc]
    exact second (earlier ++ early) between exchange back inLate
  · cases between with
    | nil =>
        rw [List.append_nil] at inEarly
        rw [List.nil_append] at rest
        have confined := second (earlier ++ front) [] exchange back rest.symm
        rwa [List.append_nil] at confined
    | cons same between =>
        obtain ⟨rfl, _⟩ := List.cons.inj rest
        exact first earlier front exchange between inEarly

/-! ## Chains -/

theorem sameServer_withoutUserinfo (url other : Url) :
    sameServer url.withoutUserinfo other = sameServer url other := by
  simp [sameServer]

/-- The requests of a client that begins without a token and follows redirects are
confined. -/
theorem Chain.confined
    {text : String} {url : Url} {draft : Draft} {chain : List Exchange}
    {outcome : Except HttpFault Response} (followed : Chain draft chain outcome)
    (drafted : Draft.ofUrl url = .ok draft) {earlier front : List Exchange}
    {exchange : Exchange} {back : List Exchange} (place : chain = front ++ exchange :: back)
    (begins : Begins text earlier url) : Confined text (earlier ++ front) exchange := by
  have member : exchange ∈ chain := by simp [place]
  refine .plain (followed.plain (ofUrl_plain drafted) member) ?_
  intro credential carried
  rcases followed.credentials_kept place with none | ⟨kept, near⟩
  · rw [none] at carried
    cases carried
  rw [kept] at carried
  rcases ofUrl_ok drafted with ⟨_, rfl⟩ | ⟨userinfo, own, rfl⟩
  · cases carried
  refine ⟨userinfo, List.mem_singleton.mp carried, earlier, front, url, rfl, begins, own, ?_, ?_,
    ?_⟩
  · obtain ⟨reply, rest, head⟩ := followed.head
    rw [head] at place
    cases front with
    | nil =>
        obtain ⟨rfl, _⟩ := List.cons.inj place
        rfl
    | cons first front =>
        obtain ⟨rfl, _⟩ := List.cons.inj place
        rfl
  · have links := followed.links
    rw [place, List.append_cons] at links
    exact links.left_of_append
  · intro link inside
    rw [← sameServer_withoutUserinfo]
    exact near link inside

/-! ## Attempts -/

theorem redirectTarget_at (response : Response) :
    redirectTarget { response with url := response.url.withoutFragment } =
      redirectTarget response := by
  unfold redirectTarget
  simp only [resolve_withoutFragment]
  rfl

/-- A URL without a user name has nothing to put into a header. -/
theorem userinfo?_of_anonymous {url : Url} (anonymous : url.hasUserinfo = false) :
    Draft.userinfo? url = none := by
  unfold Draft.userinfo?
  unfold Url.hasUserinfo at anonymous
  cases authority : url.authority with
  | none => rfl
  | some authority =>
      simp only [authority, Bool.or_eq_false_iff, Bool.not_eq_eq_eq_not, Bool.not_false,
        List.isEmpty_iff, Option.isSome_eq_false_iff, Option.isNone_iff_eq_none] at anonymous
      simp [anonymous.1, anonymous.2, Url.Percent.decode]

theorem leadsToStorage_withoutFragment {url : Url} (storage : LeadsToStorage url) :
    LeadsToStorage url.withoutFragment :=
  ⟨storage.web, storage.host, storage.defaultPort, storage.anonymous⟩

theorem PlainAttempt.confined
    {text : String} {sent : List Exchange} {outcome : Except Failure Octets}
    (attempt : PlainAttempt text sent outcome) : AllConfined [text] sent := by
  cases attempt with
  | unsent => exact .nil [text]
  | sent draft _ answer drafted followed =>
      obtain ⟨url, parsed, drafted⟩ := ofText_ok drafted
      intro earlier front exchange back place
      exact ⟨text, by simp, followed.confined drafted place (.asked parsed)⟩

/-- The request with a token at the front of an attempt is confined if the text leads to
Cloud Storage. -/
theorem tokenDraft_confined
    {text token : String} {draft : Draft} (drafted : tokenDraft text token = .ok draft)
    (storage : ∀ url, Url.parse text = .ok url → LeadsToStorage url) (reply : Reply) :
    AllConfined [text] [⟨draft.request, reply⟩] := by
  intro earlier front exchange back place
  obtain ⟨rfl, rfl, rfl⟩ : front = [] ∧ exchange = ⟨draft.request, reply⟩ ∧ back = [] := by
    cases front <;> simp_all
  obtain ⟨plain, bare, rfl⟩ := tokenDraft_ok drafted
  obtain ⟨url, parsed, bare⟩ := ofText_ok bare
  have leads := storage url parsed
  rcases ofUrl_ok bare with ⟨_, rfl⟩ | ⟨userinfo, carried, _⟩
  · exact ⟨text, by simp, .presented token rfl (leadsToStorage_withoutFragment leads)⟩
  · rw [userinfo?_of_anonymous leads.anonymous] at carried
    cases carried

/-- The requests of an attempt with a token are confined if the text leads to Cloud
Storage. -/
theorem TokenAttempt.confined
    {text token : String} {sent : List Exchange} {outcome : Except Failure Octets}
    (attempt : TokenAttempt text token sent outcome)
    (storage : ∀ url, Url.parse text = .ok url → LeadsToStorage url) :
    AllConfined [text] sent := by
  cases attempt with
  | unsent => exact .nil [text]
  | broken draft reply fault drafted => exact tokenDraft_confined drafted storage reply
  | misdirected draft reply response fault drafted =>
      exact tokenDraft_confined drafted storage reply
  | answered draft reply response drafted => exact tokenDraft_confined drafted storage reply
  | redirected draft reply response target next chain answer drafted answered redirect redrafted
      followed =>
      intro earlier front exchange back place
      cases front with
      | nil =>
          obtain ⟨rfl, _⟩ := List.cons.inj place
          exact tokenDraft_confined drafted storage reply earlier [] _ [] rfl
      | cons first front =>
          obtain ⟨rfl, rest⟩ := List.cons.inj place
          have presented : ¬draft.request.IsPlain := by
            obtain ⟨plain, _, rfl⟩ := tokenDraft_ok drafted
            intro plain
            cases plain.1
          have begins : Begins text (earlier ++ [⟨draft.request, reply⟩]) target := by
            refine .redirected ⟨draft.request, reply⟩ _ (by simp) presented
              (response?_of_draft answered) ?_
            rw [← response_url answered, redirectTarget_at, redirect]
          have confined := followed.confined redrafted rest begins
          rw [List.append_assoc, List.singleton_append] at confined
          exact ⟨text, by simp, confined⟩

/-- Requests of retried attempts are confined if those of every single attempt are. -/
theorem Retried.confined
    {text : String} {attempt : List Exchange → Except Failure Octets → Prop} {budget : Nat}
    {sent : List Exchange} {outcome : Except Failure Octets}
    (retried : Retried attempt budget sent outcome)
    (single : ∀ exchanges result, attempt exchanges result → AllConfined [text] exchanges) :
    AllConfined [text] sent := by
  obtain ⟨failed, last, _, few, failures, ends, exhausted⟩ := retried
  refine AllConfined.append ?_ (single last outcome ends)
  clear few exhausted
  induction failed with
  | nil => exact .nil [text]
  | cons exchanges failed inductionHypothesis =>
      obtain ⟨failure, _, attempted⟩ := failures exchanges List.mem_cons_self
      exact (single exchanges _ attempted).append
        (inductionHypothesis fun other member => failures other (List.mem_cons_of_mem _ member))

end Http
end InstanceScripts
