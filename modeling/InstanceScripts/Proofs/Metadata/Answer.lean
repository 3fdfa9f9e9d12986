import InstanceScripts.Proofs.Http.Presentation

/-!
# What a question for metadata comes to

A server is asked for the URL of a key, with what is wanted behind the query.  An attempt fails
unless a whole answer is received that reports no error, where an unknown key is none; the first
attempt that does not fail decides what the value is.
-/

namespace InstanceScripts

open Http (Exchange History Network Chain)

/-! ## Pairs of a query -/

namespace Url

/-- The pairs of a query, between its ampersands. -/
def queryPairs (url : Url) : List (List Char) :=
  ((url.query.getD []).splitOn '&').filter (!·.isEmpty)

/-- A pair that is added to a query stands behind all others. -/
theorem queryPairs_addQueryPair (url : Url) {name value : List Char}
    (whole : '&' ∉ name ++ ['='] ++ value) :
    (url.addQueryPair name value).queryPairs = url.queryPairs ++ [name ++ ['='] ++ value] := by
  have alone : (name ++ ['='] ++ value).splitOn '&' = [name ++ ['='] ++ value] :=
    List.splitOn_eq_singleton whole
  have shown : [name ++ ['='] ++ value].filter (!·.isEmpty) = [name ++ ['='] ++ value] := by
    simp
  unfold addQueryPair queryPairs
  rcases url.query with _ | _ | ⟨first, rest⟩
  · dsimp only [Option.getD_some, Option.getD_none]
    rw [alone, shown]
    rfl
  · dsimp only [Option.getD_some]
    rw [alone, shown]
    rfl
  · dsimp only [Option.getD_some]
    rw [List.append_assoc _ ['&'], List.singleton_append, List.splitOn_append_cons_self, alone,
      List.filter_append, shown]

/-- Adding a pair to a query changes the query only. -/
theorem addQueryPair_eq (url : Url) (name value : List Char) :
    url.addQueryPair name value =
      { url with query := (url.addQueryPair name value).query } := by
  unfold addQueryPair
  rcases url.query with _ | _ | ⟨first, rest⟩ <;> rfl

theorem withoutUserinfo_addQueryPair (url : Url) (name value : List Char) :
    (url.addQueryPair name value).withoutUserinfo =
      url.withoutUserinfo.addQueryPair name value := by
  unfold addQueryPair withoutUserinfo
  rcases url.query with _ | _ | ⟨first, rest⟩ <;> rfl

theorem withoutFragment_addQueryPair (url : Url) (name value : List Char) :
    (url.addQueryPair name value).withoutFragment =
      url.withoutFragment.addQueryPair name value := by
  unfold addQueryPair withoutFragment
  rcases url.query with _ | _ | ⟨first, rest⟩ <;> rfl

end Url

/-- A chain that breaks off reports no status. -/
theorem Http.Chain.statusless {draft : Http.Draft} {chain : List Exchange} {fault : HttpFault}
    (followed : Chain draft chain (.error fault)) : fault.IsStatusless := by
  generalize ended : Except.error fault = outcome at followed
  induction followed with
  | broken draft reply reason statusless =>
      cases ended
      exact statusless
  | answered => cases ended
  | hop draft reply response target rest outcome answer redirect followed inductionHypothesis =>
      exact inductionHypothesis ended

namespace Metadata

/-! ## The request -/

/-- What a query says that is to be answered in JSON, for everything below a key or not. -/
def options (recursive : Bool) : List (List Char) :=
  (if recursive then ["recursive=true".toList] else []) ++ ["alt=json".toList]

/-- A request for the URL that a text spells, with what is wanted behind the query, that asks for
metadata. -/
structure Asks (text : String) (recursive : Bool) (request : Http.Request) : Prop where
  spelled : ∃ own target, Url.parse text = .ok own ∧
    target = { own with query := target.query } ∧
    target.queryPairs = own.queryPairs ++ options recursive ∧ request.AsksFor target
  flavored : request.flavored = true

/-- A request for a URL becomes one for the URL with a pair more if the pair is added to it. -/
theorem asksFor_withQueryPair {draft : Http.Draft} {url : Url} (asks : draft.request.AsksFor url)
    (name value : String) :
    (draft.withQueryPair name value).request.AsksFor
      (url.addQueryPair name.toList value.toList) := by
  unfold Http.Request.AsksFor at asks ⊢
  change (draft.url.addQueryPair _ _).withoutFragment.withoutUserinfo = _
  rw [Url.withoutFragment_addQueryPair, Url.withoutUserinfo_addQueryPair,
    Url.withoutUserinfo_addQueryPair, Url.withoutFragment_addQueryPair]
  exact congrArg (Url.addQueryPair · name.toList value.toList) asks

theorem draft_asks {text : String} {recursive : Bool} {draft : Http.Draft}
    (drafted : Metadata.draft text recursive = .ok draft) :
    Asks text recursive draft.request := by
  unfold Metadata.draft at drafted
  cases bare : Http.Draft.ofText text with
  | error fault =>
      rw [bare] at drafted
      cases drafted
  | ok plain =>
      rw [bare] at drafted
      obtain ⟨own, parsed, bare⟩ := Http.ofText_ok bare
      have asks : plain.request.AsksFor own := Http.ofUrl_asksFor bare
      have asks : plain.withFlavor.request.AsksFor own := asks
      cases recursive with
      | false =>
          cases drafted
          refine ⟨⟨own, _, parsed, own.addQueryPair_eq _ _, ?_,
            asksFor_withQueryPair asks "alt" "json"⟩, rfl⟩
          exact own.queryPairs_addQueryPair (by decide)
      | true =>
          cases drafted
          refine ⟨⟨own, _, parsed, ?_, ?_,
            asksFor_withQueryPair (asksFor_withQueryPair asks "recursive" "true") "alt" "json"⟩,
            rfl⟩
          · rw [Url.addQueryPair_eq, Url.addQueryPair_eq own]
          · rw [Url.queryPairs_addQueryPair _ (by decide), Url.queryPairs_addQueryPair _ (by decide),
              List.append_assoc]
            rfl

/-! ## The answer -/

/-- A text is the whole body of an answer that reports no error. -/
structure Brings (decoder : Http.Tabled.Decoder) (response : Http.Response) (text : String) :
    Prop where
  accepted : Http.isErrorStatus response.status = false
  whole : response.truncated = false
  decoded : Http.Charset.decodeBody decoder (response.header? "content-type") response.body = text

/-- What the final answer of an attempt comes to. -/
inductive Reading (decoder : Http.Tabled.Decoder) (response : Http.Response) :
    Except Failure (Option Json) → Prop
  | unknown (status : response.status = 404) : Reading decoder response (.ok none)
  | refused (known : response.status ≠ 404)
      (refused : Http.isErrorStatus response.status = true) :
      Reading decoder response (.error (.http (.status response.status response.url.render)))
  | cutShort (accepted : Http.isErrorStatus response.status = false)
      (cut : response.truncated = true) : Reading decoder response (.error (.http .incomplete))
  | blank (text : String) (brings : Brings decoder response text)
      (blank : Text.allBlank text = true) : Reading decoder response (.ok none)
  | null (text : String) (brings : Brings decoder response text)
      (shown : Text.allBlank text = false) (null : Json.parse? text = some .null) :
      Reading decoder response (.ok none)
  | value (text : String) (brings : Brings decoder response text)
      (shown : Text.allBlank text = false) (value : Json)
      (parsed : Json.parse? text = some value) (nonnull : value ≠ .null) :
      Reading decoder response (.ok (some value))
  | verbatim (text : String) (brings : Brings decoder response text)
      (shown : Text.allBlank text = false) (unparsed : Json.parse? text = none) :
      Reading decoder response (.ok (some (.str text)))

section

variable {decoder : Http.Tabled.Decoder}

/-- What a text means decides what an answer comes to that brings it. -/
theorem Reading.of_brings {response : Http.Response} {text : String}
    (brings : Brings decoder response text) : Reading decoder response (.ok (interpret text)) := by
  unfold interpret
  cases blank : Text.allBlank text with
  | true => exact .blank text brings blank
  | false =>
      simp only [Bool.false_eq_true, if_false]
      cases parsed : Json.parse? text with
      | none => exact .verbatim text brings blank parsed
      | some value =>
          cases value with
          | null => exact .null text brings blank parsed
          | bool | int | float | str | arr | obj => exact .value text brings blank _ parsed (by simp)

/-- An answer that says that the key is unknown comes to no value, whatever its body is. -/
theorem Reading.outcome_of_unknown {response : Http.Response}
    {outcome : Except Failure (Option Json)} (reading : Reading decoder response outcome)
    (unknown : response.status = 404) : outcome = .ok none := by
  have reported : Http.isErrorStatus response.status = true := by
    rw [unknown]
    decide
  have rejected {text : String} (brings : Brings decoder response text) : False := by
    rw [brings.accepted] at reported
    cases reported
  cases reading with
  | unknown => rfl
  | refused known => exact absurd unknown known
  | cutShort accepted =>
      rw [accepted] at reported
      cases reported
  | blank text brings => exact (rejected brings).elim
  | null text brings => exact (rejected brings).elim
  | value text brings => exact (rejected brings).elim
  | verbatim text brings => exact (rejected brings).elim

theorem valueIn_reading (decoder : Http.Tabled.Decoder) (response : Http.Response) :
    Reading decoder response ((valueIn decoder response).mapError .http) := by
  unfold valueIn
  by_cases unknown : response.status = 404
  · rw [if_pos unknown]
    exact .unknown unknown
  · rw [if_neg unknown]
    unfold Http.Response.successful
    by_cases refused : 400 ≤ response.status ∧ response.status < 600
    · rw [if_pos refused]
      exact .refused unknown (by simpa [Http.isErrorStatus] using refused)
    · rw [if_neg refused]
      have accepted : Http.isErrorStatus response.status = false := by
        simpa [Http.isErrorStatus] using refused
      dsimp only
      unfold Metadata.text Http.Response.content
      cases whole : response.truncated with
      | true => exact .cutShort accepted whole
      | false => exact .of_brings ⟨accepted, whole, rfl⟩

end

/-! ## One attempt -/

/-- A request can be built for the URL that a text spells. -/
def Built (text : String) (recursive : Bool) (draft : Http.Draft) : Prop :=
  Metadata.draft text recursive = .ok draft ∧ Http.isHttp draft.url = true ∧
    Http.isTarget draft.url = true

/-- One attempt to ask for the URL that a text spells: the exchanges that it adds to those before
it, and what comes of it.  Nothing is sent if no request can be built; otherwise redirects are
followed from the first request on, to a final answer or not. -/
inductive Attempt (decoder : Http.Tabled.Decoder) (network : Network) (text : String)
    (recursive : Bool) (before : History) :
    List Exchange → Except Failure (Option Json) → Prop
  | unbuilt (fault : HttpFault) (unbuilt : ∀ draft, ¬Built text recursive draft) :
      Attempt decoder network text recursive before [] (.error (.http fault))
  | unanswered (draft : Http.Draft) (sent : List Exchange) (fault : HttpFault)
      (built : Built text recursive draft)
      (asks : ∃ first later, sent = first :: later ∧ Asks text recursive first.request)
      (followed : Chain draft sent (.error fault))
      (sends : Http.send network true draft before = (.error fault, before ++ sent)) :
      Attempt decoder network text recursive before sent (.error (.http fault))
  | answered (draft : Http.Draft) (sent : List Exchange) (response : Http.Response)
      (outcome : Except Failure (Option Json)) (built : Built text recursive draft)
      (asks : ∃ first later, sent = first :: later ∧ Asks text recursive first.request)
      (followed : Chain draft sent (.ok response))
      (sends : Http.send network true draft before = (.ok response, before ++ sent))
      (reading : Reading decoder response outcome) :
      Attempt decoder network text recursive before sent outcome

section

variable (decoder : Http.Tabled.Decoder) {network : Network} {text : String} {recursive : Bool}

/-- Where a request can be built, an attempt sends it and follows redirects. -/
theorem fetch_built {draft : Http.Draft} (built : Built text recursive draft)
    (before : History) :
    ∃ sent, (fetch decoder network text recursive before).2 = before ++ sent ∧
      Attempt decoder network text recursive before sent
        (fetch decoder network text recursive before).1 := by
  have ⟨drafted, possible⟩ := built
  have sends : Http.send network true draft before =
      Http.follow network draft.url Http.redirectLimit draft before := by
    unfold Http.send
    rw [if_pos possible, if_pos rfl]
  obtain ⟨sent, followed, grown⟩ :=
    Http.follow_chain network draft.url Http.redirectLimit draft before
  have asks : ∃ first later, sent = first :: later ∧ Asks text recursive first.request := by
    obtain ⟨reply, later, rfl⟩ := followed.head
    exact ⟨_, later, rfl, draft_asks drafted⟩
  rw [← sends] at followed grown
  refine ⟨sent, ?_⟩
  rcases ended : Http.send network true draft before with ⟨fault | response, after⟩
  · rw [ended] at followed grown
    obtain rfl : after = before ++ sent := grown
    simp only [fetch, drafted, ended, true_and]
    exact .unanswered draft sent fault built asks followed ended
  · rw [ended] at followed grown
    obtain rfl : after = before ++ sent := grown
    simp only [fetch, drafted, ended, true_and]
    exact .answered draft sent response _ built asks followed ended
      (valueIn_reading decoder response)

/-- Where none can be built, an attempt sends nothing. -/
theorem fetch_unbuilt (unbuilt : ∀ draft, ¬Built text recursive draft) (before : History) :
    ∃ fault, fetch decoder network text recursive before = (.error (.http fault), before) := by
  cases drafted : Metadata.draft text recursive with
  | error fault => exact ⟨fault, by simp only [fetch, drafted]⟩
  | ok draft =>
      have impossible : ¬(Http.isHttp draft.url ∧ Http.isTarget draft.url) :=
        fun possible => unbuilt draft ⟨drafted, possible⟩
      refine ⟨.unsupported draft.url.render, ?_⟩
      simp only [fetch, drafted, Http.send, impossible, if_false]

end

theorem fetch_attempt (decoder : Http.Tabled.Decoder) (network : Network) (text : String)
    (recursive : Bool) (before : History) :
    ∃ sent, (fetch decoder network text recursive before).2 = before ++ sent ∧
      Attempt decoder network text recursive before sent
        (fetch decoder network text recursive before).1 := by
  by_cases possible : ∃ draft, Built text recursive draft
  · obtain ⟨draft, built⟩ := possible
    exact fetch_built decoder built before
  · have unbuilt := not_exists.mp possible
    obtain ⟨fault, ended⟩ := @fetch_unbuilt decoder network text recursive unbuilt before
    rw [ended]
    exact ⟨[], by simp, .unbuilt fault unbuilt⟩

section

variable {decoder : Http.Tabled.Decoder} {network : Network} {text : String} {recursive : Bool}
  {before : History} {sent : List Exchange} {outcome : Except Failure (Option Json)}

/-- Whatever lets an attempt fail may have passed by the next one. -/
theorem Attempt.isTransient {failure : Failure}
    (attempt : Attempt decoder network text recursive before sent (.error failure)) :
    failure.isTransient = true := by
  generalize ended : Except.error failure = outcome at attempt
  cases attempt with
  | unbuilt fault =>
      cases ended
      rfl
  | unanswered draft _ fault =>
      cases ended
      rfl
  | answered draft _ response _ built asks followed sends reading =>
      cases reading <;> cases ended <;> rfl

/-- An attempt whose last answer says that the key is unknown has found that there is no
value. -/
theorem Attempt.outcome_of_unknown
    (attempt : Attempt decoder network text recursive before sent outcome)
    (unknown : Http.lastStatus? sent = some 404) : outcome = .ok none := by
  have reported : (Http.lastStatus? sent).filter Http.isErrorStatus = some 404 := by
    rw [unknown]
    rfl
  cases attempt with
  | unbuilt fault => cases unknown
  | unanswered draft _ fault built asks followed =>
      have status := followed.status.trans reported
      rw [Http.bodyOfOutcome, Failure.statusIn?_error, followed.statusless] at status
      cases status
  | answered draft _ response _ built asks followed sends reading =>
      have status := followed.status.trans reported
      rw [Http.bodyOfOutcome, Http.statusIn?_bodyOf] at status
      exact reading.outcome_of_unknown (Option.some.inj (Option.filter_eq_some_iff.mp status).1)

end

/-! ## All attempts -/

/-- Attempts that fail one after the other, from one history to another. -/
inductive FailedAttempts (decoder : Http.Tabled.Decoder) (network : Network) (text : String)
    (recursive : Bool) (begin : History) : List (List Exchange) → History → Prop
  | none : FailedAttempts decoder network text recursive begin [] begin
  | more (failed : List (List Exchange)) (before : History) (sent : List Exchange)
      (failure : Failure)
      (earlier : FailedAttempts decoder network text recursive begin failed before)
      (attempt : Attempt decoder network text recursive before sent (.error failure)) :
      FailedAttempts decoder network text recursive begin (failed ++ [sent]) (before ++ sent)

section

variable {decoder : Http.Tabled.Decoder} {network : Network} {text : String} {recursive : Bool}
  {begin before : History} {failed : List (List Exchange)}

/-- Attempts that fail add to the history what they send. -/
theorem FailedAttempts.history
    (attempts : FailedAttempts decoder network text recursive begin failed before) :
    before = begin ++ failed.flatten := by
  induction attempts with
  | none => simp
  | more failed before sent failure earlier attempt inductionHypothesis =>
      rw [inductionHypothesis, List.flatten_append, List.append_assoc]
      simp

/-- No attempt that fails has ended with the answer that a key is unknown. -/
theorem FailedAttempts.known
    (attempts : FailedAttempts decoder network text recursive begin failed before) :
    ∀ sent ∈ failed, Http.lastStatus? sent ≠ some 404 := by
  induction attempts with
  | none => simp
  | more failed before last failure earlier attempt inductionHypothesis =>
      intro sent member unknown
      rcases List.mem_append.mp member with early | late
      · exact inductionHypothesis sent early unknown
      · rw [List.mem_singleton.mp late] at unknown
        cases attempt.outcome_of_unknown unknown

end

/-- How often a question may be put. -/
def Server.limit (server : Server) (retry : Bool) : Nat :=
  if retry then max server.policy.attempts.toNat 1 else 1

/-- A server is asked until an attempt does not fail, or as often as allowed; what comes of the
last attempt is the answer.  An attempt that ends with the answer that the key is unknown is the
last one, and the answer is that there is no value. -/
theorem Server.get_exact (server : Server) (network : Network) (key : Option String)
    (recursive retry : Bool) (history : History) :
    let text := server.urlFor key
    let ended := server.get network key recursive retry history
    ∃ failed before last, failed.length < server.limit retry ∧
      FailedAttempts server.decoder network text recursive history failed before ∧
      Attempt server.decoder network text recursive before last ended.1 ∧
      ended.2 = history ++ failed.flatten ++ last ∧
      (∀ failure, ended.1 = .error failure → failed.length + 1 = server.limit retry) ∧
      (∀ sent ∈ failed, Http.lastStatus? sent ≠ some 404) ∧
      (Http.lastStatus? last = some 404 → ended.1 = .ok none) := by
  intro text ended
  let ask := fetch server.decoder network text recursive
  obtain ⟨policy, budget, ended_eq⟩ : ∃ policy : Retry.Policy,
      policy.budget = server.limit retry ∧
        ended = ((policy.run Failure.isTransient ask history).outcome,
          (policy.run Failure.isTransient ask history).state) := by
    cases retry with
    | true => exact ⟨server.policy, rfl, rfl⟩
    | false => exact ⟨.single, rfl, rfl⟩
  obtain ⟨count, before, few, ⟨failed, length_eq, attempts⟩, ends, exhausted⟩ :=
    policy.run_ends Failure.isTransient ask
      (fun count before => ∃ failed : List (List Exchange), failed.length = count ∧
        FailedAttempts server.decoder network text recursive history failed before)
      (by
        rintro count before failure after ⟨failed, length_eq, earlier⟩ failing _
        obtain ⟨sent, grown, attempt⟩ :=
          fetch_attempt server.decoder network text recursive before
        change (ask before).2 = _ at grown
        change Attempt _ _ _ _ _ _ (ask before).1 at attempt
        rw [failing] at grown attempt
        obtain rfl : after = before ++ sent := grown
        exact ⟨failed ++ [sent], by simp [length_eq], .more failed before sent failure earlier
          attempt⟩)
      history ⟨[], rfl, .none⟩
  obtain ⟨last, grown, attempt⟩ := fetch_attempt server.decoder network text recursive before
  change (ask before).2 = _ at grown
  change Attempt _ _ _ _ _ _ (ask before).1 at attempt
  rw [ends] at grown attempt
  rw [ended_eq]
  subst length_eq
  rw [budget] at few exhausted
  refine ⟨failed, before, last, few, attempts, attempt, ?_, ?_, attempts.known,
    attempt.outcome_of_unknown⟩
  · rw [← attempts.history]
    exact grown
  · intro failure failing
    dsimp only at failing
    rw [failing] at attempt
    exact exhausted failure failing attempt.isTransient

end Metadata
end InstanceScripts
