import InstanceScripts.Proofs.Metadata.Query
import InstanceScripts.Proofs.Retry.Loop

/-!
# Requests side by side

Two networks may have been asked different things before.  If they answer alike from then on,
whoever sends the same requests gets the same answers from both, and can learn nothing about
what came before.
-/

namespace InstanceScripts

/-- Two lists that began as two others and have grown in the same way. -/
def GrowAlike {α : Type} (first second left right : List α) : Prop :=
  ∃ more, left = first ++ more ∧ right = second ++ more

namespace GrowAlike

variable {α : Type} {first second left right : List α}

theorem refl (first second : List α) : GrowAlike first second first second :=
  ⟨[], by simp, by simp⟩

theorem append (grown : GrowAlike first second left right) (more : List α) :
    GrowAlike first second (left ++ more) (right ++ more) := by
  obtain ⟨before, rfl, rfl⟩ := grown
  exact ⟨before ++ more, by simp, by simp⟩

end GrowAlike

namespace Http

/-- Two networks that answer alike, each after a history of its own. -/
def AnswerAlike (left right : Network) (history other : History) : Prop :=
  ∀ url more, left url (history.count url + more) = right url (other.count url + more)

theorem AnswerAlike.append {left right : Network} {history other : History}
    (alike : AnswerAlike left right history other) (sent : List Exchange) :
    AnswerAlike left right (history ++ sent) (other ++ sent) := by
  intro url more
  have later := alike url (History.count sent url + more)
  simpa only [History.count, List.countP_append, Nat.add_assoc] using later

/-- Two histories that began as two others and have grown in the same way, on networks that
still answer alike. -/
structure Parallel (left right : Network) (first second history other : History) : Prop where
  answers : AnswerAlike left right history other
  sent : GrowAlike first second history other

/-- Two operations give the same, and leave histories behind that have grown in the same
way. -/
def Coincide {α : Type} (left right : Network) (first second : History)
    (result other : α × History) : Prop :=
  result.1 = other.1 ∧ Parallel left right first second result.2 other.2

section

variable {left right : Network} {first second history other : History}

namespace Parallel

theorem append (same : Parallel left right first second history other) (sent : List Exchange) :
    Parallel left right first second (history ++ sent) (other ++ sent) :=
  ⟨same.answers.append sent, same.sent.append sent⟩

/-- The reply to the next request is the same, and the histories go on growing alike. -/
theorem exchange (same : Parallel left right first second history other) (request : Request) :
    let reply := right request.url (other.count request.url)
    left request.url (history.count request.url) = reply ∧
      Parallel left right first second (history ++ [⟨request, reply⟩])
        (other ++ [⟨request, reply⟩]) := by
  intro reply
  have replies := same.answers request.url 0
  exact ⟨replies, same.append [⟨request, reply⟩]⟩

end Parallel

/-! ## One request -/

theorem ask_coincides (same : Parallel left right first second history other) (draft : Draft) :
    Coincide left right first second (ask left draft history) (ask right draft other) := by
  obtain ⟨replies, grown⟩ := same.exchange draft.request
  unfold ask
  rw [replies]
  dsimp only
  cases (right draft.request.url (other.count draft.request.url)).response? draft.url with
  | none => exact ⟨rfl, grown⟩
  | some response => exact ⟨rfl, grown⟩

/-- The redirects that are followed are the same ones. -/
theorem follow_coincides (origin : Url) (redirects : Nat) (draft : Draft)
    (same : Parallel left right first second history other) :
    Coincide left right first second (follow left origin redirects draft history)
      (follow right origin redirects draft other) := by
  -- Both clients see the same reply, so both stop here or both go on to the same target.
  induction redirects generalizing draft history other with
  | zero =>
      obtain ⟨replies, grown⟩ := same.exchange draft.request
      unfold follow
      rw [replies]
      dsimp only
      cases (right draft.request.url (other.count draft.request.url)).response? draft.url with
      | none => exact ⟨rfl, grown⟩
      | some response =>
          dsimp only
          cases redirect? response with
          | none => exact ⟨rfl, grown⟩
          | some target => exact ⟨rfl, grown⟩
  | succ redirects inductionHypothesis =>
      obtain ⟨replies, grown⟩ := same.exchange draft.request
      unfold follow
      rw [replies]
      dsimp only
      cases (right draft.request.url (other.count draft.request.url)).response? draft.url with
      | none => exact ⟨rfl, grown⟩
      | some response =>
          dsimp only
          cases redirect? response with
          | none => exact ⟨rfl, grown⟩
          | some target =>
              dsimp only
              by_cases allowed : isHttp target
              · rw [if_pos allowed, if_pos allowed]
                exact inductionHypothesis _ grown
              · rw [if_neg allowed, if_neg allowed]
                exact ⟨rfl, grown⟩

theorem send_coincides (following : Bool) (draft : Draft)
    (same : Parallel left right first second history other) :
    Coincide left right first second (send left following draft history)
      (send right following draft other) := by
  unfold send
  by_cases allowed : isHttp draft.url ∧ isTarget draft.url
  · rw [if_pos allowed, if_pos allowed]
    cases following with
    | false => exact ask_coincides same draft
    | true => exact follow_coincides draft.url redirectLimit draft same
  · rw [if_neg allowed, if_neg allowed]
    exact ⟨rfl, same⟩

/-! ## Attempts -/

theorem fetchToFile_coincides (url : String) (file : Nat) (area : Staging.Area)
    (same : Parallel left right first second history other) :
    (fetchToFile left url file (history, area)).1 = (fetchToFile right url file (other, area)).1 ∧
      Parallel left right first second (fetchToFile left url file (history, area)).2.1
        (fetchToFile right url file (other, area)).2.1 ∧
      (fetchToFile left url file (history, area)).2.2 =
        (fetchToFile right url file (other, area)).2.2 := by
  unfold fetchToFile
  cases Draft.ofText url with
  | error fault => exact ⟨rfl, same, rfl⟩
  | ok draft =>
      have asked := send_coincides true draft same
      revert asked
      dsimp only
      rcases send left true draft history with ⟨outcome, after⟩
      rcases send right true draft other with ⟨otherOutcome, otherAfter⟩
      rintro ⟨rfl, grown⟩
      rcases outcome with fault | response
      · exact ⟨rfl, grown, rfl⟩
      · dsimp only
        cases bodyOf response with
        | error failure => exact ⟨rfl, grown, rfl⟩
        | ok body => exact ⟨rfl, grown, rfl⟩

theorem fetchWithToken_coincides (url token : String)
    (same : Parallel left right first second history other) :
    Coincide left right first second (fetchWithToken left url token history)
      (fetchWithToken right url token other) := by
  unfold fetchWithToken
  cases tokenDraft url token with
  | error fault => exact ⟨rfl, same⟩
  | ok draft =>
      have asked := send_coincides false draft same
      revert asked
      dsimp only
      rcases send left false draft history with ⟨outcome, after⟩
      rcases send right false draft other with ⟨otherOutcome, otherAfter⟩
      rintro ⟨rfl, grown⟩
      rcases outcome with fault | response
      · exact ⟨rfl, grown⟩
      · dsimp only
        rcases redirectTarget response with fault | _ | target
        · exact ⟨rfl, grown⟩
        · exact ⟨rfl, grown⟩
        · dsimp only
          cases Draft.ofUrl target with
          | error fault => exact ⟨rfl, grown⟩
          | ok plain =>
              have behind := send_coincides true plain grown
              revert behind
              dsimp only
              rcases send left true plain after with ⟨outcome, last⟩
              rcases send right true plain otherAfter with ⟨otherOutcome, otherLast⟩
              rintro ⟨rfl, further⟩
              rcases outcome with fault | response
              · exact ⟨rfl, further⟩
              · exact ⟨rfl, further⟩

/-! ## Retried attempts -/

/-- The area stands beside the history; it is the same one all along. -/
theorem fetchToFile_run_coincides
    (policy : Retry.Policy) (url : String) (file : Nat) (area : Staging.Area)
    (same : Parallel left right first second history other) :
    let run := policy.run Failure.isTransient (fetchToFile left url file) (history, area)
    let another := policy.run Failure.isTransient (fetchToFile right url file) (other, area)
    run.outcome = another.outcome ∧
      Parallel left right first second run.state.1 another.state.1 ∧
      run.state.2 = another.state.2 := by
  let related (state another : History × Staging.Area) : Prop :=
    Parallel left right first second state.1 another.1 ∧ state.2 = another.2
  refine policy.run_related Failure.isTransient related ?_ ⟨same, rfl⟩
  rintro ⟨history, area⟩ ⟨other, _⟩ ⟨same, rfl⟩
  exact fetchToFile_coincides url file area same

theorem fetchWithToken_run_coincides
    (policy : Retry.Policy) (url token : String)
    (same : Parallel left right first second history other) :
    let run := policy.run Failure.isTransient (fetchWithToken left url token) history
    let another := policy.run Failure.isTransient (fetchWithToken right url token) other
    Coincide left right first second (run.outcome, run.state) (another.outcome, another.state) :=
  policy.run_related Failure.isTransient (Parallel left right first second)
    (fun _ _ same => fetchWithToken_coincides url token same) same

end

end Http

/-! ## Questions -/

namespace Metadata

open Http (AnswerAlike Coincide History Network Parallel)

/-- Two sources that answer alike, except perhaps to the question for everything. -/
inductive Source.Alike : Source → Source → Prop
  | remote (server : Server) : Alike (.remote server) (.remote server)
  | canned {table other : Table}
      (errors : ∀ key, key ≠ "" → table.errors.lookup key = other.errors.lookup key)
      (values : ∀ key, key ≠ "" → table.values.lookup key = other.values.lookup key) :
      Alike (.canned table) (.canned other)

/-- Tables that differ in the value for everything only are alike. -/
theorem Source.Alike.withTree (table : Table) (tree other : Json) :
    Source.Alike (.canned (table.withTree tree)) (.canned (table.withTree other)) := by
  refine .canned (fun _ _ => rfl) fun key named => ?_
  have different : (key == "") = false := beq_eq_false_iff_ne.mpr named
  simp [Table.withTree, Table.withValue, List.lookup_cons, different]

section

variable {left right : Network} {first second history other : History}

theorem fetch_coincides (decoder : Http.Tabled.Decoder) (url : String) (recursive : Bool)
    (same : Parallel left right first second history other) :
    Coincide left right first second (fetch decoder left url recursive history)
      (fetch decoder right url recursive other) := by
  unfold fetch
  cases draft url recursive with
  | error fault => exact ⟨rfl, same⟩
  | ok draft =>
      have asked := Http.send_coincides true draft same
      revert asked
      dsimp only
      rcases Http.send left true draft history with ⟨outcome, after⟩
      rcases Http.send right true draft other with ⟨otherOutcome, otherAfter⟩
      rintro ⟨rfl, grown⟩
      rcases outcome with fault | response
      · exact ⟨rfl, grown⟩
      · exact ⟨rfl, grown⟩

theorem Server.get_coincides (server : Server) (key : Option String) (recursive retry : Bool)
    (same : Parallel left right first second history other) :
    Coincide left right first second (server.get left key recursive retry history)
      (server.get right key recursive retry other) := by
  unfold Server.get
  exact (if retry then server.policy else .single).run_related Failure.isTransient
    (Parallel left right first second)
    (fun _ _ same => fetch_coincides server.decoder (server.urlFor key) recursive same) same

/-- Sources that are alike stay so whatever they are asked, and give the same answer to the
question for a key. -/
theorem Source.Alike.get {source another : Source} (alike : source.Alike another)
    (key : Option String) (recursive retry : Bool)
    (same : Parallel left right first second history other) :
    (key.getD "" ≠ "" → (source.get left key recursive retry history).1 =
        (another.get right key recursive retry other).1) ∧
      (source.get left key recursive retry history).2.1.Alike
        (another.get right key recursive retry other).2.1 ∧
      Parallel left right first second (source.get left key recursive retry history).2.2
        (another.get right key recursive retry other).2.2 := by
  cases alike with
  | remote server =>
      obtain ⟨answers, grown⟩ := server.get_coincides key recursive retry same
      exact ⟨fun _ => answers, .remote server, grown⟩
  | @canned table another errors values =>
      refine ⟨fun named => ?_, ?_, same⟩
      · change (table.get key).1 = (another.get key).1
        rw [table.get_fst, another.get_fst, errors _ named, values _ named]
      · change Alike (.canned (table.get key).2) (.canned (another.get key).2)
        rw [table.get_snd, another.get_snd]
        exact .canned errors values

end

end Metadata
end InstanceScripts
