import InstanceScripts.Proofs.Http.Attempt
import InstanceScripts.Session

/-!
# Questions for metadata

What a session records to have asked is what its source has been asked.  Questions that a server
answers add requests to the history, none of which carries a token; questions that a table
answers add none.
-/

namespace InstanceScripts

open Http (Exchange History)

/-- Requests of which none carries a token. -/
def Http.Tokenless (sent : List Exchange) : Prop :=
  ∀ exchange ∈ sent, exchange.request.tokens = []

theorem Http.Tokenless.append {early late : List Exchange} (first : Tokenless early)
    (second : Tokenless late) : Tokenless (early ++ late) := by
  intro exchange member
  rcases List.mem_append.mp member with before | after
  · exact first exchange before
  · exact second exchange after

namespace Metadata

/-! ## What a source is asked -/

theorem Table.get_snd (table : Table) (key : Option String) :
    (table.get key).2 = { table with asked := table.asked ++ [key.getD ""] } := by
  unfold Table.get
  dsimp only
  cases table.errors.lookup (key.getD "") with
  | some message => rfl
  | none => rfl

theorem Table.get_fst (table : Table) (key : Option String) :
    (table.get key).1 =
      match table.errors.lookup (key.getD "") with
      | some message => .error (.metadata message)
      | none => .ok (table.values.lookup (key.getD "")) := by
  unfold Table.get
  dsimp only
  cases table.errors.lookup (key.getD "") with
  | some message => rfl
  | none => rfl

/-- The key that a table looks up for a question; the question for everything has the empty
one. -/
def Query.name (query : Query) : String :=
  query.key.getD ""

/-- A source that has been asked some more questions.  A table keeps their keys. -/
def Source.asked (source : Source) (queries : List Query) : Source :=
  match source with
  | .remote server => .remote server
  | .canned table => .canned { table with asked := table.asked ++ queries.map Query.name }

@[simp] theorem Source.asked_nil (source : Source) : source.asked [] = source := by
  cases source with
  | remote server => rfl
  | canned table => simp [asked]

theorem Source.asked_append (source : Source) (early late : List Query) :
    source.asked (early ++ late) = (source.asked early).asked late := by
  cases source with
  | remote server => rfl
  | canned table => simp [asked, List.append_assoc]

/-- A source that is asked a question has been asked that question and nothing else. -/
theorem Source.get_asked (source : Source) (network : Http.Network) (key : Option String)
    (recursive retry : Bool) (history : History) (answer : Except Failure (Option Json)) :
    (source.get network key recursive retry history).2.1 =
      source.asked [⟨key, recursive, retry, answer⟩] := by
  cases source with
  | remote server => rfl
  | canned table => exact congrArg Source.canned (table.get_snd key)

/-! ## What a question sends -/

theorem draft_tokens
    {url : String} {recursive : Bool} {draft : Http.Draft}
    (drafted : Metadata.draft url recursive = .ok draft) : draft.request.tokens = [] := by
  unfold Metadata.draft at drafted
  cases bare : Http.Draft.ofText url with
  | error fault =>
      rw [bare] at drafted
      cases drafted
  | ok plain =>
      rw [bare] at drafted
      have tokenless := (Http.ofText_plain bare).2
      cases recursive <;> cases drafted <;> exact tokenless

/-- Asking a server once adds requests without a token. -/
theorem fetch_history
    (decoder : Http.Tabled.Decoder) (network : Http.Network) (url : String) (recursive : Bool)
    (history : History) :
    ∃ sent, (fetch decoder network url recursive history).2 = history ++ sent ∧
      Http.Tokenless sent := by
  cases drafted : Metadata.draft url recursive with
  | error fault =>
      refine ⟨[], ?_, by simp [Http.Tokenless]⟩
      simp only [fetch, drafted, List.append_nil]
  | ok draft =>
      have same : (fetch decoder network url recursive history).2 =
          (Http.send network true draft history).2 := by
        simp only [fetch, drafted]
        rcases Http.send network true draft history with ⟨fault | response, after⟩
        · rfl
        · rfl
      rw [same]
      rcases Http.send_following network draft history with
        ⟨fault, statusless, unsent⟩ | ⟨chain, followed, sent⟩
      · exact ⟨[], by simp [unsent], by simp [Http.Tokenless]⟩
      · exact ⟨chain, sent, fun exchange member =>
          followed.tokens_nil (draft_tokens drafted) member⟩

/-- Asking a server, again if that is wanted, adds requests without a token. -/
theorem Server.get_history
    (server : Server) (network : Http.Network) (key : Option String) (recursive retry : Bool)
    (history : History) :
    ∃ sent, (server.get network key recursive retry history).2 = history ++ sent ∧
      Http.Tokenless sent := by
  unfold Server.get
  generalize (if retry = true then server.policy else Retry.Policy.single) = policy
  obtain ⟨count, last, few, ⟨sent, rfl, tokenless⟩, ends, exhausted⟩ :=
    policy.run_ends Failure.isTransient
      (fetch server.decoder network (server.urlFor key) recursive)
      (fun _ state => ∃ sent, state = history ++ sent ∧ Http.Tokenless sent)
      (by
        rintro count before failure after ⟨sent, rfl, tokenless⟩ failing retryable
        obtain ⟨more, grown, bare⟩ :=
          fetch_history server.decoder network (server.urlFor key) recursive (history ++ sent)
        rw [failing] at grown
        exact ⟨sent ++ more, by rw [← List.append_assoc]; exact grown, tokenless.append bare⟩)
      history ⟨[], by simp, by simp [Http.Tokenless]⟩
  obtain ⟨more, grown, bare⟩ :=
    fetch_history server.decoder network (server.urlFor key) recursive (history ++ sent)
  rw [ends] at grown
  exact ⟨sent ++ more, by rw [← List.append_assoc]; exact grown, tokenless.append bare⟩

end Metadata

namespace Session

/-- What the source of a session would answer now to a question. -/
def answer (session : Session) (key : Option String) (recursive retry : Bool) :
    Except Failure (Option Json) :=
  (session.source.get session.network key recursive retry session.history).1

theorem lookUp_fst (session : Session) (key : Option String) (recursive retry : Bool) :
    (session.lookUp key recursive retry).1 = session.answer key recursive retry := rfl

/-- Since an earlier session, a session has asked some questions: it has recorded them, and its
source has been asked them. -/
structure Asks (session : Session) (queries : List Metadata.Query) (after : Session) : Prop where
  recorded : after.queries = session.queries ++ queries
  source : after.source = session.source.asked queries

namespace Asks

variable {session middle after : Session} {queries early late : List Metadata.Query}

/-- A session that has the same records and the same source has asked nothing. -/
theorem none (recorded : after.queries = session.queries)
    (source : after.source = session.source) : session.Asks [] after :=
  ⟨by rw [recorded, List.append_nil], by rw [source, Metadata.Source.asked_nil]⟩

theorem trans (first : session.Asks early middle) (second : middle.Asks late after) :
    session.Asks (early ++ late) after :=
  ⟨by rw [second.recorded, first.recorded, List.append_assoc],
    by rw [second.source, first.source, Metadata.Source.asked_append]⟩

/-- Reports have no part in what is asked. -/
theorem reported (asks : session.Asks queries after) (log : List Log.Line) :
    session.Asks queries { after with log := log } :=
  ⟨asks.recorded, asks.source⟩

/-- In a table, the count of a key has grown by the questions that name it. -/
theorem requestCount (asks : session.Asks queries after) {table : Metadata.Table}
    (canned : session.source = .canned table) :
    ∃ later, after.source = .canned later ∧ ∀ key,
      later.requestCount key =
        table.requestCount key + (queries.map Metadata.Query.name).count key := by
  refine ⟨_, by rw [asks.source, canned]; rfl, fun key => ?_⟩
  exact List.count_append

end Asks

/-- Looking a key up asks one question, which the source has answered. -/
theorem lookUp_asks (session : Session) (key : Option String) (recursive retry : Bool) :
    session.Asks [⟨key, recursive, retry, session.answer key recursive retry⟩]
      (session.lookUp key recursive retry).2 :=
  ⟨rfl, session.source.get_asked session.network key recursive retry session.history _⟩

/-- A question adds requests without a token to the history. -/
theorem lookUp_history
    (session : Session) (key : Option String) (recursive retry : Bool) :
    ∃ sent, (session.lookUp key recursive retry).2.history = session.history ++ sent ∧
      Http.Tokenless sent := by
  unfold lookUp Metadata.Source.get
  cases session.source with
  | remote server => exact server.get_history session.network key recursive retry session.history
  | canned table => exact ⟨[], by simp, by simp [Http.Tokenless]⟩

/-- A table answers without any request. -/
theorem lookUp_canned
    {session : Session} {table : Metadata.Table} (canned : session.source = .canned table)
    (key : Option String) (recursive retry : Bool) :
    (session.lookUp key recursive retry).2.history = session.history ∧
      ∃ asked, (session.lookUp key recursive retry).2.source = .canned asked := by
  unfold lookUp Metadata.Source.get
  rw [canned]
  exact ⟨rfl, _, rfl⟩

end Session
end InstanceScripts
