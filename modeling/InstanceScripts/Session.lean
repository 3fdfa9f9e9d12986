import InstanceScripts.Log
import InstanceScripts.Metadata
import InstanceScripts.Settings
import InstanceScripts.Staging

/-!
# Sessions

A session retrieves the scripts of one type.  It knows where metadata come from and
how requests are retried, keeps the token that it has been given, and records what it
asked, sent, staged and reported.
-/

namespace InstanceScripts

/-- The state of a session. -/
structure Session where
  scriptType : String
  policy : Retry.Policy
  network : Http.Network
  source : Metadata.Source
  token : Option String
  queries : List Metadata.Query
  history : Http.History
  area : Staging.Area
  log : List Log.Line

namespace Session

/-- A session that has done nothing yet. -/
def start (scriptType : String) (policy : Retry.Policy) (network : Http.Network)
    (source : Metadata.Source) (area : Staging.Area) : Session :=
  ⟨scriptType, policy, network, source, none, [], [], area, []⟩

/-- The metadata server that some settings name. -/
def serverOf (settings : Settings) (decoder : Http.Tabled.Decoder) : Metadata.Server :=
  .ofUrl settings.metadataUrl settings.retryPolicy decoder

/-- A session with the metadata server that some settings name. -/
def ofSettings (scriptType : String) (settings : Settings) (network : Http.Network)
    (decoder : Http.Tabled.Decoder) (area : Staging.Area) : Session :=
  start scriptType settings.retryPolicy network (.remote (serverOf settings decoder)) area

/-- Report something. -/
def report (session : Session) (lines : List Log.Line) : Session :=
  { session with log := session.log ++ lines }

/-- Look a key up in the metadata. -/
def lookUp (session : Session) (key : Option String) (recursive retry : Bool) :
    Except Failure (Option Json) × Session :=
  let (answer, source, history) :=
    session.source.get session.network key recursive retry session.history
  let query : Metadata.Query := ⟨key, recursive, retry, answer⟩
  (answer,
    { session with source := source, queries := session.queries ++ [query], history := history })

@[simp] theorem report_nil (session : Session) : session.report [] = session := by
  simp [report]

@[simp] theorem report_token (session : Session) (lines : List Log.Line) :
    (session.report lines).token = session.token := rfl

@[simp] theorem report_queries (session : Session) (lines : List Log.Line) :
    (session.report lines).queries = session.queries := rfl

@[simp] theorem report_history (session : Session) (lines : List Log.Line) :
    (session.report lines).history = session.history := rfl

@[simp] theorem report_area (session : Session) (lines : List Log.Line) :
    (session.report lines).area = session.area := rfl

end Session
end InstanceScripts
