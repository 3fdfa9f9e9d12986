import InstanceScripts.Http.Charset
import InstanceScripts.Http.Client
import InstanceScripts.Json.Reader
import InstanceScripts.Retry
import InstanceScripts.Text.Blank

/-!
# Metadata

Values are looked up under a key, or all of them at once without one.  They come from
a server, or from a table that also keeps the keys it was asked for.
-/

namespace InstanceScripts
namespace Metadata

/-! ## Servers -/

/-- A metadata server, how requests to it are retried and how its texts are read. -/
structure Server where
  baseUrl : String
  policy : Retry.Policy
  decoder : Http.Tabled.Decoder

namespace Server

/-- The server with a base URL, of which slashes at the end do not count. -/
def ofUrl (url : String) (policy : Retry.Policy)
    (decoder : Http.Tabled.Decoder := Http.Tabled.untabled) : Server :=
  ⟨String.ofList (url.toList.reverse.dropWhile (· == '/')).reverse, policy, decoder⟩

/-- The URL of a key. -/
def urlFor (server : Server) (key : Option String) : String :=
  match key with
  | some key => server.baseUrl ++ "/" ++ String.ofList (key.toList.dropWhile (· == '/'))
  | none => server.baseUrl ++ "/"

end Server

/-- What the text of an answer means: JSON if it can be read so, and itself otherwise.
Blank texts and null mean that there is no value. -/
def interpret (text : String) : Option Json :=
  if Text.allBlank text then none
  else
    match Json.parse? text with
    | some .null => none
    | some value => some value
    | none => some (.str text)

/-- The request for a key's value, or for everything below the key. -/
def draft (url : String) (recursive : Bool) : Except HttpFault Http.Draft :=
  (Http.Draft.ofText url).map fun draft =>
    let draft := draft.withFlavor
    if recursive then (draft.withQueryPair "recursive" "true").withQueryPair "alt" "json"
    else draft.withQueryPair "alt" "json"

/-- The text of a response. -/
def text (decoder : Http.Tabled.Decoder) (response : Http.Response) :
    Except HttpFault String :=
  response.content.map (Http.Charset.decodeBody decoder (response.header? "content-type"))

/-- The value in a response.  An unknown key has none. -/
def valueIn (decoder : Http.Tabled.Decoder) (response : Http.Response) :
    Except HttpFault (Option Json) :=
  if response.status = 404 then .ok none
  else
    match response.successful with
    | .error fault => .error fault
    | .ok response => (text decoder response).map interpret

/-- Ask a server once. -/
def fetch (decoder : Http.Tabled.Decoder) (network : Http.Network) (url : String)
    (recursive : Bool) (history : Http.History) :
    Except Failure (Option Json) × Http.History :=
  match draft url recursive with
  | .error fault => (.error (.http fault), history)
  | .ok draft =>
      match Http.send network true draft history with
      | (.error fault, history) => (.error (.http fault), history)
      | (.ok response, history) => ((valueIn decoder response).mapError .http, history)

/-- Ask a server, again after a transient failure if that is wanted. -/
def Server.get (server : Server) (network : Http.Network) (key : Option String)
    (recursive retry : Bool) (history : Http.History) :
    Except Failure (Option Json) × Http.History :=
  let policy := if retry then server.policy else .single
  let run :=
    policy.run Failure.isTransient (fetch server.decoder network (server.urlFor key) recursive)
      history
  (run.outcome, run.state)

/-! ## Tables -/

/-- Values and errors under keys, the latter first looked at, and the keys asked for so
far.  Everything stands under the empty key. -/
structure Table where
  values : List (String × Json)
  errors : List (String × String)
  asked : List String

namespace Table

def empty : Table :=
  ⟨[], [], []⟩

/-- The table with a value. -/
def withValue (table : Table) (key : String) (value : Json) : Table :=
  { table with values := (key, value) :: table.values }

/-- The table with a value for everything. -/
def withTree (table : Table) (tree : Json) : Table :=
  table.withValue "" tree

/-- The table with an error. -/
def withError (table : Table) (key message : String) : Table :=
  { table with errors := (key, message) :: table.errors }

/-- How often a key has been asked for. -/
def requestCount (table : Table) (key : String) : Nat :=
  table.asked.count key

/-- Look a key up. -/
def get (table : Table) (key : Option String) : Except Failure (Option Json) × Table :=
  let key := key.getD ""
  let table := { table with asked := table.asked ++ [key] }
  match table.errors.lookup key with
  | some message => (.error (.metadata message), table)
  | none => (.ok (table.values.lookup key), table)

end Table

/-! ## Sources -/

/-- Where metadata come from. -/
inductive Source where
  | remote (server : Server)
  | canned (table : Table)

/-- Look a key up in a source.  Only a server tells whether everything below the key is
wanted, and only there it helps to ask again. -/
def Source.get (source : Source) (network : Http.Network) (key : Option String)
    (recursive retry : Bool) (history : Http.History) :
    Except Failure (Option Json) × Source × Http.History :=
  match source with
  | .remote server =>
      let (answer, history) := server.get network key recursive retry history
      (answer, .remote server, history)
  | .canned table =>
      let (answer, table) := table.get key
      (answer, .canned table, history)

/-- A question that a source has been asked, with its answer. -/
structure Query where
  key : Option String
  recursive : Bool
  retry : Bool
  answer : Except Failure (Option Json)

end Metadata
end InstanceScripts
