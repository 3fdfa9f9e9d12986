import InstanceScripts.Failure
import InstanceScripts.Text.Base64
import InstanceScripts.Url.Reader

/-!
# Requests and answers

What is sent to a server and what may come back.  The network is a function of the
URL and of how often that URL has been asked for before, and a history holds every
request made so far together with its reply.
-/

namespace InstanceScripts
namespace Http

/-! ## Requests -/

/-- What an `Authorization` header holds: a user name with a password, or a token. -/
inductive Credential where
  | basic (userinfo : Octets)
  | token (text : String)
  deriving DecidableEq, Repr

/-- The value of the header. -/
def Credential.headerValue : Credential → String
  | .basic userinfo => "Basic " ++ String.ofList (Text.base64 userinfo)
  | .token text => text

/-- A request that is sent. -/
structure Request where
  url : Url
  credentials : List Credential
  flavored : Bool
  deriving DecidableEq, Repr

/-- A request that is still being made up. -/
structure Draft where
  url : Url
  credentials : List Credential
  flavored : Bool
  deriving DecidableEq, Repr

namespace Draft

/-- User name and password of a URL, as octets around a colon.  A user name that is
not text counts as none at all, and so does such a password. -/
def userinfo? (url : Url) : Option Octets :=
  match url.authority with
  | none => none
  | some authority =>
      let isText (octets : Octets) : Bool :=
        match Utf8.decode octets with
        | .ok _ => true
        | .error _ => false
      let username := Url.Percent.decode authority.username
      let password := (authority.password.map Url.Percent.decode).filter isText
      if !isText username ∨ (username.isEmpty ∧ password = none) then none
      else some (username ++ [0x3A] ++ password.getD [])

/-- A request for a URL.  User name and password move from the URL into a header. -/
def ofUrl (url : Url) : Except HttpFault Draft :=
  if url.host?.isNone then .error (.unsupported url.render)
  else
    match userinfo? url with
    | some userinfo => .ok ⟨url.withoutUserinfo, [.basic userinfo], false⟩
    | none => .ok ⟨url, [], false⟩

/-- A request for the URL that a text spells. -/
def ofText (text : String) : Except HttpFault Draft :=
  match Url.parse text with
  | .ok url => ofUrl url
  | .error _ => .error .malformed

/-- Ask for metadata. -/
def withFlavor (draft : Draft) : Draft :=
  { draft with flavored := true }

/-- Characters that a header may hold. -/
def isHeaderChar (char : Char) : Bool :=
  char == '\t' || (0x20 ≤ char.toNat && char.toNat ≠ 0x7F)

/-- Present a token, if a header can hold it. -/
def withToken (draft : Draft) (token : String) : Except HttpFault Draft :=
  if token.toList.all isHeaderChar then
    .ok { draft with credentials := draft.credentials ++ [.token token] }
  else .error .malformed

/-- Add a pair to the query. -/
def withQueryPair (draft : Draft) (name value : String) : Draft :=
  { draft with url := draft.url.addQueryPair name.toList value.toList }

/-- The request, which never mentions a fragment. -/
def request (draft : Draft) : Request :=
  ⟨draft.url.withoutFragment, draft.credentials, draft.flavored⟩

end Draft

/-! ## Answers -/

/-- What comes back for a request: nothing, because no server is reached, no
connection can be secured or the connection is closed; or a status with headers and a
body, of which the end may be missing. -/
inductive Reply where
  | unreachable
  | refusedTunnel
  | dropped
  | answer (status : Nat) (headers : List (String × Octets)) (body : Octets) (truncated : Bool)
  deriving DecidableEq, Repr, Inhabited

/-- What the servers say, given how often a URL has been asked for before. -/
abbrev Network := Url → Nat → Reply

/-- A request with its reply. -/
structure Exchange where
  request : Request
  reply : Reply
  deriving DecidableEq, Repr

/-- All exchanges so far, the first one first. -/
abbrev History := List Exchange

/-- How often a URL has been asked for. -/
def History.count (history : History) (url : Url) : Nat :=
  List.countP (·.request.url == url) history

/-- The network that reaches no server. -/
def unreachableNetwork : Network :=
  fun _ _ => .unreachable

/-- An answer to a request.  The URL is the one finally asked, with its fragment. -/
structure Response where
  status : Nat
  url : Url
  headers : List (String × Octets)
  body : Octets
  truncated : Bool
  deriving DecidableEq, Repr

namespace Response

/-- The first value of a header. -/
def header? (response : Response) (name : String) : Option Octets :=
  (response.headers.find? (·.1.toLower == name)).map (·.2)

/-- The header that says where else to look. -/
def location? (response : Response) : Option Octets :=
  response.header? "location"

def isRedirection (response : Response) : Bool :=
  300 ≤ response.status && response.status < 400

/-- Refuse an answer that reports an error. -/
def successful (response : Response) : Except HttpFault Response :=
  if 400 ≤ response.status ∧ response.status < 600 then
    .error (.status response.status response.url.render)
  else .ok response

/-- The whole body. -/
def content (response : Response) : Except HttpFault Octets :=
  if response.truncated then .error .incomplete else .ok response.body

end Response

/-- Statuses whose answers have no body. -/
def isBodiless (status : Nat) : Bool :=
  status == 101 || status == 204 || status == 304

/-- The answer in a reply.  A merely informational status is no answer. -/
def Reply.response? (reply : Reply) (url : Url) : Option Response :=
  match reply with
  | .answer status headers body truncated =>
      if isBodiless status then some ⟨status, url, headers, [], false⟩
      else if 100 ≤ status ∧ status < 200 then none
      else some ⟨status, url, headers, body, truncated⟩
  | _ => none

end Http
end InstanceScripts
