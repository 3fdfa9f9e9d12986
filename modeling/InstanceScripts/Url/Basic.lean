import InstanceScripts.Url.Host

/-!
# URLs

A URL in the parts that WHATWG's standard gives it, each of them already in the
form in which it is written.
-/

namespace InstanceScripts

/-- What follows the two slashes. -/
structure Url.Authority where
  username : List Char
  password : Option (List Char)
  host : Option Url.Host
  port : Option Nat
  deriving DecidableEq, Repr

/-- The path of a URL: segments behind slashes, or a text without any root. -/
inductive Url.Path where
  | segments (list : List (List Char))
  | rootless (text : List Char)
  deriving DecidableEq, Repr

/-- A parsed URL. -/
structure Url where
  scheme : List Char
  authority : Option Url.Authority
  path : Url.Path
  query : Option (List Char)
  fragment : Option (List Char)
  deriving DecidableEq, Repr

namespace Url

/-- Schemes whose URLs have a host and a rooted path. -/
def isSpecialScheme (scheme : List Char) : Bool :=
  ["http".toList, "https".toList, "ws".toList, "wss".toList, "ftp".toList,
    "file".toList].contains scheme

/-- The port that a scheme implies. -/
def defaultPort? (scheme : List Char) : Option Nat :=
  if scheme = "http".toList ∨ scheme = "ws".toList then some 80
  else if scheme = "https".toList ∨ scheme = "wss".toList then some 443
  else if scheme = "ftp".toList then some 21
  else none

def host? (url : Url) : Option Host :=
  url.authority.bind (·.host)

/-- The port that a connection uses. -/
def effectivePort? (url : Url) : Option Nat :=
  match url.authority.bind (·.port) with
  | some port => some port
  | none => defaultPort? url.scheme

/-- Whether the URL carries a user name or a password. -/
def hasUserinfo (url : Url) : Bool :=
  match url.authority with
  | some authority => !authority.username.isEmpty || authority.password.isSome
  | none => false

/-- The URL without user name and password. -/
def withoutUserinfo (url : Url) : Url :=
  { url with
    authority := url.authority.map fun authority =>
      { authority with username := [], password := none } }

def withoutFragment (url : Url) : Url :=
  { url with fragment := none }

/-! ## Written form -/

/-- User name and password before their `@`. -/
def Authority.renderUserinfo (authority : Authority) : List Char :=
  let password :=
    match authority.password with
    | some password => ':' :: password
    | none => []
  if authority.username.isEmpty ∧ authority.password = none then []
  else authority.username ++ password ++ ['@']

def Authority.render (authority : Authority) : List Char :=
  let host :=
    match authority.host with
    | some host => host.render
    | none => []
  let port :=
    match authority.port with
    | some port => ':' :: Text.decimal port
    | none => []
  authority.renderUserinfo ++ host ++ port

def Path.render : Path → List Char
  | .segments list => list.flatMap ('/' :: ·)
  | .rootless text => text

/-- The URL as a text. -/
def renderChars (url : Url) : List Char :=
  let authority :=
    match url.authority with
    | some authority => ['/', '/'] ++ authority.render
    | none =>
        match url.path with
        | .segments ([] :: _ :: _) => ['/', '.']
        | _ => []
  let query :=
    match url.query with
    | some query => '?' :: query
    | none => []
  let fragment :=
    match url.fragment with
    | some fragment => '#' :: fragment
    | none => []
  url.scheme ++ [':'] ++ authority ++ url.path.render ++ query ++ fragment

def render (url : Url) : String :=
  String.ofList url.renderChars

/-- Add a pair to the query, after the pairs that are there. -/
def addQueryPair (url : Url) (name value : List Char) : Url :=
  let pair := name ++ ['='] ++ value
  match url.query with
  | none => { url with query := some pair }
  | some [] => { url with query := some pair }
  | some query => { url with query := some (query ++ ['&'] ++ pair) }

@[simp] theorem withoutUserinfo_hasUserinfo (url : Url) :
    url.withoutUserinfo.hasUserinfo = false := by
  cases authority : url.authority <;> simp [hasUserinfo, withoutUserinfo, authority]

@[simp] theorem host?_withoutUserinfo (url : Url) :
    url.withoutUserinfo.host? = url.host? := by
  cases authority : url.authority <;> simp [host?, withoutUserinfo, authority]

@[simp] theorem effectivePort?_withoutUserinfo (url : Url) :
    url.withoutUserinfo.effectivePort? = url.effectivePort? := by
  cases authority : url.authority <;> simp [effectivePort?, withoutUserinfo, authority]

end Url
end InstanceScripts
