import InstanceScripts.Http
import InstanceScripts.Http.Target

/-!
# Sending requests

A client sends a request and may follow redirects.  On the way to another host or
port it gives up the `Authorization` header; the other headers stay.
-/

namespace InstanceScripts
namespace Http

/-- How many redirects are followed. -/
def redirectLimit : Nat :=
  10

/-- Statuses that name another place to look. -/
def isRedirect (status : Nat) : Bool :=
  [301, 302, 303, 307, 308].contains status

/-- Where a response says to look, if it says so in a way that can be followed. -/
def redirect? (response : Response) : Option Url :=
  if isRedirect response.status then
    match response.location? with
    | none => none
    | some location =>
        match Utf8.decode location with
        | .error _ => none
        | .ok text => (Url.resolve response.url text).toOption.filter isTarget
  else none

/-- Whether two URLs lead to the same host and port. -/
def sameServer (left right : Url) : Bool :=
  left.host? == right.host? && left.effectivePort? == right.effectivePort?

/-- Schemes over which requests are sent. -/
def isHttp (url : Url) : Bool :=
  url.scheme == "http".toList || url.scheme == "https".toList

/-- Send a request and follow so many redirects at most.  `first` is the URL that is
named when no answer comes. -/
def follow (network : Network) (first : Url) :
    Nat → Draft → History → Except HttpFault Response × History
  | redirects, draft, history =>
      let reply := network draft.request.url (history.count draft.request.url)
      let history := history ++ [⟨draft.request, reply⟩]
      match reply.response? draft.url with
      | none => (.error (.unanswered first.render), history)
      | some response =>
          match redirect? response with
          | none => (.ok response, history)
          | some target =>
              match redirects with
              | 0 => (.error (.redirectedTooOften draft.url.render), history)
              | redirects + 1 =>
                  if isHttp target then
                    let credentials :=
                      if sameServer draft.url target then draft.credentials else []
                    follow network first redirects { draft with url := target, credentials } history
                  else (.error (.unsupported target.render), history)

/-- Send a request and give the answer, redirect or not. -/
def ask (network : Network) (draft : Draft) (history : History) :
    Except HttpFault Response × History :=
  let reply := network draft.request.url (history.count draft.request.url)
  let history := history ++ [⟨draft.request, reply⟩]
  match reply.response? draft.url with
  | none => (.error (.unanswered draft.url.render), history)
  | some response => (.ok response, history)

/-- Send a request with a client that follows redirects or with one that does not. -/
def send (network : Network) (following : Bool) (draft : Draft) (history : History) :
    Except HttpFault Response × History :=
  if isHttp draft.url ∧ isTarget draft.url then
    if following then follow network draft.url redirectLimit draft history
    else ask network draft history
  else (.error (.unsupported draft.url.render), history)

end Http
end InstanceScripts
