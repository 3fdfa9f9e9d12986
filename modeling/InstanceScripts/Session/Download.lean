import InstanceScripts.Script.Origin
import InstanceScripts.Session
import InstanceScripts.Token

/-!
# Downloads

A script is downloaded into a file that has been reserved for it.  Objects in Cloud
Storage are asked for with the token; a redirect on the way is followed without it, and
without any token at all the download is a plain one.
-/

namespace InstanceScripts

/-! ## One attempt -/

namespace Http

/-- Characters of headers that can be read as text. -/
def isReadable (octet : UInt8) : Bool :=
  octet == 0x09 || (0x20 ≤ octet && octet < 0x7F)

/-- Where a redirection leads, if the response is one. -/
def redirectTarget (response : Response) : Except DataFault (Option Url) :=
  if !response.isRedirection then .ok none
  else
    match response.location? with
    | none => .error (.noLocation response.status)
    | some location =>
        if location.all isReadable then
          let text := Utf8.decodeLossy location
          match Url.resolve response.url text with
          | .ok target => .ok (some target)
          | .error fault => .error (.unusableLocation text fault)
        else .error .unreadableLocation

/-- The whole body of an answer that reports no error. -/
def bodyOf (response : Response) : Except Failure Octets :=
  match response.successful with
  | .error fault => .error (.http fault)
  | .ok response => response.content.mapError .http

/-- Ask for a URL once, without credentials, and save the body. -/
def fetchToFile (network : Network) (url : String) (file : Nat)
    (state : History × Staging.Area) : Except Failure Unit × History × Staging.Area :=
  let (history, area) := state
  match Draft.ofText url with
  | .error fault => (.error (.http fault), history, area)
  | .ok draft =>
      match send network true draft history with
      | (.error fault, history) => (.error (.http fault), history, area)
      | (.ok response, history) =>
          match bodyOf response with
          | .error failure => (.error failure, history, area)
          | .ok body =>
              let (written, area) := area.write file body
              (written, history, area)

/-- The request for a URL that presents a token. -/
def tokenDraft (url token : String) : Except HttpFault Draft :=
  (Draft.ofText url).bind fun draft => draft.withFlavor.withToken token

/-- Ask for a URL once with a token.  A redirect is followed without the token. -/
def fetchWithToken (network : Network) (url token : String) (history : History) :
    Except Failure Octets × History :=
  match tokenDraft url token with
  | .error fault => (.error (.http fault), history)
  | .ok draft =>
      match send network false draft history with
      | (.error fault, history) => (.error (.http fault), history)
      | (.ok response, history) =>
          match redirectTarget response with
          | .error fault => (.error (.invalidData fault), history)
          | .ok none => (bodyOf response, history)
          | .ok (some target) =>
              match Draft.ofUrl target with
              | .error fault => (.error (.http fault), history)
              | .ok draft =>
                  match send network true draft history with
                  | (.error fault, history) => (.error (.http fault), history)
                  | (.ok response, history) => (bodyOf response, history)

end Http

/-! ## Whole downloads -/

namespace Session

/-- Ask the metadata source for a token. -/
def fetchToken (session : Session) : Option String × Session :=
  match session.lookUp (some Token.metadataKey) false false with
  | (.error failure, session) =>
      let line := "Could not fetch authentication token: " ++ failure.message
      (none, session.report [.warn line])
  | (.ok none, session) => (none, session)
  | (.ok (some answer), session) =>
      let (token, lines) := Token.compose answer
      (token, session.report lines)

/-- The token at hand, or a new one. -/
def obtainToken (session : Session) : Option String × Session :=
  match session.token with
  | some token => (some token, session)
  | none =>
      let (token, session) := session.fetchToken
      (token, { session with token := token })

/-- Report that a download failed. -/
def reportFailure (session : Session) (beginning url : String) (failure : Failure) : Session :=
  session.report [.warn (beginning ++ " " ++ url ++ ". " ++ failure.message ++ ".")]

/-- Download a URL without credentials into a new file. -/
def downloadPlain (session : Session) (url directory : String) :
    Except Failure Nat × Session :=
  match session.area.reserve directory with
  | (.error failure, area) => (.error failure, { session with area := area })
  | (.ok file, area) =>
      let line := "Downloading url from " ++ url ++ " to " ++ area.path file ++ "."
      let session := { session with area := area }.report [.info line]
      let run :=
        session.policy.run Failure.isTransient (Http.fetchToFile session.network url file)
          (session.history, session.area)
      let (history, area) := run.state
      let session := { session with history := history, area := area }
      match run.outcome with
      | .ok () => (.ok file, session)
      | .error failure =>
          let beginning :=
            if failure.isTransient then "Could not download" else "Exception downloading"
          (.error failure, session.reportFailure beginning url failure)

/-- Refuse a body that is not text. -/
def requireText (body : Octets) : Except Failure Octets :=
  match Utf8.decode body with
  | .ok _ => .ok body
  | .error defect => .error (.notText defect)

/-- Download a URL with a token into a file.  The body has to be text; a token that is
rejected is given up. -/
def downloadWithToken (session : Session) (url token : String) (file : Nat) :
    Except Failure Nat × Session :=
  let run :=
    session.policy.run Failure.isTransient (Http.fetchWithToken session.network url token)
      session.history
  let session := { session with history := run.state }
  match run.outcome.bind requireText with
  | .error failure =>
      let kept := if failure.status? = some 401 then none else session.token
      (.error failure,
        { session with token := kept }.reportFailure "Could not download" url failure)
  | .ok body =>
      match session.area.write file body with
      | (.error failure, area) => (.error failure, { session with area := area })
      | (.ok (), area) => (.ok file, { session with area := area })

/-- Download a URL with the token into a new file; without a token, download it plainly
into another one. -/
def downloadAuthorized (session : Session) (url directory : String) :
    Except Failure Nat × Session :=
  match session.area.reserve directory with
  | (.error failure, area) => (.error failure, { session with area := area })
  | (.ok file, area) =>
      let line :=
        "Downloading url from " ++ url ++ " to " ++ area.path file ++
          " using authentication token."
      let session := { session with area := area }.report [.info line]
      match session.obtainToken with
      | (some token, session) => session.downloadWithToken url token file
      | (none, session) =>
          let line :=
            "Authentication token not found. Attempting unauthenticated download."
          (session.report [.info line]).downloadPlain url directory

/-- Download a script in the way that its URL asks for. -/
def downloadScript (session : Session) (url directory : String) :
    Except Failure Nat × Session :=
  match Script.Origin.classify url with
  | .storage url => session.downloadAuthorized url directory
  | .plain url => session.downloadPlain url directory

end Session
end InstanceScripts
