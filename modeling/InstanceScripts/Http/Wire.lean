import InstanceScripts.Http

/-!
# Messages on the wire

The octets of a request as they are sent over a connection, and the reply in the octets
that come back until the connection is closed.
-/

namespace InstanceScripts
namespace Http

/-! ## Requests -/

/-- The end of a line. -/
def lineEnd : Octets :=
  [0x0D, 0x0A]

/-- A header line. -/
def headerLine (name value : String) : Octets :=
  Utf8.encode (name ++ ": " ++ value) ++ lineEnd

/-- The server that a request names. -/
def authorityOf (url : Url) : String :=
  let host := (url.host?.map (·.render)).getD []
  let port :=
    match url.authority.bind (·.port) with
    | some port => ':' :: Text.decimal port
    | none => []
  String.ofList (host ++ port)

/-- What a request asks the server for. -/
def targetOf (url : Url) : String :=
  let path := url.path.render
  let query :=
    match url.query with
    | some query => '?' :: query
    | none => []
  String.ofList ((if path.isEmpty then ['/'] else path) ++ query)

/-- The octets of a request, after which the server is to close the connection. -/
def Request.octets (request : Request) : Octets :=
  let credentials := request.credentials.map fun credential =>
    headerLine "authorization" credential.headerValue
  Utf8.encode ("GET " ++ targetOf request.url ++ " HTTP/1.1") ++ lineEnd ++
    headerLine "host" (authorityOf request.url) ++ headerLine "accept" "*/*" ++
    credentials.flatten ++
    (if request.flavored then headerLine "metadata-flavor" "Google" else []) ++
    headerLine "connection" "close" ++ lineEnd

/-! ## Replies -/

/-- A line without its end, and what follows it. -/
def takeLine? : Octets → Option (Octets × Octets)
  | [] => none
  | octet :: rest =>
      if octet = 0x0A then some ([], rest)
      else
        (takeLine? rest).map fun (line, after) =>
          (if octet = 0x0D ∧ line.isEmpty then [] else octet :: line, after)

/-- Whether an octet is a blank or a tab. -/
def isSpace (octet : UInt8) : Bool :=
  octet == 0x20 || octet == 0x09

/-- Octets without the blanks around them. -/
def trimSpaces (octets : Octets) : Octets :=
  ((octets.dropWhile isSpace).reverse.dropWhile isSpace).reverse

/-- Name and value of a header line. -/
def header? (line : Octets) : Option (String × Octets) :=
  match line.dropWhile (· != 0x3A) with
  | [] => none
  | _ :: value =>
      some (Utf8.decodeLossy (line.takeWhile (· != 0x3A)), trimSpaces value)

/-- The headers up to the empty line, and the body behind it. -/
def headers? : Nat → Octets → Option (List (String × Octets) × Octets)
  | 0, _ => none
  | fuel + 1, octets =>
      match takeLine? octets with
      | none => none
      | some ([], body) => some ([], body)
      | some (line, rest) =>
          match header? line, headers? fuel rest with
          | some header, some (headers, body) => some (header :: headers, body)
          | _, _ => none

/-- The status in the first line of a reply. -/
def status? (line : Octets) : Option Nat :=
  match (Utf8.decodeLossy line).toList.splitOn ' ' with
  | version :: code :: _ =>
      if "HTTP/1.".toList.isPrefixOf version ∧ code.length = 3 then Text.number? 10 code
      else none
  | _ => none

/-- The size of a chunk, in hexadecimal before any extension. -/
def chunkSize? (line : Octets) : Option Nat :=
  let digits := (Utf8.decodeLossy (trimSpaces line)).toList.takeWhile fun char =>
    char != ';' && char != ' '
  Text.number? 16 digits

/-- The content of chunks, and whether it breaks off. -/
def chunks : Nat → Octets → Octets × Bool
  | 0, _ => ([], true)
  | fuel + 1, octets =>
      match takeLine? octets with
      | none => ([], true)
      | some (line, rest) =>
          match chunkSize? line with
          | none => ([], true)
          | some 0 => ([], false)
          | some size =>
              let content := rest.take size
              if content.length < size then (content, true)
              else
                match takeLine? (rest.drop size) with
                | some ([], rest) =>
                    let (more, broken) := chunks fuel rest
                    (content ++ more, broken)
                | _ => (content, true)

/-- The body in what follows the headers, and whether it breaks off. -/
def bodyIn (headers : List (String × Octets)) (octets : Octets) : Octets × Bool :=
  let value? (name : String) : Option (List Char) :=
    (headers.find? (·.1.toLower == name)).map fun header => (Utf8.decodeLossy header.2).toList
  if (value? "transfer-encoding").any (·.map Char.toLower == "chunked".toList) then
    chunks (octets.length + 1) octets
  else
    match (value? "content-length").bind (Text.number? 10) with
    | some length => (octets.take length, octets.length < length)
    | none => (octets, false)

/-- The reply in the octets of a connection.  Without complete headers there is no
answer. -/
def Reply.ofOctets (octets : Octets) : Reply :=
  match takeLine? octets with
  | none => .dropped
  | some (line, rest) =>
      match status? line, headers? (rest.length + 1) rest with
      | some status, some (headers, rest) =>
          let (body, truncated) := bodyIn headers rest
          .answer status headers body truncated
      | _, _ => .dropped

end Http
end InstanceScripts
