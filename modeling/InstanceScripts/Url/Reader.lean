import InstanceScripts.Url.Basic
import InstanceScripts.Url.Segments

/-!
# Reading URLs

A text is read as a URL by itself or against a base.  Blanks around it are trimmed,
tabs and line breaks inside it are dropped, and the rest is taken apart from the
front: scheme, authority, path, query, fragment.
-/

namespace InstanceScripts
namespace Url
namespace Reader

/-- Characters trimmed at both ends. -/
def isTrimmed (char : Char) : Bool :=
  char.toNat ≤ 0x20

/-- Characters dropped wherever they stand. -/
def isDropped (char : Char) : Bool :=
  char == '\t' || char == '\n' || char == '\r'

/-- The characters that count. -/
def significant (chars : List Char) : List Char :=
  let trimmed := ((chars.dropWhile isTrimmed).reverse.dropWhile isTrimmed).reverse
  trimmed.filter (!isDropped ·)

/-- Characters of a scheme after its first letter. -/
def isSchemeChar (char : Char) : Bool :=
  Segments.isAsciiLetter char || Text.isDigit char || char == '+' || char == '-' || char == '.'

/-- A scheme in lower case and what follows its colon. -/
def scheme? (chars : List Char) : Option (List Char × List Char) :=
  match chars with
  | first :: _ =>
      if Segments.isAsciiLetter first then
        match chars.dropWhile isSchemeChar with
        | ':' :: rest => some ((chars.takeWhile isSchemeChar).map Char.toLower, rest)
        | _ => none
      else none
  | [] => none

/-- How URLs of a scheme are read. -/
def mannerOf (scheme : List Char) : Manner :=
  if scheme = "file".toList then .file
  else if isSpecialScheme scheme then .special
  else .general

/-- The end of an authority. -/
def endsAuthority (manner : Manner) (char : Char) : Bool :=
  Segments.isSlash manner char || char == '?' || char == '#'

/-! ## Query and fragment -/

/-- The query and the fragment at the end of a URL. -/
def tail (manner : Manner) (chars : List Char) : Option (List Char) × Option (List Char) :=
  let encodedQuery := if manner = .general then Percent.query else Percent.specialQuery
  let fragmentOf : List Char → Option (List Char)
    | '#' :: rest => some (Percent.encode Percent.fragment rest)
    | _ => none
  match chars with
  | '?' :: rest =>
      (some (Percent.encode encodedQuery (rest.takeWhile (· ≠ '#'))),
        fragmentOf (rest.dropWhile (· ≠ '#')))
  | chars => (none, fragmentOf chars)

/-! ## Paths -/

/-- The path at the front of a text, behind its first slash. -/
def pathPart (chars : List Char) : List Char :=
  chars.takeWhile fun char => char ≠ '?' && char ≠ '#'

/-- The segments at the front of a text, behind the first slash and behind other
segments, which are given from the last one to the first. -/
def segments (manner : Manner) (reversed : List (List Char)) (chars : List Char) :
    List (List Char) :=
  Segments.append manner reversed ((pathPart chars).splitOnP (Segments.isSlash manner))

/-- Query and fragment behind a path. -/
def afterPath (manner : Manner) (chars : List Char) :
    Option (List Char) × Option (List Char) :=
  tail manner (chars.drop (pathPart chars).length)

/-- Path, query and fragment behind the first slash of a path. -/
def afterSlash (manner : Manner) (reversed : List (List Char)) (chars : List Char) :
    Path × Option (List Char) × Option (List Char) :=
  (.segments (segments manner reversed chars), afterPath manner chars)

/-- Path, query and fragment after an authority.  A path that does not begin with a
slash is given one; the path of a special URL is never empty. -/
def afterAuthority (manner : Manner) (chars : List Char) :
    Path × Option (List Char) × Option (List Char) :=
  match chars with
  | [] => if manner = .general then (.segments [], none, none) else (.segments [[]], none, none)
  | first :: rest =>
      if Segments.isSlash manner first then afterSlash manner [] rest
      else if manner = .general ∧ (first = '?' ∨ first = '#') then
        (.segments [], tail manner chars)
      else afterSlash manner [] chars

/-! ## Authorities -/

/-- Split at the last `@`. -/
def splitUserinfo (chars : List Char) : Option (List Char) × List Char :=
  if chars.contains '@' then
    let reversed := chars.reverse
    (some ((reversed.dropWhile (· ≠ '@')).drop 1).reverse,
      (reversed.takeWhile (· ≠ '@')).reverse)
  else (none, chars)

/-- User name and password, percent-encoded; an empty password is none. -/
def userinfo (chars : List Char) : List Char × Option (List Char) :=
  let username := chars.takeWhile (· ≠ ':')
  let password := (chars.dropWhile (· ≠ ':')).drop 1
  (Percent.encode Percent.userinfo username,
    if password.isEmpty then none else some (Percent.encode Percent.userinfo password))

/-- Split a host from what follows it: the first colon outside brackets, or the end of
the authority. -/
def splitHost (manner : Manner) (bracketed : Bool) : List Char → List Char × List Char
  | [] => ([], [])
  | char :: chars =>
      if endsAuthority manner char ∨ (char = ':' ∧ !bracketed) then ([], char :: chars)
      else
        let bracketed := if char = '[' then true else if char = ']' then false else bracketed
        let (host, rest) := splitHost manner bracketed chars
        (char :: host, rest)

/-- What a port may be followed by. -/
def endsPort (char : Char) : Bool :=
  char == '/' || char == '\\' || char == '?' || char == '#'

/-- A port behind its colon, and what follows it; no port if it has no digits or is
implied by the scheme. -/
def port (scheme : List Char) (chars : List Char) : Except Fault (Option Nat × List Char) :=
  let digits := chars.takeWhile Text.isDigit
  let rest := chars.drop digits.length
  if rest.head?.any (!endsPort ·) then .error .invalidPort
  else if digits.isEmpty then .ok (none, rest)
  else
    match (Text.number? 10 digits).filter (· ≤ 65535) with
    | none => .error .invalidPort
    | some number =>
        .ok (if some number = defaultPort? scheme then none else some number, rest)

/-- The host of an authority.  It may be empty where the scheme is not special. -/
def host (manner : Manner) (chars : List Char) : Except Fault (Option Host) :=
  if manner = .general then
    if chars.isEmpty then .ok none else (Host.readGeneric chars).map some
  else if chars.isEmpty then .error .emptyHost
  else (Host.readSpecial chars).map some

/-- Everything after the two slashes, unless the scheme is `file`.  User name, password
and port need a host. -/
def authority (scheme chars : List Char) : Except Fault Url := do
  let manner := mannerOf scheme
  let part := chars.takeWhile (!endsAuthority manner ·)
  let (info?, hostPart) := splitUserinfo part
  let rest := hostPart ++ chars.drop part.length
  if info? = some [] ∧ hostPart.isEmpty ∧ !rest.isEmpty then throw .emptyHost
  let (username, password) := userinfo (info?.getD [])
  let (hostChars, rest) := splitHost manner false rest
  let host ← host manner hostChars
  if host = none ∧ rest.head? = some ':' then throw .emptyHost
  let (port, rest) ← if rest.head? = some ':' then port scheme (rest.drop 1) else .ok (none, rest)
  if host = none ∧ (!username.isEmpty ∨ password.isSome) then throw .emptyHost
  let (path, query, fragment) := afterAuthority manner rest
  return { scheme, path, query, fragment, authority := some ⟨username, password, host, port⟩ }

/-- A `file` URL with a host and a path.  A path that begins
with a drive leaves no place for a host. -/
def fileUrl (host : Option Host) (chars : List Char) : Url :=
  let list := segments .file [] chars
  let host := if list.head?.any Segments.isDrive then none else host
  let (query, fragment) := afterPath .file chars
  { scheme := "file".toList
    authority := some ⟨[], none, host, none⟩
    path := .segments (Segments.trimmed list)
    query, fragment }

/-- The text behind a slash, if it begins with one. -/
def dropSlash : List Char → List Char
  | [] => []
  | first :: rest => if Segments.isSlash .file first then rest else first :: rest

/-- A `file` URL: the host may be left out, `localhost` says as much, and what names a
drive is no host.  Without a host the slash behind its place counts as an empty
segment, so that only a drive in the host's place has its mark replaced. -/
def file (chars : List Char) : Except Fault Url :=
  match chars with
  | first :: second :: rest =>
      if Segments.isSlash .file first ∧ Segments.isSlash .file second then
        let part := rest.takeWhile (!endsAuthority .file ·)
        let after := rest.drop part.length
        if part.isEmpty ∨ Segments.isDrive part then .ok (fileUrl none rest)
        else
          (Host.readSpecial part).map fun host =>
            if host = .domain "localhost".toList then fileUrl none after
            else fileUrl (some host) (dropSlash after)
      else .ok (fileUrl none (dropSlash chars))
  | chars => .ok (fileUrl none (dropSlash chars))

/-- A URL that is neither special nor has an authority. -/
def rootless (scheme chars : List Char) : Url :=
  match chars with
  | '/' :: rest =>
      let (path, query, fragment) := afterSlash .general [] rest
      { scheme, authority := none, path, query, fragment }
  | chars =>
      let (query, fragment) := afterPath .general chars
      { scheme, authority := none, query, fragment
        path := .rootless (Percent.encode Percent.controls (pathPart chars)) }

/-! ## References -/

/-- The segments of a path. -/
def segmentsOf : Path → List (List Char)
  | .segments list => list
  | .rootless _ => []

/-- A reference without a scheme, against a base with a rooted path. -/
def relative (base : Url) (chars : List Char) : Except Fault Url :=
  let manner := mannerOf base.scheme
  match chars with
  | [] => .ok { base with fragment := none }
  | '#' :: _ => .ok { base with fragment := (tail manner chars).2 }
  | '?' :: _ =>
      let (query, fragment) := tail manner chars
      .ok { base with query, fragment }
  | first :: rest =>
      if Segments.isSlash .special first then
        match rest with
        | second :: afterTwo =>
            if Segments.isSlash .special second then
              if first = '/' ∧ second = '/' then authority base.scheme afterTwo
              else authority base.scheme (afterTwo.dropWhile (Segments.isSlash .special))
            else
              let (path, query, fragment) := afterSlash manner [] rest
              .ok { base with path, query, fragment }
        | [] =>
            let (path, query, fragment) := afterSlash manner [] rest
            .ok { base with path, query, fragment }
      else
        let reversed := (segmentsOf base.path).dropLast.reverse
        let (path, query, fragment) := afterSlash manner reversed chars
        .ok { base with path, query, fragment }

/-- A URL whose scheme has been read. -/
def withScheme (base : Option Url) (scheme rest : List Char) : Except Fault Url :=
  match mannerOf scheme with
  | .file => file rest
  | .special =>
      let slashes := (rest.takeWhile (Segments.isSlash .special)).length
      match base with
      | some base =>
          if slashes < 2 ∧ base.scheme = scheme then relative base rest
          else authority scheme (rest.dropWhile (Segments.isSlash .special))
      | none => authority scheme (rest.dropWhile (Segments.isSlash .special))
  | .general =>
      match rest with
      | '/' :: '/' :: rest => authority scheme rest
      | rest => .ok (rootless scheme rest)

end Reader

/-- Read a URL, against a base if there is one. -/
def read (base : Option Url) (text : List Char) : Except Fault Url :=
  let chars := Reader.significant text
  match Reader.scheme? chars with
  | some (scheme, rest) => Reader.withScheme base scheme rest
  | none =>
      match base with
      | none => .error .relativeWithoutBase
      | some base =>
          match base.path, chars with
          | .rootless _, '#' :: _ =>
              .ok { base with fragment := (Reader.tail (Reader.mannerOf base.scheme) chars).2 }
          | .rootless _, _ => .error .relativeToRootless
          | .segments _, _ => Reader.relative base chars

/-- The URL that a text is by itself. -/
def parse (text : String) : Except Fault Url :=
  read none text.toList

/-- The URL that a reference denotes when it is found at `base`. -/
def resolve (base : Url) (reference : String) : Except Fault Url :=
  read (some base) reference.toList

end Url
end InstanceScripts
