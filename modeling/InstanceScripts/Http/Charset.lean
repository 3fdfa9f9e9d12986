import InstanceScripts.Http.MediaType
import InstanceScripts.Text.CodePage

/-!
# Texts in answers

The text of a body, in the encoding that a mark at its beginning or else the content
type names.  What is not text in that encoding becomes `U+FFFD`.  Encodings that write a
character as several octets by tables are told apart, but the tables are not here: how such
octets are read is a parameter.
-/

namespace InstanceScripts
namespace Http

/-- The encodings that write a character as one octet or more, by tables. -/
inductive Tabled where
  | gb18030
  | big5
  | eucJp
  | iso2022Jp
  | shiftJis
  | eucKr
  deriving DecidableEq, Repr

/-- The encodings that are told apart.  Any other one is taken for UTF-8, except those
that no text is ever read from. -/
inductive Charset where
  | utf8
  | utf16 (bigEndian : Bool)
  | octetwise (page : Text.CodePage)
  | tabled (encoding : Tabled)
  | withheld
  deriving DecidableEq, Repr

namespace Tabled

/-- Names of an encoding, all in lower case. -/
def names : Tabled → List String
  | gb18030 =>
      ["chinese", "csgb2312", "csiso58gb231280", "gb18030", "gb2312", "gb_2312", "gb_2312-80",
        "gbk", "iso-ir-58", "x-gbk"]
  | big5 => ["big5", "big5-hkscs", "cn-big5", "csbig5", "x-x-big5"]
  | eucJp => ["cseucpkdfmtjapanese", "euc-jp", "x-euc-jp"]
  | iso2022Jp => ["csiso2022jp", "iso-2022-jp"]
  | shiftJis =>
      ["csshiftjis", "ms932", "ms_kanji", "shift-jis", "shift_jis", "sjis", "windows-31j",
        "x-sjis"]
  | eucKr =>
      ["cseuckr", "csksc56011987", "euc-kr", "iso-ir-149", "korean", "ks_c_5601-1987",
        "ks_c_5601-1989", "ksc5601", "ksc_5601", "windows-949"]

/-- The encoding with a name. -/
def named? (name : String) : Option Tabled :=
  [gb18030, big5, eucJp, iso2022Jp, shiftJis, eucKr].find? (·.names.contains name)

/-- How octets in such an encoding are read. -/
abbrev Decoder := Tabled → Octets → String

/-- Without the tables, everything is read as UTF-8. -/
def untabled : Decoder :=
  fun _ => Utf8.decodeLossy

end Tabled

namespace Charset

/-! ## Names -/

/-- Names of UTF-16 with the low octet first. -/
def utf16Names : List String :=
  ["csunicode", "iso-10646-ucs-2", "ucs-2", "unicode", "unicodefeff", "utf-16", "utf-16le"]

/-- Names of UTF-16 with the high octet first. -/
def utf16BigEndianNames : List String :=
  ["unicodefffe", "utf-16be"]

/-- Names of encodings that no text is read from. -/
def withheldNames : List String :=
  ["csiso2022kr", "hz-gb-2312", "iso-2022-cn", "iso-2022-cn-ext", "iso-2022-kr", "replacement"]

/-- Characters that may surround a name. -/
def isPadding (char : Char) : Bool :=
  [' ', '\t', '\n', '\x0c', '\r'].contains char

/-- A text without the padding around it. -/
def trimmed (chars : List Char) : List Char :=
  ((chars.dropWhile isPadding).reverse.dropWhile isPadding).reverse

/-- The encoding with a name. -/
def ofName (name : List Char) : Charset :=
  let name := String.ofList ((trimmed name).map Char.toLower)
  if utf16Names.contains name then .utf16 false
  else if utf16BigEndianNames.contains name then .utf16 true
  else if withheldNames.contains name then .withheld
  else
    match Text.CodePage.named? name, Tabled.named? name with
    | some page, _ => .octetwise page
    | none, some encoding => .tabled encoding
    | none, none => .utf8

/-- The encoding that a content type names. -/
def ofContentType (value : Octets) : Charset :=
  match (MediaType.ofHeader? value).bind (·.lookup? "charset") with
  | some name => ofName name
  | none => .utf8

/-! ## Decoding -/

/-- Units of sixteen bits; the flag says that an octet is left over. -/
def units (bigEndian : Bool) : Octets → List Nat × Bool
  | [] => ([], false)
  | [_] => ([], true)
  | first :: second :: rest =>
      let unit :=
        if bigEndian then first.toNat * 256 + second.toNat
        else second.toNat * 256 + first.toNat
      let (others, left) := units bigEndian rest
      (unit :: others, left)

def isHighSurrogate (unit : Nat) : Bool :=
  0xD800 ≤ unit && unit < 0xDC00

def isLowSurrogate (unit : Nat) : Bool :=
  0xDC00 ≤ unit && unit < 0xE000

/-- The characters of units; a surrogate without its partner is no character. -/
def ofUnits : List Nat → List Char
  | [] => []
  | [unit] =>
      [if isHighSurrogate unit ∨ isLowSurrogate unit then '\uFFFD' else Char.ofNat unit]
  | unit :: next :: rest =>
      if isHighSurrogate unit then
        if isLowSurrogate next then
          Char.ofNat (0x10000 + (unit - 0xD800) * 0x400 + (next - 0xDC00)) :: ofUnits rest
        else '\uFFFD' :: ofUnits (next :: rest)
      else if isLowSurrogate unit then '\uFFFD' :: ofUnits (next :: rest)
      else Char.ofNat unit :: ofUnits (next :: rest)

/-- The text of octets in units of sixteen bits.  What the end leaves unfinished counts
once, be it an octet, a surrogate or both. -/
def decodeUnits (bigEndian : Bool) (octets : Octets) : List Char :=
  let (units, isLeft) := units bigEndian octets
  if isLeft then
    let finished := if units.getLast?.any isHighSurrogate then units.dropLast else units
    ofUnits finished ++ ['\uFFFD']
  else ofUnits units

/-- The text of octets in an encoding. -/
def decode (decoder : Tabled.Decoder) (charset : Charset) (octets : Octets) : String :=
  match charset with
  | .utf8 => Utf8.decodeLossy octets
  | .utf16 bigEndian => String.ofList (decodeUnits bigEndian octets)
  | .octetwise page => String.ofList (page.decode octets)
  | .tabled encoding => decoder encoding octets
  | .withheld => if octets.isEmpty then "" else "\uFFFD"

/-- The text of a body.  A byte order mark decides before the content type does. -/
def decodeBody (decoder : Tabled.Decoder) (contentType : Option Octets) (body : Octets) :
    String :=
  match body with
  | 0xEF :: 0xBB :: 0xBF :: rest => decode decoder .utf8 rest
  | 0xFE :: 0xFF :: rest => decode decoder (.utf16 true) rest
  | 0xFF :: 0xFE :: rest => decode decoder (.utf16 false) rest
  | body => decode decoder ((contentType.map ofContentType).getD .utf8) body

end Charset
end Http
end InstanceScripts
