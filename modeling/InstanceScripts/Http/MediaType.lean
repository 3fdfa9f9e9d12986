import InstanceScripts.Text.Utf8

/-!
# Media types

What a content type says about a body: a type, a subtype and parameters.  A content
type that breaks a rule of its form anywhere says nothing at all.
-/

namespace InstanceScripts
namespace Http

/-- A media type.  The values of its parameters stand without the quotes around them
and otherwise as they are written. -/
structure MediaType where
  type : List Char
  subtype : List Char
  parameters : List (List Char × List Char)
  deriving DecidableEq, Repr

namespace MediaType

/-! ## Pieces -/

/-- Characters of a name and of a value without quotes. -/
def isTokenChar (char : Char) : Bool :=
  char.isAlphanum ||
    ['!', '#', '$', '%', '&', '\'', '*', '+', '-', '.', '^', '_', '\x60', '|', '~'].contains char

/-- Characters of a value in quotes. -/
def isQuotable (char : Char) : Bool :=
  0x20 ≤ char.toNat && char.toNat ≠ 0x7F

/-- Put characters before the first piece. -/
def extend (front : List Char) : List (List Char) → List (List Char)
  | [] => [front]
  | piece :: others => (front ++ piece) :: others

/-- The pieces of a text between the semicolons outside quotes.  The flag says that the
text begins inside quotes. -/
def pieces : Bool → List Char → List (List Char)
  | _, [] => [[]]
  | true, '\\' :: char :: rest => extend ['\\', char] (pieces true rest)
  | isQuoted, char :: rest =>
      if char = ';' ∧ !isQuoted then [] :: pieces false rest
      else extend [char] (pieces (if char = '"' then !isQuoted else isQuoted) rest)

/-! ## Parameters -/

/-- A value up to its closing quote, and what follows the quote. -/
def quoted? : List Char → Option (List Char × List Char)
  | [] => none
  | '"' :: rest => some ([], rest)
  | '\\' :: char :: rest =>
      if isQuotable char then
        (quoted? rest).map fun (value, rest) => ('\\' :: char :: value, rest)
      else none
  | char :: rest =>
      if isQuotable char then (quoted? rest).map fun (value, rest) => (char :: value, rest)
      else none

/-- The value of a parameter.  Without quotes only the last value may be empty. -/
def value? (isLast : Bool) : List Char → Option (List Char)
  | '"' :: rest =>
      (quoted? rest).bind fun (value, rest) => if rest.all (· = ' ') then some value else none
  | value => if value.all isTokenChar ∧ (isLast ∨ value ≠ []) then some value else none

/-- A name and its value.  Spaces may stand before the name only. -/
def parameter? (isLast : Bool) (piece : List Char) : Option (List Char × List Char) :=
  let piece := piece.dropWhile (· = ' ')
  let name := piece.takeWhile isTokenChar
  match piece.dropWhile isTokenChar with
  | '=' :: value => if name = [] then none else (value? isLast value).map fun value => (name, value)
  | _ => none

/-- All parameters.  The last piece may be blank. -/
def parameters? : List (List Char) → Option (List (List Char × List Char))
  | [] => some []
  | [piece] =>
      if piece.all (· = ' ') then some []
      else (parameter? true piece).map fun last => [last]
  | piece :: others =>
      (parameter? false piece).bind fun first => (parameters? others).map (first :: ·)

/-! ## Whole types -/

/-- Read a media type. -/
def ofChars? (chars : List Char) : Option MediaType :=
  match pieces false chars with
  | [] => none
  | essence :: others =>
      let type := essence.takeWhile isTokenChar
      match essence.dropWhile isTokenChar with
      | '/' :: subtype =>
          if type = [] ∨ subtype = [] ∨ !subtype.all isTokenChar then none
          else (parameters? others).map fun parameters => ⟨type, subtype, parameters⟩
      | _ => none

/-- Octets of a header that is read as a text. -/
def isVisible (octet : UInt8) : Bool :=
  octet == 0x09 || (0x20 ≤ octet && octet < 0x7F)

/-- Read the value of a header. -/
def ofHeader? (value : Octets) : Option MediaType :=
  if value.all isVisible then ofChars? (value.map fun octet => Char.ofNat octet.toNat) else none

/-- The first value of a parameter, whatever the case of its name. -/
def lookup? (media : MediaType) (name : String) : Option (List Char) :=
  (media.parameters.find? fun parameter =>
    String.ofList (parameter.1.map Char.toLower) == name).map (·.2)

end MediaType
end Http
end InstanceScripts
