import InstanceScripts.Binary64
import InstanceScripts.Text.Quoted
import InstanceScripts.Yaml.Token

/-!
# The meaning of scalars

A plain scalar is null, a boolean, an integer, a double or a text, by its spelling; a
quoted or block scalar is a text.  The tags of the basic types choose the type
instead.
-/

namespace InstanceScripts
namespace Yaml

/-- What a scalar means.  An integer that does not fit into 64 bits is wide: it has a
meaning that no value of this library holds. -/
inductive Atom where
  | null
  | bool (value : Bool)
  | int (value : Int)
  | wide (value : Int)
  | float (value : Binary64)
  | str (value : String)
  deriving DecidableEq, Repr

namespace Scalar

/-! ## Numbers -/

/-- Integers below a power of two, written in decimal or with a base marker. -/
def unsigned? (bits : Nat) (text : List Char) : Option Nat :=
  let digits :=
    match text with
    | '+' :: rest => rest
    | text => text
  let number? (base : Nat) (digits : List Char) : Option Nat :=
    (Text.number? base digits).filter (· < Nat.pow 2 bits)
  match digits with
  | '0' :: 'x' :: rest => number? 16 rest
  | '0' :: 'o' :: rest => number? 8 rest
  | '0' :: 'b' :: rest => number? 2 rest
  | '0' :: _ :: _ => none
  | digits => number? 10 digits

/-- Integers with a minus sign, down to minus a power of two. -/
def negative? (bits : Nat) (text : List Char) : Option Int :=
  let number? (base : Nat) (digits : List Char) : Option Int :=
    ((Text.number? base digits).filter (· ≤ Nat.pow 2 bits)).map fun number => -(number : Int)
  match text with
  | '-' :: '0' :: 'x' :: rest => number? 16 rest
  | '-' :: '0' :: 'o' :: rest => number? 8 rest
  | '-' :: '0' :: 'b' :: rest => number? 2 rest
  | '-' :: '0' :: _ :: _ => none
  | '-' :: digits => number? 10 digits
  | _ => none

/-- The integer that a text spells. -/
def integer? (text : List Char) : Option Atom :=
  match unsigned? 64 text, negative? 63 text, unsigned? 128 text, negative? 127 text with
  | some value, _, _, _ => some (.int value)
  | none, some value, _, _ => some (.int value)
  | none, none, some value, _ => some (.wide value)
  | none, none, none, some value => some (.wide value)
  | none, none, none, none => none

/-- Several digits of which the first is a zero: such a text is no number. -/
def isZeroPadded (text : List Char) : Bool :=
  let digits :=
    match text with
    | '+' :: rest => rest
    | '-' :: rest => rest
    | text => text
  1 < digits.length && digits.head? == some '0' && digits.all Text.isDigit

/-- An exponent behind its letter. -/
def exponent? (text : List Char) : Option Int :=
  match text with
  | [] => some 0
  | mark :: rest =>
      if mark = 'e' ∨ mark = 'E' then
        match rest with
        | '+' :: digits => (Text.number? 10 digits).map (↑·)
        | '-' :: digits => (Text.number? 10 digits).map fun number => -(number : Int)
        | digits => (Text.number? 10 digits).map (↑·)
      else none

/-- Digits with an optional decimal point and an optional exponent; a digit has to
stand on one side of the point at least. -/
def magnitude? (text : List Char) : Option Binary64 :=
  let whole := text.takeWhile Text.isDigit
  let rest := text.dropWhile Text.isDigit
  let (places, rest) :=
    match rest with
    | '.' :: rest => (rest.takeWhile Text.isDigit, rest.dropWhile Text.isDigit)
    | rest => ([], rest)
  match Text.number? 10 (whole ++ places), exponent? rest with
  | some digits, some exponent => some (Binary64.ofDecimal digits (exponent - places.length))
  | _, _ => none

/-- The double that a text spells. -/
def double? (text : List Char) : Option Binary64 :=
  let finite? (negative : Bool) (text : List Char) : Option Binary64 :=
    ((magnitude? text).filter (·.isFinite)).map (·.signed negative)
  if [".inf".toList, ".Inf".toList, ".INF".toList, "+.inf".toList, "+.Inf".toList,
      "+.INF".toList].contains text then some Binary64.infinity
  else if ["-.inf".toList, "-.Inf".toList, "-.INF".toList].contains text then
    some Binary64.infinity.negate
  else if [".nan".toList, ".NaN".toList, ".NAN".toList].contains text then some Binary64.nan
  else
    match text with
    | '+' :: rest => finite? false rest
    | '-' :: rest => finite? true rest
    | text => finite? false text

/-! ## All scalars -/

/-- The spellings of null. -/
def isNull (text : List Char) : Bool :=
  ["~".toList, "null".toList, "Null".toList, "NULL".toList].contains text

/-- The spellings of the booleans. -/
def boolean? (text : List Char) : Option Bool :=
  if ["true".toList, "True".toList, "TRUE".toList].contains text then some true
  else if ["false".toList, "False".toList, "FALSE".toList].contains text then some false
  else none

/-- The meaning of a plain scalar without a tag. -/
def plainMeaning (text : List Char) : Atom :=
  if text.isEmpty ∨ isNull text then .null
  else
    match boolean? text, integer? text with
    | some value, _ => .bool value
    | none, some atom => atom
    | none, none =>
        match if isZeroPadded text then none else double? text with
        | some value => .float value
        | none => .str (String.ofList text)

/-- The tag of a basic type. -/
def basicTag (name : String) : Octets :=
  Utf8.encode ("tag:yaml.org,2002:" ++ name)

/-- The meaning of a scalar; if its tag asks for a type that it does not spell, the
words for that type. -/
def meaning (tag : Option Octets) (style : Style) (text : List Char) :
    Except String Atom :=
  match tag with
  | none => .ok (if style = .plain then plainMeaning text else .str (String.ofList text))
  | some tag =>
      if tag = basicTag "bool" then
        match boolean? text with
        | some value => .ok (.bool value)
        | none => .error "a boolean"
      else if tag = basicTag "int" then
        match integer? text with
        | some atom => .ok atom
        | none => .error "an integer"
      else if tag = basicTag "float" then
        match double? text with
        | some value => .ok (.float value)
        | none => .error "a float"
      else if tag = basicTag "null" then
        if isNull text then .ok .null else .error "null"
      else if tag.head? = some 0x21 ∧ style = .plain then .ok (plainMeaning text)
      else .ok (.str (String.ofList text))

end Scalar
end Yaml
end InstanceScripts
