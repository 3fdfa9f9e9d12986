import InstanceScripts.Json.Number

/-!
# Reading JSON texts

A text is read as one value between blanks.  Values nest to a depth of 127; a
member name that is repeated takes the value written last.
-/

namespace InstanceScripts
namespace Json
namespace Reader

/-- The blanks between the tokens of a text. -/
def isSpace (char : Char) : Bool :=
  char == ' ' || char == '\t' || char == '\n' || char == '\r'

def skipSpace (chars : List Char) : List Char :=
  chars.dropWhile isSpace

/-- Four hexadecimal digits at the front of a text. -/
def hexUnit? : List Char → Option (Nat × List Char)
  | a :: b :: c :: d :: rest => (Text.number? 16 [a, b, c, d]).map (·, rest)
  | _ => none

/-- The character after `\u`; one beyond `U+FFFF` is written as two escapes. -/
def escapedUnit? (chars : List Char) : Option (Char × List Char) :=
  match hexUnit? chars with
  | none => none
  | some (unit, rest) =>
      if 0xDC00 ≤ unit ∧ unit ≤ 0xDFFF then none
      else if 0xD800 ≤ unit ∧ unit ≤ 0xDBFF then
        match rest with
        | '\\' :: 'u' :: rest =>
            match hexUnit? rest with
            | some (low, rest) =>
                if 0xDC00 ≤ low ∧ low ≤ 0xDFFF then
                  some (Char.ofNat (0x10000 + (unit - 0xD800) * 0x400 + (low - 0xDC00)), rest)
                else none
            | none => none
        | _ => none
      else some (Char.ofNat unit, rest)

/-- The character that a one-letter escape stands for. -/
def shortEscape? : Char → Option Char
  | '"' => some '"'
  | '\\' => some '\\'
  | '/' => some '/'
  | 'b' => some '\x08'
  | 'f' => some '\x0c'
  | 'n' => some '\n'
  | 'r' => some '\r'
  | 't' => some '\t'
  | _ => none

/-- Read a string after its opening quote. -/
def stringBody? : Nat → List Char → Option (List Char × List Char)
  | 0, _ => none
  | _ + 1, [] => none
  | fuel + 1, char :: chars =>
      if char = '"' then some ([], chars)
      else if char = '\\' then
        match chars with
        | 'u' :: rest =>
            match escapedUnit? rest with
            | some (unit, rest) =>
                (stringBody? fuel rest).map fun (text, rest) => (unit :: text, rest)
            | none => none
        | escape :: rest =>
            match shortEscape? escape with
            | some unit =>
                (stringBody? fuel rest).map fun (text, rest) => (unit :: text, rest)
            | none => none
        | [] => none
      else if char.toNat < 0x20 then none
      else (stringBody? fuel chars).map fun (text, rest) => (char :: text, rest)

/-- Read a string after its opening quote; every step takes a character. -/
def string? (chars : List Char) : Option (String × List Char) :=
  (stringBody? (chars.length + 1) chars).map fun (text, rest) => (String.ofList text, rest)

/-- A fixed word at the front of a text. -/
def word? (word : List Char) (chars : List Char) : Option (List Char) :=
  if word.isPrefixOf chars then some (chars.drop word.length) else none

mutual

/-- Read a value; `depth` is the nesting that is still allowed. -/
def value? (fuel depth : Nat) (chars : List Char) : Option (Json × List Char) :=
  match fuel with
  | 0 => none
  | fuel + 1 =>
      match skipSpace chars with
      | [] => none
      | '"' :: rest => (string? rest).map fun (text, rest) => (.str text, rest)
      | 'n' :: rest => (word? ['u', 'l', 'l'] rest).map (.null, ·)
      | 't' :: rest => (word? ['r', 'u', 'e'] rest).map (.bool true, ·)
      | 'f' :: rest => (word? ['a', 'l', 's', 'e'] rest).map (.bool false, ·)
      | '[' :: rest =>
          if depth ≤ 1 then none
          else
            match skipSpace rest with
            | ']' :: rest => some (.arr [], rest)
            | rest => (items? fuel (depth - 1) rest).map fun (items, rest) => (.arr items, rest)
      | '\x7b' :: rest =>
          if depth ≤ 1 then none
          else
            match skipSpace rest with
            | '\x7d' :: rest => some (.obj [], rest)
            | rest =>
                (members? fuel (depth - 1) [] rest).map
                  fun (members, rest) => (.obj members, rest)
      | chars => Number.read chars

/-- Read the items of an array, of which there is at least one. -/
def items? (fuel depth : Nat) (chars : List Char) : Option (List Json × List Char) :=
  match fuel with
  | 0 => none
  | fuel + 1 =>
      match value? fuel depth chars with
      | none => none
      | some (item, rest) =>
          match skipSpace rest with
          | ']' :: rest => some ([item], rest)
          | ',' :: rest =>
              (items? fuel depth rest).map fun (items, rest) => (item :: items, rest)
          | _ => none

/-- Read the members of an object, of which there is at least one. -/
def members? (fuel depth : Nat) (read : List (String × Json)) (chars : List Char) :
    Option (List (String × Json) × List Char) :=
  match fuel with
  | 0 => none
  | fuel + 1 =>
      match skipSpace chars with
      | '"' :: rest =>
          match string? rest with
          | none => none
          | some (name, rest) =>
              match skipSpace rest with
              | ':' :: rest =>
                  match value? fuel depth rest with
                  | none => none
                  | some (value, rest) =>
                      let read := setMember read name value
                      match skipSpace rest with
                      | '\x7d' :: rest => some (read, rest)
                      | ',' :: rest => members? fuel depth read rest
                      | _ => none
              | _ => none
      | _ => none

end

end Reader

/-- The value written in a text.  Every step of the reader takes a character or
descends into a value that does, so twice the length is fuel enough. -/
def parse? (text : String) : Option Json :=
  let chars := text.toList
  match Reader.value? (2 * chars.length + 2) 128 chars with
  | some (value, rest) => if (Reader.skipSpace rest).isEmpty then some value else none
  | none => none

end Json
end InstanceScripts
