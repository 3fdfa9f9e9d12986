import InstanceScripts.Json.Printer
import InstanceScripts.Json.Reader
import Mathlib.Data.List.DropRight
import Mathlib.Data.List.Nodup

/-!
# Reading what is printed

The reader gets every text back from its printed form, and every object from the form with
one member a line, if its names are distinct and it gets their values back.
-/

namespace InstanceScripts
namespace Json

/-- A name that is not there yet is added behind the others. -/
theorem setMember_of_notMem {members : List (String × Json)} {name : String} (value : Json)
    (fresh : name ∉ members.map Prod.fst) :
    setMember members name value = members ++ [(name, value)] := by
  induction members with
  | nil => rfl
  | cons member rest inductionHypothesis =>
      rw [List.map_cons, List.mem_cons, not_or] at fresh
      obtain ⟨different, elsewhere⟩ := fresh
      rw [setMember, if_neg (Ne.symm different), inductionHypothesis elsewhere,
        List.cons_append]

namespace Reader

@[simp] theorem skipSpace_cons_space (char : Char) (chars : List Char)
    (space : isSpace char = true) : skipSpace (char :: chars) = skipSpace chars :=
  List.dropWhile_cons_of_pos space

@[simp] theorem skipSpace_cons_other (char : Char) (chars : List Char)
    (other : isSpace char = false) : skipSpace (char :: chars) = char :: chars :=
  List.dropWhile_cons_of_neg (by simp [other])

theorem skipSpace_skipSpace (chars : List Char) : skipSpace (skipSpace chars) = skipSpace chars :=
  List.dropWhile_idempotent isSpace chars

/-! ## Strings -/

/-- The digits that a control character is written with are those of its number. -/
theorem hexUnit?_control : ∀ number < 0x20, ∀ rest,
    hexUnit? ('0' :: '0' :: Nat.digitChar (number / 16) :: Nat.digitChar (number % 16) :: rest) =
      some (number, rest) := by
  have digits : ∀ number < 0x20,
      Text.number? 16 ['0', '0', Nat.digitChar (number / 16), Nat.digitChar (number % 16)] =
        some number := by decide
  intro number small rest
  rw [hexUnit?, digits number small, Option.map_some]

/-- One step of the reader takes one character of a text, however it is written. -/
theorem stringBody?_escapedChar (fuel : Nat) (char : Char) (rest : List Char) :
    stringBody? (fuel + 1) (escapedChar char ++ rest) =
      (stringBody? fuel rest).map fun (text, rest) => (char :: text, rest) := by
  unfold escapedChar
  split
  -- Whatever has no short escape is a control character, written by its number, or itself.
  case h_8 quote backslash _ _ _ _ _ =>
    split
    case isTrue control =>
      have unit := hexUnit?_control char.toNat control rest
      have low : ¬0xDC00 ≤ char.toNat := by omega
      have high : ¬0xD800 ≤ char.toNat := by omega
      simp [stringBody?, escapedUnit?, unit, low, high]
    case isFalse printable =>
      have unquoted : char ≠ '"' := fun same => quote same
      have unescaped : char ≠ '\\' := fun same => backslash same
      simp [stringBody?, unquoted, unescaped, printable]
  all_goals simp [stringBody?, shortEscape?]

/-- A text is read back from its characters as they are written, up to the closing quote. -/
theorem stringBody?_flatMap {text : List Char} {fuel : Nat} (rest : List Char)
    (enough : text.length < fuel) :
    stringBody? fuel (text.flatMap escapedChar ++ '"' :: rest) = some (text, rest) := by
  induction text generalizing fuel with
  | nil =>
      obtain ⟨fuel, rfl⟩ := Nat.exists_eq_succ_of_ne_zero (Nat.ne_of_gt enough)
      rfl
  | cons char text inductionHypothesis =>
      obtain ⟨fuel, rfl⟩ := Nat.exists_eq_succ_of_ne_zero (Nat.ne_zero_of_lt enough)
      rw [List.flatMap_cons, List.append_assoc, stringBody?_escapedChar,
        inductionHypothesis (Nat.lt_of_succ_lt_succ enough), Option.map_some]

theorem length_le_flatMap_escapedChar (text : List Char) :
    text.length ≤ (text.flatMap escapedChar).length := by
  induction text with
  | nil => simp
  | cons char text inductionHypothesis =>
      have written : 0 < (escapedChar char).length := by
        unfold escapedChar
        repeat' split
        all_goals simp
      rw [List.flatMap_cons, List.length_append, List.length_cons]
      omega

/-- A string is read back, whatever stands behind it. -/
theorem string?_renderString (text : String) (rest : List Char) :
    ∃ chars, (renderString text).toList ++ rest = '"' :: chars ∧
      string? chars = some (text, rest) := by
  refine ⟨text.toList.flatMap escapedChar ++ '"' :: rest, ?_, ?_⟩
  · simp [renderString]
  · have enough := length_le_flatMap_escapedChar text.toList
    rw [string?, stringBody?_flatMap, Option.map_some]
    · dsimp only
      rw [String.ofList_toList]
    · rw [List.length_append]
      omega

/-! ## Tokens in front -/

theorem value?_space {char : Char} (space : isSpace char = true) (fuel depth : Nat)
    (chars : List Char) : value? fuel depth (char :: chars) = value? fuel depth chars := by
  cases fuel with
  | zero => rfl
  | succ fuel => rw [value?, value?, skipSpace_cons_space char chars space]

theorem value?_quote (fuel depth : Nat) (chars : List Char) :
    value? (fuel + 1) depth ('"' :: chars) =
      (string? chars).map fun (text, rest) => (.str text, rest) := rfl

theorem members?_skipSpace (fuel depth : Nat) (read : List (String × Json))
    (chars : List Char) :
    members? fuel depth read (skipSpace chars) = members? fuel depth read chars := by
  cases fuel with
  | zero => rfl
  | succ fuel => rw [members?, members?, skipSpace_skipSpace]

theorem members?_space {char : Char} (space : isSpace char = true) (fuel depth : Nat)
    (read : List (String × Json)) (chars : List Char) :
    members? fuel depth read (char :: chars) = members? fuel depth read chars := by
  rw [← members?_skipSpace, skipSpace_cons_space char chars space, members?_skipSpace]

/-- What is read as members begins with a quote. -/
theorem exists_quote_of_members? {fuel depth : Nat} {read : List (String × Json)}
    {chars : List Char} {result : List (String × Json) × List Char}
    (held : members? fuel depth read chars = some result) :
    ∃ front, skipSpace chars = '"' :: front := by
  cases fuel with
  | zero => cases held
  | succ fuel =>
      rw [members?] at held
      split at held
      · next front spelled => exact ⟨front, spelled⟩
      · cases held

/-- Members behind a brace are an object. -/
theorem value?_brace {fuel depth : Nat} {chars rest : List Char}
    {members : List (String × Json)} (deep : 1 < depth)
    (held : members? fuel (depth - 1) [] chars = some (members, rest)) :
    value? (fuel + 1) depth ('\x7b' :: chars) = some (.obj members, rest) := by
  obtain ⟨front, spelled⟩ := exists_quote_of_members? held
  rw [← members?_skipSpace, spelled] at held
  rw [value?, skipSpace_cons_other _ _ rfl]
  simp [spelled, held, Nat.not_le.mpr deep]

section Members

variable {fuel depth : Nat} {read : List (String × Json)} {name : String} {value : Json}
  {chars behind rest further : List Char}

/-- A member before a comma is followed by others. -/
theorem members?_next (named : string? chars = some (name, ':' :: behind))
    (held : value? fuel depth behind = some (value, rest))
    (comma : skipSpace rest = ',' :: further) :
    members? (fuel + 1) depth read ('"' :: chars) =
      members? fuel depth (setMember read name value) further := by
  have colon : skipSpace (':' :: behind) = ':' :: behind := skipSpace_cons_other _ _ rfl
  rw [members?, skipSpace_cons_other _ _ rfl]
  simp [named, colon, held, comma]

/-- A member before a brace is the last one. -/
theorem members?_last (named : string? chars = some (name, ':' :: behind))
    (held : value? fuel depth behind = some (value, rest))
    (brace : skipSpace rest = '\x7d' :: further) :
    members? (fuel + 1) depth read ('"' :: chars) =
      some (setMember read name value, further) := by
  have colon : skipSpace (':' :: behind) = ':' :: behind := skipSpace_cons_other _ _ rfl
  rw [members?, skipSpace_cons_other _ _ rfl]
  simp [named, colon, held, brace]

end Members

end Reader

/-! ## Values -/

/-- A value that the reader gets back from its compact form, whatever stands behind it. -/
def ReadsBack (value : Json) : Prop :=
  ∀ fuel depth rest,
    Reader.value? (fuel + 1) depth (value.render.toList ++ rest) = some (value, rest)

theorem readsBack_null : null.ReadsBack := by
  intro fuel depth rest
  rfl

theorem readsBack_str (text : String) : (str text).ReadsBack := by
  intro fuel depth rest
  obtain ⟨chars, spelled, read⟩ := Reader.string?_renderString text rest
  rw [render, spelled, Reader.value?_quote, read, Option.map_some]

/-! ## Objects -/

/-- The line of a member. -/
def memberLine (member : String × Json) : String :=
  "  " ++ renderString member.1 ++ ": " ++ member.2.render

/-- The lines of some members, with commas between them. -/
def memberLines (members : List (String × Json)) : List Char :=
  (",\n".intercalate (members.map memberLine)).toList

theorem memberLines_singleton (member : String × Json) :
    memberLines [member] = (memberLine member).toList := by
  rw [memberLines, List.map_singleton, String.intercalate_singleton]

theorem memberLines_cons_cons (member next : String × Json) (others : List (String × Json)) :
    memberLines (member :: next :: others) =
      (memberLine member).toList ++ ',' :: '\n' :: memberLines (next :: others) := by
  rw [memberLines, List.map_cons, List.map_cons, String.intercalate_cons_cons, ← List.map_cons,
    String.toList_append, String.toList_append, List.append_assoc]
  rfl

theorem length_le_memberLines (members : List (String × Json)) :
    members.length ≤ (memberLines members).length := by
  induction members with
  | nil => simp
  | cons member members inductionHypothesis =>
      have written : 0 < (memberLine member).toList.length := by
        simp [memberLine]
      cases members with
      | nil =>
          rw [memberLines_singleton]
          exact written
      | cons next others =>
          simp only [memberLines_cons_cons, List.length_append, List.length_cons] at *
          omega

namespace Reader

/-- The line of a member is its name and, behind a colon, its value. -/
theorem string?_memberLine (member : String × Json) (rest : List Char) :
    ∃ chars, (memberLine member).toList ++ rest = ' ' :: ' ' :: '"' :: chars ∧
      string? chars = some (member.1, ':' :: ' ' :: (member.2.render.toList ++ rest)) := by
  obtain ⟨chars, quoted, named⟩ :=
    string?_renderString member.1 (':' :: ' ' :: (member.2.render.toList ++ rest))
  refine ⟨chars, ?_, named⟩
  rw [← quoted]
  simp [memberLine]

/-- The lines of all members are read back, behind those that have been read before. -/
theorem members?_memberLines
    {read members : List (String × Json)} {fuel : Nat} (depth : Nat) (rest : List Char)
    (nonempty : members ≠ []) (distinct : ((read ++ members).map Prod.fst).Nodup)
    (readable : ∀ member ∈ members, member.2.ReadsBack) (enough : members.length < fuel) :
    members? fuel depth read (memberLines members ++ '\n' :: '\x7d' :: rest) =
      some (read ++ members, rest) := by
  induction members generalizing read fuel with
  | nil => exact absurd rfl nonempty
  | cons member members inductionHypothesis =>
      -- One unit of fuel goes to the member and one to its value.
      obtain ⟨fuel, rfl⟩ : ∃ more, fuel = more + 2 :=
        ⟨fuel - 2, by rw [List.length_cons] at enough; omega⟩
      have fresh : member.1 ∉ read.map Prod.fst := by
        rw [List.map_append, List.map_cons, List.nodup_append] at distinct
        exact fun listed => distinct.2.2 _ listed _ List.mem_cons_self rfl
      have held (rest : List Char) :
          value? (fuel + 1) depth (' ' :: (member.2.render.toList ++ rest)) =
            some (member.2, rest) := by
        rw [value?_space rfl, readable member List.mem_cons_self fuel depth rest]
      cases members with
      | nil =>
          obtain ⟨chars, spelled, named⟩ := string?_memberLine member ('\n' :: '\x7d' :: rest)
          rw [memberLines_singleton, spelled, members?_space rfl, members?_space rfl,
            members?_last named (held _) rfl, setMember_of_notMem _ fresh]
      | cons next others =>
          obtain ⟨chars, spelled, named⟩ := string?_memberLine member
            (',' :: '\n' :: (memberLines (next :: others) ++ '\n' :: '\x7d' :: rest))
          have further : members? (fuel + 1) depth (read ++ [member])
              (memberLines (next :: others) ++ '\n' :: '\x7d' :: rest) =
                some (read ++ [member] ++ next :: others, rest) := by
            apply inductionHypothesis
            · exact List.cons_ne_nil next others
            · simpa using distinct
            · exact fun other listed => readable other (List.mem_cons_of_mem member listed)
            · exact Nat.lt_of_succ_lt_succ enough
          rw [memberLines_cons_cons, List.append_assoc, List.cons_append, List.cons_append,
            spelled, members?_space rfl, members?_space rfl, members?_next named (held _) rfl,
            setMember_of_notMem _ fresh, members?_space rfl, further, List.append_assoc,
            List.singleton_append]

end Reader

/-- An object that is printed with one member a line is read back as it was. -/
theorem parse?_renderLines {members : List (String × Json)}
    (distinct : (members.map Prod.fst).Nodup)
    (readable : ∀ member ∈ members, member.2.ReadsBack) :
    parse? (renderLines members ++ "\n") = some (.obj members) := by
  by_cases empty : members = []
  · subst empty
    rfl
  · have present : ¬members.isEmpty := by simpa using empty
    have spelled : (renderLines members ++ "\n").toList =
        '\x7b' :: '\n' :: (memberLines members ++ ['\n', '\x7d', '\n']) := by
      rw [renderLines, if_neg present]
      simp only [String.toList_append, List.append_assoc]
      rfl
    have held (fuel : Nat) (enough : members.length < fuel) :
        Reader.members? fuel 127 [] ('\n' :: (memberLines members ++ ['\n', '\x7d', '\n'])) =
          some (members, ['\n']) := by
      rw [Reader.members?_space rfl]
      exact Reader.members?_memberLines 127 ['\n'] empty distinct readable enough
    have shorter := length_le_memberLines members
    rw [parse?, spelled, List.length_cons, List.length_cons, List.length_append,
      Reader.value?_brace (by decide) (held _ (by omega))]
    rfl

end Json
end InstanceScripts
