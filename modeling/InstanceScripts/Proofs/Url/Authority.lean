import InstanceScripts.Proofs.Text.Decoding
import InstanceScripts.Url.Reader
import Mathlib.Data.List.Basic

/-!
# URLs that spell out a settled host

A host in lower-case ASCII that stands between two slashes and a third one is read as
itself, whatever follows.  Nothing behind the third slash can add a user name, a port or
another host.
-/

namespace InstanceScripts
namespace Url

/-! ## Settled characters -/

/-- Characters that every domain keeps as they are. -/
def isSettled (char : Char) : Bool :=
  ('a' ≤ char && char ≤ 'z') || ('0' ≤ char && char ≤ '9') || char == '-' || char == '_' ||
    char == '.'

/-- A settled character is a lower-case letter, a digit or one of three marks. -/
theorem isSettled_iff {char : Char} :
    isSettled char = true ↔
      (97 ≤ char.toNat ∧ char.toNat ≤ 122) ∨ (48 ≤ char.toNat ∧ char.toNat ≤ 57) ∨
        char.toNat = 45 ∨ char.toNat = 95 ∨ char.toNat = 46 := by
  have same (other : Char) : char = other ↔ char.toNat = other.toNat :=
    ⟨fun equal => equal ▸ rfl, fun equal => Char.toNat_inj.mp equal⟩
  have below (left right : Char) : left ≤ right ↔ left.toNat ≤ right.toNat := Iff.rfl
  simp only [isSettled, Bool.or_eq_true, Bool.and_eq_true, decide_eq_true_eq, beq_iff_eq, same,
    below]
  simp only [Char.reduceToNat]
  omega

theorem isSettled_ascii {char : Char} (settled : isSettled char = true) : char.toNat < 0x80 := by
  rw [isSettled_iff] at settled
  omega

/-- A settled character differs from every character that is not. -/
theorem isSettled_ne {char : Char} (other : Char) (settled : isSettled char = true)
    (unsettled : isSettled other = false) : char ≠ other := by
  rintro rfl
  rw [settled] at unsettled
  contradiction

theorem isSettled_toLower {char : Char} (settled : isSettled char = true) :
    char.toLower = char := by
  rw [isSettled_iff] at settled
  unfold Char.toLower
  rw [dif_neg]
  rintro ⟨least, greatest⟩
  have least : 65 ≤ char.toNat := least
  have greatest : char.toNat ≤ 90 := greatest
  omega

/-! ## Domains -/

namespace Percent

/-- Without a percent sign there is nothing to decode. -/
theorem decode_eq_encode {chars : List Char} (plain : ∀ char ∈ chars, char ≠ '%') :
    decode chars = Utf8.encodeChars chars := by
  induction chars with
  | nil => rfl
  | cons char rest inductionHypothesis =>
      have here : char ≠ '%' := plain char (by simp)
      have later := inductionHypothesis fun other member => plain other (by simp [member])
      rw [decode, later, Utf8.encodeChars]
      intro high low behind front
      exact absurd front here

end Percent

namespace Domain

theorem mapM_mapped? {chars : List Char} (settled : ∀ char ∈ chars, isSettled char = true) :
    chars.mapM mapped? = some (chars.map fun char => [char]) := by
  induction chars with
  | nil => rfl
  | cons char rest inductionHypothesis =>
      have here : isSettled char = true := settled char (by simp)
      have later := inductionHypothesis fun other member => settled other (by simp [member])
      rw [List.mapM_cons, mapped?_ascii char (isSettled_ascii here), isSettled_toLower here, later]
      rfl

/-- Every character of a settled domain stands for itself. -/
theorem mapped_settled {chars : List Char} (settled : ∀ char ∈ chars, isSettled char = true) :
    mapped chars = some chars := by
  have flattened : (chars.map fun char => [char]).flatten = chars := by
    rw [← List.flatMap_def]
    exact List.flatMap_singleton' chars
  have low : ∀ char ∈ chars, char.toNat < 0x300 := fun char member =>
    Nat.lt_trans (isSettled_ascii (settled char member)) (by decide)
  rw [mapped, mapM_mapped? settled, Option.map_some, flattened,
    Unicode.composed_eq_self_of_lt low]

/-- A label in ASCII is written as it is, if it can be read. -/
theorem Label.read?_ascii_eq {chars : List Char} {label : Label}
    (ascii : ∀ char ∈ chars, char.toNat < 0x80) (read : Label.read? chars = some label) :
    label.ascii = chars := by
  have all : Label.isAscii chars = true := by simpa [Label.isAscii] using ascii
  unfold Label.read? at read
  rw [all] at read
  by_cases encoded : Label.encodedMark.isPrefixOf chars = true
  · rw [if_pos encoded, if_pos rfl, Option.map_eq_some_iff] at read
    obtain ⟨shown, _, rfl⟩ := read
    rfl
  · rw [if_neg encoded, if_pos rfl] at read
    cases read
    rfl

theorem mapM_read?_ascii {parts : List (List Char)} {read : List Label}
    (ascii : ∀ part ∈ parts, ∀ char ∈ part, char.toNat < 0x80)
    (all : parts.mapM Label.read? = some read) : read.map (·.ascii) = parts := by
  induction parts generalizing read with
  | nil =>
      cases all
      rfl
  | cons part rest inductionHypothesis =>
      rw [List.mapM_cons] at all
      obtain ⟨label, first, all⟩ := Option.bind_eq_some_iff.mp all
      obtain ⟨labels, others, all⟩ := Option.bind_eq_some_iff.mp all
      cases all
      rw [List.map_cons, Label.read?_ascii_eq (ascii part (by simp)) first,
        inductionHypothesis (fun other member => ascii other (by simp [member])) others]

/-- The labels of a domain have no characters but its own. -/
theorem mem_of_mem_labels {chars part : List Char} {char : Char} (chosen : part ∈ labels chars)
    (inside : char ∈ part) : char ∈ chars := by
  induction chars generalizing part with
  | nil =>
      rw [labels, List.splitOn_nil, List.mem_singleton] at chosen
      rw [chosen] at inside
      exact inside
  | cons first rest inductionHypothesis =>
      rw [labels, List.splitOn_cons_eq_if_modifyHead] at chosen
      split at chosen
      · rcases List.mem_cons.mp chosen with rfl | later
        · contradiction
        · exact List.mem_cons_of_mem first (inductionHypothesis later inside)
      · obtain ⟨head, others, parts⟩ := List.exists_cons_of_ne_nil (List.splitOn_ne_nil '.' rest)
        rw [parts, List.modifyHead_cons] at chosen
        have known (other : List Char) (listed : other ∈ head :: others) (within : char ∈ other) :
            char ∈ rest := by
          rw [← parts] at listed
          exact inductionHypothesis listed within
        rcases List.mem_cons.mp chosen with rfl | later
        · rcases List.mem_cons.mp inside with rfl | behind
          · exact List.mem_cons_self
          · exact List.mem_cons_of_mem first (known head List.mem_cons_self behind)
        · exact List.mem_cons_of_mem first (known part (List.mem_cons_of_mem head later) inside)

/-- A settled domain is written in ASCII as it is, if it can be written at all. -/
theorem toAscii?_settled {chars name : List Char}
    (settled : ∀ char ∈ chars, isSettled char = true) (written : toAscii? chars = some name) :
    name = chars := by
  obtain ⟨read, readable, written⟩ := Option.bind_eq_some_iff.mp written
  unfold read? at readable
  rw [mapped_settled settled] at readable
  obtain ⟨text, unchanged, readable⟩ := Option.bind_eq_some_iff.mp readable
  cases unchanged
  obtain ⟨parts, all, readable⟩ := Option.bind_eq_some_iff.mp readable
  have same : read = parts := by
    split at readable <;> cases readable
    rfl
  have ascii : parts.map (·.ascii) = labels chars :=
    mapM_read?_ascii
      (fun part chosen char inside => isSettled_ascii (settled char (mem_of_mem_labels chosen inside)))
      all
  rw [same, ascii, labels, List.intercalate_splitOn] at written
  dsimp only at written
  split at written <;> cases written
  rfl

end Domain

/-! ## Hosts -/

namespace Host

/-- Only the last label decides whether a domain ends in a number. -/
theorem endsInNumber_append (before : List Char) {last : List Char}
    (whole : '.' ∉ last) (full : last ≠ []) :
    endsInNumber (before ++ '.' :: last) =
      (last.all Text.isDigit || (ipv4Number? last).isSome) := by
  have ends : (Domain.labels (before ++ '.' :: last)).getLast? = some last := by
    rw [Domain.labels, List.splitOn_append_cons_self, List.splitOn_eq_singleton whole,
      List.getLast?_append]
    rfl
  have nonempty : last.isEmpty = false := by simpa using full
  unfold endsInNumber
  simp [ends, full, nonempty]

/-- A settled host under a top-level domain that is no number is read as itself. -/
theorem readSpecial_settled {before last : List Char} {host : Host}
    (settled : ∀ char ∈ before ++ '.' :: last, isSettled char = true)
    (whole : '.' ∉ last) (full : last ≠ [])
    (wordy : (last.all Text.isDigit || (ipv4Number? last).isSome) = false)
    (read : readSpecial (before ++ '.' :: last) = .ok host) :
    host = .domain (before ++ '.' :: last) := by
  have plain : ∀ char ∈ before ++ '.' :: last, char ≠ '%' := fun char member =>
    isSettled_ne '%' (settled char member) rfl
  have unbracketed : (before ++ '.' :: last).head? ≠ some '[' := by
    intro bracket
    exact isSettled_ne '[' (settled _ (List.mem_of_mem_head? bracket)) rfl rfl
  have decoded :
      Utf8.decode (Percent.decode (before ++ '.' :: last)) =
        .ok (String.ofList (before ++ '.' :: last)) := by
    rw [Percent.decode_eq_encode plain, Utf8.decode_encodeChars]
  unfold readSpecial at read
  simp only [if_neg unbracketed, decoded, String.toList_ofList] at read
  cases written : Domain.toAscii? (before ++ '.' :: last) with
  | none => simp [written] at read
  | some name =>
      obtain rfl := Domain.toAscii?_settled settled written
      have nonempty : (before ++ '.' :: last).isEmpty = false := by simp
      simp only [written, nonempty, endsInNumber_append before whole full, wordy] at read
      exact (Except.ok.inj read).symm

end Host

/-! ## Reading -/

namespace Reader

/-- The characters of a solid text at the front are left as they are. -/
theorem significant_append
    {front : List Char} (solid : ∀ char ∈ front, isTrimmed char = false) (nonempty : front ≠ [])
    (rest : List Char) :
    ∃ kept, significant (front ++ rest) = front ++ kept := by
  obtain ⟨first, others, rfl⟩ := List.exists_cons_of_ne_nil nonempty
  have opening : ((first :: others) ++ rest).dropWhile isTrimmed = (first :: others) ++ rest := by
    rw [List.cons_append, List.dropWhile_cons_of_neg]
    simp [solid first List.mem_cons_self]
  have closing : (first :: others).reverse.dropWhile isTrimmed = (first :: others).reverse := by
    cases reversed : (first :: others).reverse with
    | nil => rfl
    | cons last before =>
        rw [List.dropWhile_cons_of_neg]
        have member : last ∈ first :: others := by
          rw [← List.mem_reverse, reversed]
          exact List.mem_cons_self
        simp [solid last member]
  have undropped : (first :: others).filter (!isDropped ·) = first :: others := by
    rw [List.filter_eq_self]
    intro char member
    have high := solid char member
    by_contra dropped
    simp only [isDropped, Bool.not_eq_true', Bool.not_eq_false, Bool.or_eq_true,
      beq_iff_eq] at dropped
    rcases dropped with (rfl | rfl) | rfl <;> contradiction
  unfold significant
  rw [opening, List.reverse_append, List.dropWhile_append, closing]
  split
  · exact ⟨[], by simp only [List.reverse_reverse, undropped, List.append_nil]⟩
  · exact ⟨_, by rw [List.reverse_append, List.reverse_reverse, List.filter_append, undropped]⟩

theorem endsAuthority_settled {char : Char} (settled : isSettled char = true) :
    endsAuthority .special char = false := by
  have slash := isSettled_ne '/' settled rfl
  have backslash := isSettled_ne '\\' settled rfl
  have question := isSettled_ne '?' settled rfl
  have hash := isSettled_ne '#' settled rfl
  simp [endsAuthority, Segments.isSlash, slash, backslash, question, hash]

/-- A settled host ends at the slash behind it. -/
theorem splitHost_settled {host : List Char} (settled : ∀ char ∈ host, isSettled char = true)
    (rest : List Char) :
    splitHost .special false (host ++ '/' :: rest) = (host, '/' :: rest) := by
  induction host with
  | nil => rfl
  | cons char host inductionHypothesis =>
      have here : isSettled char = true := settled char (by simp)
      have later := inductionHypothesis fun other member => settled other (by simp [member])
      have colon := isSettled_ne ':' here rfl
      have opening := isSettled_ne '[' here rfl
      have closing := isSettled_ne ']' here rfl
      rw [List.cons_append, splitHost, if_neg (by simp [endsAuthority_settled here, colon])]
      simp only [opening, closing, if_false, later]

/-- An authority that is a settled host has nothing but that host. -/
theorem authority_settled
    {scheme before last rest : List Char} {url : Url}
    (special : mannerOf scheme = .special)
    (settled : ∀ char ∈ before ++ '.' :: last, isSettled char = true)
    (whole : '.' ∉ last) (full : last ≠ [])
    (wordy : (last.all Text.isDigit || (Host.ipv4Number? last).isSome) = false)
    (read : authority scheme (before ++ '.' :: last ++ '/' :: rest) = .ok url) :
    url.scheme = scheme ∧
      url.authority = some ⟨[], none, some (.domain (before ++ '.' :: last)), none⟩ := by
  have part :
      (before ++ '.' :: last ++ '/' :: rest).takeWhile (!endsAuthority .special ·) =
        before ++ '.' :: last := by
    rw [List.takeWhile_append_of_pos fun char member => by
      simp [endsAuthority_settled (settled char member)]]
    rw [List.takeWhile_cons_of_neg (by decide), List.append_nil]
  have anonymous : splitUserinfo (before ++ '.' :: last) = (none, before ++ '.' :: last) := by
    have absent : '@' ∉ before ++ '.' :: last := fun member =>
      isSettled_ne '@' (settled _ member) rfl rfl
    have missing : (before ++ '.' :: last).contains '@' = false := by simpa using absent
    rw [splitUserinfo, missing]
    rfl
  have remaining :
      before ++ '.' :: last ++
          (before ++ '.' :: last ++ '/' :: rest).drop (before ++ '.' :: last).length =
        before ++ '.' :: last ++ '/' :: rest := by
    rw [List.drop_left]
  have nonempty : (before ++ '.' :: last).isEmpty = false := by simp
  unfold authority at read
  simp only [special, part, anonymous, remaining, splitHost_settled settled, host, nonempty] at read
  cases readHost : Host.readSpecial (before ++ '.' :: last) with
  | error fault =>
      rw [readHost] at read
      cases read
  | ok host =>
      obtain rfl := Host.readSpecial_settled settled whole full wordy readHost
      rw [readHost] at read
      cases read
      exact ⟨rfl, rfl⟩

end Reader

/-- A URL that spells out a settled host in front of its path has that host, the default
port and no user name, whatever stands in the path. -/
theorem parse_settled
    {scheme before last rest text : List Char} {url : Url}
    (web : scheme = "http".toList ∨ scheme = "https".toList)
    (settled : ∀ char ∈ before ++ '.' :: last, isSettled char = true)
    (whole : '.' ∉ last) (full : last ≠ [])
    (wordy : (last.all Text.isDigit || (Host.ipv4Number? last).isSome) = false)
    (spelled : text = scheme ++ "://".toList ++ (before ++ '.' :: last ++ '/' :: rest))
    (parsed : parse (String.ofList text) = .ok url) :
    url.scheme = scheme ∧
      url.authority = some ⟨[], none, some (.domain (before ++ '.' :: last)), none⟩ := by
  have special : Reader.mannerOf scheme = .special := by
    rcases web with rfl | rfl <;> decide
  have solid : ∀ char ∈ scheme ++ "://".toList ++ (before ++ '.' :: last ++ ['/']),
      Reader.isTrimmed char = false := by
    intro char member
    rcases List.mem_append.mp member with opening | closing
    · have shown : (scheme ++ "://".toList).all (!Reader.isTrimmed ·) = true := by
        rcases web with rfl | rfl <;> decide
      simpa using List.all_eq_true.mp shown char opening
    · rcases List.mem_append.mp closing with named | slash
      · have settledHere := isSettled_iff.mp (settled char named)
        simp only [Reader.isTrimmed, decide_eq_false_iff_not]
        omega
      · rw [List.mem_singleton.mp slash]
        rfl
  obtain ⟨kept, significant⟩ := Reader.significant_append solid (by simp) rest
  have schemed :
      Reader.scheme? (scheme ++ "://".toList ++ (before ++ '.' :: last ++ ['/']) ++ kept) =
        some (scheme, "//".toList ++ (before ++ '.' :: last ++ '/' :: kept)) := by
    rcases web with rfl | rfl <;> simp <;> rfl
  have unslashed :
      ("//".toList ++ (before ++ '.' :: last ++ '/' :: kept)).dropWhile
          (Segments.isSlash .special) =
        before ++ '.' :: last ++ '/' :: kept := by
    obtain ⟨first, others, host_eq⟩ :=
      List.exists_cons_of_ne_nil (l := before ++ '.' :: last) (by simp)
    have settledFirst : isSettled first = true := settled first (by simp [host_eq])
    have unslashed : ¬Segments.isSlash .special first = true := by
      simp [Segments.isSlash, isSettled_ne '/' settledFirst rfl,
        isSettled_ne '\\' settledFirst rfl]
    have slashes : ∀ char ∈ "//".toList, Segments.isSlash .special char = true :=
      List.all_eq_true.mp rfl
    rw [List.dropWhile_append_of_pos slashes, host_eq, List.cons_append,
      List.dropWhile_cons_of_neg unslashed]
  have joined : text = scheme ++ "://".toList ++ (before ++ '.' :: last ++ ['/']) ++ rest := by
    rw [spelled]
    simp
  rw [parse, read, String.toList_ofList, joined, significant, schemed] at parsed
  simp only [Reader.withScheme, special, unslashed] at parsed
  exact Reader.authority_settled special settled whole full wordy parsed

end Url
end InstanceScripts
