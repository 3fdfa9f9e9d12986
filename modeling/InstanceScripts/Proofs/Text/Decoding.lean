import InstanceScripts.Proofs.Text.Order

/-!
# Reading UTF-8

The octets of a text are read as that text again, whatever characters it has.  Octets that are
text are read alike, whether what is no text would be replaced or not.
-/

namespace InstanceScripts
namespace Utf8

/-! ## First octets -/

/-- The first of two octets announces one more. -/
theorem announce_two {number : Nat} (least : 0x7F < number) (greatest : number ≤ 0x7FF) :
    announce (number / 64 % 32 + 192) = some (number / 64, [tail]) := by
  have leading : number / 64 % 32 + 192 - 0xC0 = number / 64 := by omega
  rw [announce, if_pos (by omega), leading]

/-- The first of three octets announces two more, of which the next one is as it has to be. -/
theorem announce_three {number : Nat} (least : 0x7FF < number) (greatest : number ≤ 0xFFFF)
    (valid : number.isValidChar) :
    ∃ low high, announce (number / 4096 % 16 + 224) = some (number / 4096, [(low, high), tail]) ∧
      low ≤ number / 64 % 64 + 128 ∧ number / 64 % 64 + 128 ≤ high := by
  have leading : number / 4096 % 16 + 224 - 0xE0 = number / 4096 := by omega
  rw [announce, if_neg (by omega)]
  by_cases first : number / 4096 = 0
  · exact ⟨0xA0, 0xBF, by rw [if_pos (by omega), first], by omega, by omega⟩
  · rw [if_neg (by omega)]
    by_cases last : number / 4096 = 0xD
    · refine ⟨0x80, 0x9F, by rw [if_pos (by omega), last], by omega, ?_⟩
      rcases valid with small | ⟨large, _⟩ <;> omega
    · refine ⟨0x80, 0xBF, ?_, by omega, by omega⟩
      rw [if_neg (by omega), if_pos (by omega), leading]
      rfl

/-- The first of four octets announces three more, of which the next one is as it has to be. -/
theorem announce_four {number : Nat} (least : 0xFFFF < number) (greatest : number < 0x110000) :
    ∃ low high, announce (number / 262144 % 8 + 240) =
        some (number / 262144, [(low, high), tail, tail]) ∧
      low ≤ number / 4096 % 64 + 128 ∧ number / 4096 % 64 + 128 ≤ high := by
  have leading : number / 262144 % 8 + 240 - 0xF0 = number / 262144 := by omega
  rw [announce, if_neg (by omega), if_neg (by omega), if_neg (by omega), if_neg (by omega)]
  by_cases first : number / 262144 = 0
  · exact ⟨0x90, 0xBF, by rw [if_pos (by omega), first], by omega, by omega⟩
  · rw [if_neg (by omega)]
    by_cases last : number / 262144 = 4
    · exact ⟨0x80, 0x8F, by rw [if_neg (by omega), if_pos (by omega), last], by omega, by omega⟩
    · refine ⟨0x80, 0xBF, ?_, by omega, by omega⟩
      rw [if_pos (by omega), leading]
      rfl

/-! ## Octets one at a time -/

theorem decodeFrom_announced {index first bits : Nat} {owed : List (Nat × Nat)}
    (announced : announce first = some (bits, owed)) (above : 0x80 ≤ first) (octet : first < 256)
    (octets : Octets) :
    decodeFrom index none (UInt8.ofNat first :: octets) =
      decodeFrom (index + 1) (some ⟨index, bits, owed⟩) octets := by
  rw [decodeFrom, toNat_octet octet, if_neg (by omega), announced]

/-- An octet that continues a character adds its six bits. -/
theorem decodeFrom_continued {index start bits low high digit : Nat} {next : Nat × Nat}
    {owed : List (Nat × Nat)} (small : digit < 64) (inside : low ≤ digit + 128 ∧ digit + 128 ≤ high)
    (octets : Octets) :
    decodeFrom index (some ⟨start, bits, (low, high) :: next :: owed⟩)
        (UInt8.ofNat (digit + 128) :: octets) =
      decodeFrom (index + 1) (some ⟨start, bits * 64 + digit, next :: owed⟩) octets := by
  have value : (digit + 128) % 64 = digit := by omega
  simp only [decodeFrom, toNat_octet (show digit + 128 < 256 by omega), if_pos inside, value]

/-- The last octet of a character completes it. -/
theorem decodeFrom_completed {index start bits low high digit : Nat} (small : digit < 64)
    (inside : low ≤ digit + 128 ∧ digit + 128 ≤ high) (octets : Octets) :
    decodeFrom index (some ⟨start, bits, [(low, high)]⟩) (UInt8.ofNat (digit + 128) :: octets) =
      (decodeFrom (index + 1) none octets).map (Char.ofNat (bits * 64 + digit) :: ·) := by
  have value : (digit + 128) % 64 = digit := by omega
  simp only [decodeFrom, toNat_octet (show digit + 128 < 256 by omega), if_pos inside, value]

/-! ## Whole texts -/

/-- The octets of a character are read as that character, whatever follows them. -/
theorem decodeFrom_encodeChar (index : Nat) (char : Char) (octets : Octets) :
    ∃ next, decodeFrom index none (String.utf8EncodeChar char ++ octets) =
      (decodeFrom next none octets).map (char :: ·) := by
  have valid : char.val.toNat.isValidChar := char.valid
  have same : Char.ofNat char.val.toNat = char := char.ofNat_toNat
  unfold String.utf8EncodeChar
  generalize char.val.toNat = number at valid same
  have bounded : number < 0x110000 := by
    rcases valid with small | ⟨_, large⟩ <;> omega
  have continues (digit : Nat) : 0x80 ≤ digit % 64 + 128 ∧ digit % 64 + 128 ≤ 0xBF := by omega
  dsimp only
  split_ifs with one two three
  · exact ⟨index + 1, by
      rw [List.singleton_append, decodeFrom, toNat_octet (by omega), if_pos (by omega), same]⟩
  · have bits : number / 64 * 64 + number % 64 = number := by omega
    refine ⟨index + 1 + 1, ?_⟩
    rw [List.cons_append, List.singleton_append,
      decodeFrom_announced (announce_two (by omega) two) (by omega) (by omega), tail,
      decodeFrom_completed (by omega) (continues number), bits, same]
  · obtain ⟨low, high, announced, inside⟩ := announce_three (by omega) three valid
    have bits : (number / 4096 * 64 + number / 64 % 64) * 64 + number % 64 = number := by omega
    refine ⟨index + 1 + 1 + 1, ?_⟩
    rw [List.cons_append, List.cons_append, List.singleton_append,
      decodeFrom_announced announced (by omega) (by omega),
      decodeFrom_continued (by omega) inside, tail,
      decodeFrom_completed (by omega) (continues number), bits, same]
  · obtain ⟨low, high, announced, inside⟩ := announce_four (by omega) bounded
    have bits : ((number / 262144 * 64 + number / 4096 % 64) * 64 + number / 64 % 64) * 64 +
        number % 64 = number := by omega
    refine ⟨index + 1 + 1 + 1 + 1, ?_⟩
    rw [List.cons_append, List.cons_append, List.cons_append, List.singleton_append,
      decodeFrom_announced announced (by omega) (by omega),
      decodeFrom_continued (by omega) inside, tail,
      decodeFrom_continued (by omega) (continues (number / 64)),
      decodeFrom_completed (by omega) (continues number), bits, same]

theorem decodeFrom_encodeChars (chars : List Char) (index : Nat) :
    decodeFrom index none (encodeChars chars) = .ok chars := by
  induction chars generalizing index with
  | nil => rfl
  | cons char chars inductionHypothesis =>
      obtain ⟨next, read⟩ := decodeFrom_encodeChar index char (encodeChars chars)
      rw [encodeChars, read, inductionHypothesis]
      rfl

theorem decode_encodeChars (chars : List Char) :
    decode (encodeChars chars) = .ok (String.ofList chars) := by
  rw [decode, decodeFrom_encodeChars]
  rfl

/-- A text is read again from its octets. -/
theorem decode_encode (text : String) : decode (encode text) = .ok text := by
  rw [encode, decode_encodeChars, String.ofList_toList]

/-! ## Texts without defects -/

/-- Where there is no defect, nothing is replaced. -/
theorem decodeLossyFrom_of_decodeFrom {octets : Octets} {unfinished : Option Unfinished}
    {index : Nat} {chars : List Char} (decoded : decodeFrom index unfinished octets = .ok chars)
    {fuel : Nat} (enough : octets.length ≤ fuel) (start : Nat) :
    decodeLossyFrom (unfinished.map fun begun => ⟨start, begun.bits, begun.owed⟩) fuel octets =
      chars := by
  induction octets generalizing unfinished index chars fuel start with
  | nil =>
      cases unfinished with
      | none =>
          cases decoded
          cases fuel <;> rfl
      | some begun => cases decoded
  | cons octet octets inductionHypothesis =>
      obtain ⟨fuel, rfl⟩ : ∃ less, fuel = less + 1 :=
        Nat.exists_eq_add_one.mpr (Nat.lt_of_lt_of_le (Nat.zero_lt_succ _) enough)
      have rest : octets.length ≤ fuel := Nat.le_of_succ_le_succ enough
      have whole {char : Char} (read : (decodeFrom (index + 1) none octets).map (char :: ·) =
          .ok chars) : char :: decodeLossyFrom none fuel octets = chars := by
        cases later : decodeFrom (index + 1) none octets with
        | error defect =>
            rw [later] at read
            cases read
        | ok others =>
            rw [later] at read
            cases read
            exact congrArg (char :: ·) (inductionHypothesis later rest start)
      cases unfinished with
      | none =>
          rw [decodeFrom] at decoded
          rw [Option.map_none, decodeLossyFrom]
          by_cases ascii : octet.toNat < 0x80
          · rw [if_pos ascii] at decoded ⊢
            exact whole decoded
          · rw [if_neg ascii] at decoded ⊢
            cases announced : announce octet.toNat with
            | none =>
                rw [announced] at decoded
                cases decoded
            | some begun =>
                rw [announced] at decoded
                exact inductionHypothesis decoded rest 0
      | some begun =>
          obtain ⟨place, bits, owed⟩ := begun
          rw [Option.map_some]
          cases owed with
          | nil =>
              simp only [decodeFrom] at decoded
              cases decoded
          | cons range owed =>
              obtain ⟨least, greatest⟩ := range
              simp only [decodeFrom] at decoded
              simp only [decodeLossyFrom]
              by_cases inside : least ≤ octet.toNat ∧ octet.toNat ≤ greatest
              · rw [if_pos inside] at decoded ⊢
                cases owed with
                | nil => exact whole decoded
                | cons next owed => exact inductionHypothesis decoded rest 0
              · rw [if_neg inside] at decoded
                cases decoded

/-- A text is read as it is, whether defects are replaced or not. -/
theorem decodeLossy_of_decode {octets : Octets} {text : String}
    (decoded : decode octets = .ok text) : decodeLossy octets = text := by
  unfold decode at decoded
  cases read : decodeFrom 0 none octets with
  | error defect =>
      rw [read] at decoded
      cases decoded
  | ok chars =>
      rw [read] at decoded
      cases decoded
      exact congrArg String.ofList (decodeLossyFrom_of_decodeFrom read (by omega) 0)

end Utf8
end InstanceScripts
