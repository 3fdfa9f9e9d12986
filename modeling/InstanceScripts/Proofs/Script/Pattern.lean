import Mathlib.Computability.Language

/-!
# Patterns of URLs in Cloud Storage

A URL of something in Cloud Storage has one of three forms.  Each form is the regular language
of a pattern; what its texts consist of is said without the pattern as well.
-/

namespace InstanceScripts
namespace Script
namespace Origin

open scoped Computability

/-! ## Words -/

/-- A lower-case letter or a digit. -/
def IsLetterOrDigit (char : Char) : Prop :=
  ('a' ≤ char ∧ char ≤ 'z') ∨ ('0' ≤ char ∧ char ≤ '9')

/-- The name of a bucket: letters, digits, hyphens, underscores and dots, with a letter or a
digit at both ends. -/
structure BucketWord (name : List Char) : Prop where
  nonempty : name ≠ []
  begins : ∀ char, name.head? = some char → IsLetterOrDigit char
  ends : ∀ char, name.getLast? = some char → IsLetterOrDigit char
  inside : ∀ char ∈ name, IsLetterOrDigit char ∨ char = '-' ∨ char = '_' ∨ char = '.'

/-- The name of an object: anything without wildcards, line breaks included. -/
structure ObjectWord (name : List Char) : Prop where
  nonempty : name ≠ []
  literal : ∀ char ∈ name, char ≠ '*' ∧ char ≠ '?'

/-- What stands before the authority of a web URL. -/
def WebWord (front : List Char) : Prop :=
  front = "http://".toList ∨ front = "https://".toList

/-! ## Forms -/

/-- The forms of URLs that are fetched with a token. -/
inductive Form where
  | gsScheme
  | virtualHosted
  | pathStyle
  deriving DecidableEq, Repr

/-- The texts of a form. -/
inductive Form.Spells : Form → List Char → Prop
  | gsScheme (rest : List Char) : Spells .gsScheme ("gs://".toList ++ rest)
  | virtualHosted (front bucket object : List Char) (web : WebWord front)
      (named : BucketWord bucket) (held : ObjectWord object) :
      Spells .virtualHosted (front ++ (bucket ++ (".storage.googleapis.com/".toList ++ object)))
  | pathStyle (front bucket object commonData : List Char) (web : WebWord front)
      (host : commonData = [] ∨ commonData = "commondata".toList) (named : BucketWord bucket)
      (held : ObjectWord object) :
      Spells .pathStyle
        (front ++ (commonData ++ ("storage.googleapis.com/".toList ++
          (bucket ++ ('/' :: object)))))

/-! ## Patterns -/

/-- The words of one character of a class. -/
def oneOf (holds : Char → Prop) : Language Char :=
  {word | ∃ char, word = [char] ∧ holds char}

/-- The one word that a text spells. -/
def word (text : String) : Language Char :=
  {chars | chars = text.toList}

/-- `https?://`. -/
def webPattern : Language Char :=
  word "http" * ((1 + word "s") * word "://")

/-- `[a-z0-9](?:[-_.a-z0-9]*[a-z0-9])?`. -/
def bucketPattern : Language Char :=
  oneOf IsLetterOrDigit *
    (1 + (oneOf fun char => IsLetterOrDigit char ∨ char = '-' ∨ char = '_' ∨ char = '.')∗ *
      oneOf IsLetterOrDigit)

/-- `[^*?]+`. -/
def objectPattern : Language Char :=
  oneOf (fun char => char ≠ '*' ∧ char ≠ '?') * (oneOf fun char => char ≠ '*' ∧ char ≠ '?')∗

/-- The pattern of a form, which has to match the whole of a text. -/
def Form.pattern : Form → Language Char
  | .gsScheme => word "gs://" * ⊤
  | .virtualHosted =>
      webPattern * (bucketPattern * (word ".storage.googleapis.com/" * objectPattern))
  | .pathStyle =>
      webPattern * ((1 + word "commondata") * (word "storage.googleapis.com/" *
        (bucketPattern * (word "/" * objectPattern))))

theorem mem_oneOf {holds : Char → Prop} {chars : List Char} :
    chars ∈ oneOf holds ↔ ∃ char, chars = [char] ∧ holds char := Iff.rfl

theorem mem_word {text : String} {chars : List Char} :
    chars ∈ word text ↔ chars = text.toList := Iff.rfl

theorem mem_optional_word {text : String} {chars : List Char} :
    chars ∈ 1 + word text ↔ chars = [] ∨ chars = text.toList := Iff.rfl

/-- Any number of characters of a class. -/
theorem mem_kstar_oneOf {holds : Char → Prop} {chars : List Char} :
    chars ∈ (oneOf holds)∗ ↔ ∀ char ∈ chars, holds char := by
  rw [Language.mem_kstar]
  constructor
  · rintro ⟨parts, rfl, single⟩ char member
    obtain ⟨part, listed, inside⟩ := List.mem_flatten.mp member
    obtain ⟨only, rfl, held⟩ := single part listed
    rw [List.mem_singleton.mp inside]
    exact held
  · intro all
    refine ⟨chars.map fun char => [char], ?_, ?_⟩
    · induction chars with
      | nil => rfl
      | cons char chars inductionHypothesis =>
          rw [List.map_cons, List.flatten_cons, List.singleton_append,
            ← inductionHypothesis fun other later => all other (List.mem_cons_of_mem _ later)]
    · intro part listed
      obtain ⟨char, member, rfl⟩ := List.mem_map.mp listed
      exact ⟨char, rfl, all char member⟩

theorem mem_webPattern {chars : List Char} : chars ∈ webPattern ↔ WebWord chars := by
  unfold webPattern WebWord
  simp only [Language.mem_mul, mem_word, mem_optional_word]
  constructor
  · rintro ⟨_, rfl, _, ⟨_, rfl | rfl, _, rfl, rfl⟩, rfl⟩
    · exact .inl rfl
    · exact .inr rfl
  · rintro (rfl | rfl)
    · exact ⟨_, rfl, _, ⟨[], .inl rfl, _, rfl, rfl⟩, rfl⟩
    · exact ⟨_, rfl, _, ⟨_, .inr rfl, _, rfl, rfl⟩, rfl⟩

theorem mem_objectPattern {chars : List Char} : chars ∈ objectPattern ↔ ObjectWord chars := by
  unfold objectPattern
  simp only [Language.mem_mul, mem_oneOf, mem_kstar_oneOf]
  constructor
  · rintro ⟨_, ⟨first, rfl, begins⟩, rest, literal, rfl⟩
    refine ⟨by simp, ?_⟩
    intro char member
    rcases List.mem_cons.mp member with rfl | later
    · exact begins
    · exact literal char later
  · rintro ⟨nonempty, literal⟩
    obtain ⟨first, rest, rfl⟩ := List.exists_cons_of_ne_nil nonempty
    exact ⟨[first], ⟨first, rfl, literal first (List.mem_cons_self ..)⟩, rest,
      fun char later => literal char (List.mem_cons_of_mem _ later), rfl⟩

theorem mem_bucketPattern {chars : List Char} : chars ∈ bucketPattern ↔ BucketWord chars := by
  unfold bucketPattern
  simp only [Language.mem_mul, Language.mem_add, Language.mem_one, mem_oneOf, mem_kstar_oneOf]
  constructor
  · rintro ⟨_, ⟨first, rfl, begins⟩, _, rfl | ⟨middle, inside, _, ⟨last, rfl, ends⟩, rfl⟩, rfl⟩
    · refine ⟨by simp, ?_, ?_, ?_⟩
      · rintro _ ⟨rfl⟩
        exact begins
      · rintro _ ⟨rfl⟩
        exact begins
      · intro char member
        rw [List.mem_singleton.mp member]
        exact .inl begins
    · refine ⟨by simp, ?_, ?_, ?_⟩
      · rintro _ ⟨rfl⟩
        exact begins
      · intro char found
        rw [← List.append_assoc, List.getLast?_concat] at found
        cases found
        exact ends
      · intro char member
        rcases List.mem_append.mp member with front | later
        · rw [List.mem_singleton.mp front]
          exact .inl begins
        · rcases List.mem_append.mp later with between | final
          · exact inside char between
          · rw [List.mem_singleton.mp final]
            exact .inl ends
  · intro named
    obtain ⟨first, rest, rfl⟩ := List.exists_cons_of_ne_nil named.nonempty
    refine ⟨[first], ⟨first, rfl, named.begins first rfl⟩, rest, ?_, rfl⟩
    rcases List.eq_nil_or_concat rest with rfl | ⟨middle, last, rfl⟩
    · exact .inl rfl
    · rw [List.concat_eq_append] at named ⊢
      refine .inr ⟨middle, ?_, [last], ⟨last, rfl, named.ends last ?_⟩, rfl⟩
      · intro char between
        exact named.inside char
          (List.mem_cons_of_mem _ (List.mem_append_left _ between))
      · rw [← List.cons_append, List.getLast?_concat]

/-- A form consists of the texts that its pattern matches. -/
theorem Form.spells_iff_mem_pattern {form : Form} {url : List Char} :
    form.Spells url ↔ url ∈ form.pattern := by
  cases form with
  | gsScheme =>
      simp only [Form.pattern, Language.mem_mul, mem_word]
      constructor
      · intro spelled
        cases spelled with
        | gsScheme rest => exact ⟨_, rfl, rest, trivial, rfl⟩
      · rintro ⟨_, rfl, rest, _, rfl⟩
        exact .gsScheme rest
  | virtualHosted =>
      simp only [Form.pattern, Language.mem_mul, mem_word, mem_webPattern, mem_bucketPattern,
        mem_objectPattern]
      constructor
      · intro spelled
        cases spelled with
        | virtualHosted front bucket object web named held =>
            exact ⟨front, web, _, ⟨bucket, named, _, ⟨_, rfl, object, held, rfl⟩, rfl⟩, rfl⟩
      · rintro ⟨front, web, _, ⟨bucket, named, _, ⟨_, rfl, object, held, rfl⟩, rfl⟩, rfl⟩
        exact .virtualHosted front bucket object web named held
  | pathStyle =>
      simp only [Form.pattern, Language.mem_mul, mem_word, mem_optional_word, mem_webPattern,
        mem_bucketPattern, mem_objectPattern]
      constructor
      · intro spelled
        cases spelled with
        | pathStyle front bucket object commonData web shared named held =>
            exact ⟨front, web, _, ⟨commonData, shared, _, ⟨_, rfl, _,
              ⟨bucket, named, _, ⟨_, rfl, object, held, rfl⟩, rfl⟩, rfl⟩, rfl⟩, rfl⟩
      · rintro ⟨front, web, _, ⟨commonData, shared, _, ⟨_, rfl, _,
          ⟨bucket, named, _, ⟨_, rfl, object, held, rfl⟩, rfl⟩, rfl⟩, rfl⟩, rfl⟩
        exact .pathStyle front bucket object commonData web shared named held

end Origin
end Script
end InstanceScripts
