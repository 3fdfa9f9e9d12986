import InstanceScripts.Yaml.Value
import Mathlib.Data.List.Forall2
import Mathlib.Data.List.Pairwise

/-!
# Being the same key

Mappings are the same in whatever order their entries stand, so being the same key is not
equality.  On values whose mappings have no key twice, at any depth, it is reflexive, symmetric
and transitive.
-/

namespace InstanceScripts

/-! ## Numbers -/

namespace Binary64

theorem same_refl (number : Binary64) : number.same number = true := by
  simp [same]

theorem same_symm {left right : Binary64} (alike : left.same right = true) :
    right.same left = true := by
  simp only [same, Bool.or_eq_true, decide_eq_true_eq, Bool.and_eq_true] at alike ⊢
  rcases alike with (equal | ⟨nan, alsoNan⟩) | ⟨zero, alsoZero⟩
  · exact .inl (.inl equal.symm)
  · exact .inl (.inr ⟨alsoNan, nan⟩)
  · exact .inr ⟨alsoZero, zero⟩

/-- No number is both zero and none at all. -/
theorem not_isZero_of_isNan {number : Binary64} (nan : number.isNan = true) :
    ¬number.isZero = true := by
  simp only [isNan, isZero, decide_eq_true_eq] at nan ⊢
  omega

theorem same_trans {left middle right : Binary64} (first : left.same middle = true)
    (second : middle.same right = true) : left.same right = true := by
  obtain ⟨bits⟩ := middle
  simp only [same, Bool.or_eq_true, decide_eq_true_eq, Bool.and_eq_true] at first second ⊢
  rcases first with (rfl | ⟨nan, middleNan⟩) | ⟨zero, middleZero⟩
  · exact second
  · rcases second with (rfl | ⟨_, rightNan⟩) | ⟨middleZero, _⟩
    · exact .inl (.inr ⟨nan, middleNan⟩)
    · exact .inl (.inr ⟨nan, rightNan⟩)
    · exact absurd middleZero (not_isZero_of_isNan middleNan)
  · rcases second with (rfl | ⟨middleNan, _⟩) | ⟨_, rightZero⟩
    · exact .inr ⟨zero, middleZero⟩
    · exact absurd middleZero (not_isZero_of_isNan middleNan)
    · exact .inr ⟨zero, rightZero⟩

end Binary64

namespace Yaml
namespace Value

/-! ## Keys -/

/-- Entries of a mapping. -/
abbrev Entries := List (Value × Value)

/-- The keys of a mapping's entries. -/
def keys (entries : Entries) : List Value :=
  entries.map Prod.fst

@[simp] theorem keys_nil : keys [] = [] := rfl

@[simp] theorem keys_cons (entry : Value × Value) (entries : Entries) :
    keys (entry :: entries) = entry.1 :: keys entries := rfl

@[simp] theorem keys_append (front back : Entries) :
    keys (front ++ back) = keys front ++ keys back :=
  List.map_append

/-- No key is the same as an earlier one. -/
def Distinct (keys : List Value) : Prop :=
  keys.Pairwise fun key later => later.same key = false

/-- A value in which no mapping has a key twice, at any depth. -/
inductive IsWellFormed : Value → Prop
  | null : IsWellFormed null
  | bool (value : Bool) : IsWellFormed (bool value)
  | int (value : Int) : IsWellFormed (int value)
  | float (value : Binary64) : IsWellFormed (float value)
  | str (value : String) : IsWellFormed (str value)
  | seq (items : List Value) (inside : ∀ item ∈ items, IsWellFormed item) :
      IsWellFormed (seq items)
  | map (entries : Entries) (distinct : Distinct (keys entries))
      (keysInside : ∀ entry ∈ entries, IsWellFormed entry.1)
      (valuesInside : ∀ entry ∈ entries, IsWellFormed entry.2) :
      IsWellFormed (map entries)
  | tagged (tag : String) (content : Value) (inside : IsWellFormed content) :
      IsWellFormed (tagged tag content)

attribute [simp] IsWellFormed.null IsWellFormed.bool IsWellFormed.int IsWellFormed.float
  IsWellFormed.str

@[simp] theorem isWellFormed_seq {items : List Value} :
    (seq items).IsWellFormed ↔ ∀ item ∈ items, item.IsWellFormed := by
  constructor
  · intro wellFormed
    cases wellFormed with
    | seq _ inside => exact inside
  · exact .seq items

@[simp] theorem isWellFormed_map {entries : Entries} :
    (map entries).IsWellFormed ↔
      Distinct (keys entries) ∧ (∀ key ∈ keys entries, key.IsWellFormed) ∧
        ∀ entry ∈ entries, entry.2.IsWellFormed := by
  constructor
  · intro wellFormed
    cases wellFormed with
    | map _ distinct keysInside valuesInside =>
        exact ⟨distinct, List.forall_mem_map.mpr keysInside, valuesInside⟩
  · rintro ⟨distinct, keysInside, valuesInside⟩
    exact .map entries distinct (List.forall_mem_map.mp keysInside) valuesInside

@[simp] theorem isWellFormed_tagged {tag : String} {content : Value} :
    (tagged tag content).IsWellFormed ↔ content.IsWellFormed := by
  constructor
  · intro wellFormed
    cases wellFormed with
    | tagged _ _ inside => exact inside
  · exact .tagged tag content

namespace IsWellFormed

variable {entries : Entries} (wellFormed : (Value.map entries).IsWellFormed)
include wellFormed

theorem distinct : Distinct (keys entries) :=
  (isWellFormed_map.mp wellFormed).1

theorem key : ∀ key ∈ keys entries, key.IsWellFormed :=
  (isWellFormed_map.mp wellFormed).2.1

theorem value : ∀ entry ∈ entries, entry.2.IsWellFormed :=
  (isWellFormed_map.mp wellFormed).2.2

end IsWellFormed

/-! ## When values are the same -/

attribute [local simp] same sameItems includedIn

/-- Two entries have the same key and the same value. -/
def SameEntry (entry other : Value × Value) : Prop :=
  entry.1.same other.1 = true ∧ entry.2.same other.2 = true

theorem sameItems_iff {items others : List Value} :
    sameItems items others = true ↔
      List.Forall₂ (fun item other => item.same other = true) items others := by
  induction items generalizing others with
  | nil => cases others <;> simp
  | cons item items inductionHypothesis =>
      cases others with
      | nil => simp
      | cons other others =>
          rw [sameItems, Bool.and_eq_true, inductionHypothesis, List.forall₂_cons]

theorem includedIn_iff {entries others : Entries} :
    includedIn entries others = true ↔
      ∀ entry ∈ entries, ∃ other ∈ others, SameEntry entry other := by
  induction entries with
  | nil => simp
  | cons entry entries inductionHypothesis =>
      rw [includedIn, Bool.and_eq_true, inductionHypothesis, List.forall_mem_cons,
        List.any_eq_true]
      simp only [SameEntry, Bool.and_eq_true]

theorem same_float_iff {number : Binary64} {value : Value} :
    (float number).same value = true ↔
      ∃ other, value = float other ∧ number.same other = true := by
  cases value <;> simp

/-- Sequences are the same item by item. -/
theorem same_seq_iff {items : List Value} {value : Value} :
    (seq items).same value = true ↔
      ∃ others, value = seq others ∧
        List.Forall₂ (fun item other => item.same other = true) items others := by
  cases value <;> simp [sameItems_iff]

/-- Mappings are the same if they have as many entries and those of one are found in the
other. -/
theorem same_map_iff {entries : Entries} {value : Value} :
    (map entries).same value = true ↔
      ∃ others, value = map others ∧ entries.length = others.length ∧
        ∀ entry ∈ entries, ∃ other ∈ others, SameEntry entry other := by
  cases value <;> simp [includedIn_iff]

theorem same_tagged_iff {tag : String} {content value : Value} :
    (tagged tag content).same value = true ↔
      ∃ other, value = tagged tag other ∧ content.same other = true := by
  cases value with
  | tagged otherTag other =>
      rw [same, Bool.and_eq_true, beq_iff_eq]
      constructor
      · rintro ⟨rfl, alike⟩
        exact ⟨other, rfl, alike⟩
      · rintro ⟨_, ⟨⟩, alike⟩
        exact ⟨rfl, alike⟩
  | _ => simp

/-! ## The laws -/

section Items

variable {α : Type} {related : α → α → Prop} {items others : List α}

theorem forall₂_symm
    (single : ∀ item ∈ items, ∀ other, related item other → related other item)
    (alike : List.Forall₂ related items others) : List.Forall₂ related others items := by
  induction alike with
  | nil => exact .nil
  | cons head _ inductionHypothesis =>
      obtain ⟨here, behind⟩ := List.forall_mem_cons.mp single
      exact .cons (here _ head) (inductionHypothesis behind)

theorem forall₂_trans {between : List α}
    (single : ∀ item ∈ items, ∀ middle other,
      related item middle → related middle other → related item other)
    (first : List.Forall₂ related items between)
    (second : List.Forall₂ related between others) : List.Forall₂ related items others := by
  induction first generalizing others with
  | nil => exact second
  | cons head _ inductionHypothesis =>
      obtain ⟨here, behind⟩ := List.forall_mem_cons.mp single
      cases second with
      | cons nextHead nextTail =>
          exact .cons (here _ _ head nextHead) (inductionHypothesis behind nextTail)

end Items

/-- If every item has a match among no more others, and no two items have one in common, then
every one of the others is a match. -/
theorem exists_of_matched {α β : Type} {fits : α → β → Prop} {items : List α} {others : List β}
    (few : others.length ≤ items.length) (found : ∀ item ∈ items, ∃ other ∈ others, fits item other)
    (apart : items.Pairwise fun item later => ∀ other, fits item other → ¬fits later other) :
    ∀ other ∈ others, ∃ item ∈ items, fits item other := by
  induction items generalizing others with
  | nil =>
      obtain rfl : others = [] := List.eq_nil_of_length_eq_zero (Nat.le_zero.mp few)
      simp
  | cons item items inductionHypothesis =>
      obtain ⟨⟨other, member, fit⟩, foundLater⟩ := List.forall_mem_cons.mp found
      obtain ⟨alone, apartLater⟩ := List.pairwise_cons.mp apart
      obtain ⟨front, back, rfl⟩ := List.append_of_mem member
      have rest : ∀ another ∈ front ++ back, ∃ later ∈ items, fits later another := by
        apply inductionHypothesis ?_ ?_ apartLater
        · simp only [List.length_append, List.length_cons] at few ⊢
          omega
        · intro later inside
          obtain ⟨another, place, laterFit⟩ := foundLater later inside
          have different : another ≠ other := by
            rintro rfl
            exact alone later inside another fit laterFit
          refine ⟨another, ?_, laterFit⟩
          simpa [different] using place
      intro another place
      by_cases same : another = other
      · subst same
        exact ⟨item, List.mem_cons_self, fit⟩
      · obtain ⟨later, inside, laterFit⟩ := rest another (by simpa [same] using place)
        exact ⟨later, List.mem_cons_of_mem item inside, laterFit⟩

namespace IsWellFormed

theorem same_refl {value : Value} (wellFormed : value.IsWellFormed) :
    value.same value = true := by
  induction wellFormed with
  | null | bool | int | str => simp
  | float value => exact value.same_refl
  | seq items _ inductionHypothesis =>
      exact same_seq_iff.mpr ⟨items, rfl, List.forall₂_same.mpr inductionHypothesis⟩
  | map entries _ _ _ keysHypothesis valuesHypothesis =>
      apply same_map_iff.mpr
      refine ⟨entries, rfl, rfl, ?_⟩
      intro entry member
      exact ⟨entry, member, keysHypothesis entry member, valuesHypothesis entry member⟩
  | tagged tag content _ inductionHypothesis =>
      exact same_tagged_iff.mpr ⟨content, rfl, inductionHypothesis⟩

theorem same_trans {left middle right : Value} (wellFormed : left.IsWellFormed)
    (first : left.same middle = true) (second : middle.same right = true) :
    left.same right = true := by
  induction wellFormed generalizing middle right with
  | null | bool | int | str => cases middle <;> simp_all
  | float value =>
      obtain ⟨middle, rfl, firstNumber⟩ := same_float_iff.mp first
      obtain ⟨right, rfl, secondNumber⟩ := same_float_iff.mp second
      exact Binary64.same_trans firstNumber secondNumber
  | seq items _ inductionHypothesis =>
      obtain ⟨between, rfl, firstItems⟩ := same_seq_iff.mp first
      obtain ⟨others, rfl, secondItems⟩ := same_seq_iff.mp second
      refine same_seq_iff.mpr ⟨others, rfl, ?_⟩
      refine forall₂_trans ?_ firstItems secondItems
      intro item member middle other
      exact inductionHypothesis item member
  | map entries _ _ _ keysHypothesis valuesHypothesis =>
      obtain ⟨between, rfl, asMany, found⟩ := same_map_iff.mp first
      obtain ⟨others, rfl, asManyAgain, foundAgain⟩ := same_map_iff.mp second
      refine same_map_iff.mpr ⟨others, rfl, asMany.trans asManyAgain, ?_⟩
      intro entry member
      obtain ⟨middle, inside, keySame, valueSame⟩ := found entry member
      obtain ⟨other, place, otherKey, otherValue⟩ := foundAgain middle inside
      exact ⟨other, place, keysHypothesis entry member keySame otherKey,
        valuesHypothesis entry member valueSame otherValue⟩
  | tagged tag content _ inductionHypothesis =>
      obtain ⟨between, rfl, firstInside⟩ := same_tagged_iff.mp first
      obtain ⟨other, rfl, secondInside⟩ := same_tagged_iff.mp second
      exact same_tagged_iff.mpr ⟨other, rfl, inductionHypothesis firstInside secondInside⟩

theorem same_symm {left right : Value} (wellFormed : left.IsWellFormed)
    (alike : left.same right = true) : right.same left = true := by
  induction wellFormed generalizing right with
  | null | bool | int | str => cases right <;> simp_all
  | float value =>
      obtain ⟨number, rfl, numbers⟩ := same_float_iff.mp alike
      exact same_float_iff.mpr ⟨value, rfl, Binary64.same_symm numbers⟩
  | seq items _ inductionHypothesis =>
      obtain ⟨others, rfl, alikeItems⟩ := same_seq_iff.mp alike
      refine same_seq_iff.mpr ⟨items, rfl, ?_⟩
      refine forall₂_symm ?_ alikeItems
      intro item member other
      exact inductionHypothesis item member
  | map entries distinct keysInside _ keysHypothesis valuesHypothesis =>
      obtain ⟨others, rfl, asMany, found⟩ := same_map_iff.mp alike
      refine same_map_iff.mpr ⟨entries, rfl, asMany.symm, ?_⟩
      -- Two entries that are the same as one of the others have the same key.
      have apart : entries.Pairwise fun entry later =>
          ∀ other, SameEntry entry other → ¬SameEntry later other := by
        rw [Distinct, keys, List.pairwise_map] at distinct
        refine distinct.imp_of_mem ?_
        rintro entry later member laterMember different other ⟨keySame, _⟩ ⟨laterSame, _⟩
        rw [(keysInside later laterMember).same_trans laterSame
          (keysHypothesis entry member keySame)] at different
        cases different
      intro other member
      obtain ⟨entry, inside, keySame, valueSame⟩ :=
        exists_of_matched (Nat.le_of_eq asMany.symm) found apart other member
      exact ⟨entry, inside, keysHypothesis entry inside keySame,
        valuesHypothesis entry inside valueSame⟩
  | tagged tag content _ inductionHypothesis =>
      obtain ⟨other, rfl, alikeInside⟩ := same_tagged_iff.mp alike
      exact same_tagged_iff.mpr ⟨content, rfl, inductionHypothesis alikeInside⟩

/-- Values that are the same key are the same as the same values. -/
theorem same_congr {key other : Value} (wellFormed : key.IsWellFormed)
    (otherWellFormed : other.IsWellFormed) (alike : key.same other = true) (value : Value) :
    key.same value = other.same value := by
  rw [Bool.eq_iff_iff]
  constructor
  · exact otherWellFormed.same_trans (wellFormed.same_symm alike)
  · exact wellFormed.same_trans alike

end IsWellFormed

end Value
end Yaml
end InstanceScripts
