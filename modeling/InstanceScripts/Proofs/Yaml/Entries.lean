import InstanceScripts.Proofs.Yaml.Sameness

/-!
# Entries and their keys

What is found under a key of a mapping, and what is there after one entry has been changed.  The
keys and what is found under each of them are all that there is to a mapping.
-/

namespace InstanceScripts
namespace Yaml
namespace Value

/-! ## Looking keys up -/

theorem hasKey_eq_any (entries : Entries) (key : Value) :
    hasKey entries key = (keys entries).any fun held => key.same held := by
  rw [hasKey, keys, List.any_map]
  rfl

theorem hasKey_of_mem {entries : Entries} {key : Value} (wellFormed : key.IsWellFormed)
    (member : key ∈ keys entries) : hasKey entries key = true := by
  rw [hasKey_eq_any, List.any_eq_true]
  exact ⟨key, member, wellFormed.same_refl⟩

theorem lookup?_cons (entry : Value × Value) (entries : Entries) (key : Value) :
    lookup? (entry :: entries) key =
      if key.same entry.1 then some entry.2 else lookup? entries key := by
  by_cases here : key.same entry.1 = true <;> simp [lookup?, here]

theorem lookup?_eq_none_iff_hasKey {entries : Entries} {key : Value} :
    lookup? entries key = none ↔ hasKey entries key = false := by
  rw [← isSome_lookup?, Option.isSome_eq_false_iff, Option.isNone_iff_eq_none]

/-- What is found under a key is the value of an entry with the same key. -/
theorem exists_of_lookup? {entries : Entries} {key value : Value}
    (found : lookup? entries key = some value) :
    ∃ held, (held, value) ∈ entries ∧ key.same held = true := by
  obtain ⟨⟨held, value⟩, first, rfl⟩ := Option.map_eq_some_iff.mp found
  have alike := List.find?_some first
  exact ⟨held, List.mem_of_find?_eq_some first, alike⟩

/-- Under a key that is the same as none in front of it its own value is found. -/
theorem lookup?_of_fresh {front : Entries} {key : Value} (fresh : hasKey front key = false)
    (wellFormed : key.IsWellFormed) (value : Value) (back : Entries) :
    lookup? (front ++ (key, value) :: back) key = some value := by
  have elsewhere := lookup?_eq_none_iff_hasKey.mpr fresh
  rw [lookup?, Option.map_eq_none_iff] at elsewhere
  rw [lookup?, List.find?_append, elsewhere, Option.none_or,
    List.find?_cons_of_pos (by exact wellFormed.same_refl), Option.map_some]

theorem lookup?_of_distinct {entries : Entries} {key value : Value}
    (distinct : Distinct (keys entries)) (wellFormed : key.IsWellFormed)
    (member : (key, value) ∈ entries) : lookup? entries key = some value := by
  obtain ⟨front, back, rfl⟩ := List.append_of_mem member
  apply lookup?_of_fresh ?_ wellFormed
  rw [keys_append, keys_cons, Distinct, List.pairwise_append] at distinct
  rw [hasKey_eq_any, List.any_eq_false]
  intro held inside
  rw [Bool.not_eq_true]
  exact distinct.2.2 held inside key List.mem_cons_self

/-- The same is found under keys that are the same. -/
theorem lookup?_congr {key other : Value} (wellFormed : key.IsWellFormed)
    (otherWellFormed : other.IsWellFormed) (alike : key.same other = true) (entries : Entries) :
    lookup? entries key = lookup? entries other := by
  unfold lookup?
  rw [funext fun entry : Value × Value => wellFormed.same_congr otherWellFormed alike entry.1]

/-- Mappings with the same keys in the same order, under each of which the same is found, have
the same entries. -/
theorem entries_ext {entries others : Entries} (order : keys entries = keys others)
    (distinct : Distinct (keys entries)) (wellFormed : ∀ key ∈ keys entries, key.IsWellFormed)
    (found : ∀ key ∈ keys entries, lookup? entries key = lookup? others key) :
    entries = others := by
  induction entries generalizing others with
  | nil => exact (List.map_eq_nil_iff.mp order.symm).symm
  | cons entry entries inductionHypothesis =>
      cases others with
      | nil => cases order
      | cons other others =>
          obtain ⟨key, value⟩ := entry
          obtain ⟨other, another⟩ := other
          simp only [keys_cons, List.forall_mem_cons] at order wellFormed found
          obtain ⟨rfl, orderBehind⟩ := List.cons.inj order
          obtain ⟨first, distinctBehind⟩ := List.pairwise_cons.mp distinct
          obtain rfl : value = another := by
            simpa [lookup?_cons, wellFormed.1.same_refl] using found.1
          congr 1
          apply inductionHypothesis orderBehind distinctBehind wellFormed.2
          intro later member
          have apart : ¬later.same key = true := by
            rw [first later member]
            exact Bool.false_ne_true
          simpa [lookup?_cons, apart] using found.2 later member

/-! ## Changing one entry -/

/-- A key that is new comes last; no other key comes, goes or moves. -/
theorem keys_alter (entries : Entries) (key : Value) (change : Option Value → Value) :
    keys (alter entries key change) =
      if hasKey entries key then keys entries else keys entries ++ [key] := by
  induction entries with
  | nil => rfl
  | cons entry rest inductionHypothesis =>
      by_cases equal : key.same entry.1 = true
      · simp [alter, hasKey, equal]
      · rw [Bool.not_eq_true] at equal
        have same_keys : hasKey (entry :: rest) key = hasKey rest key := by
          rw [hasKey, List.any_cons, equal, Bool.false_or, hasKey]
        rw [alter, if_neg (by simp [equal]), keys_cons, inductionHypothesis, same_keys, keys_cons]
        split <;> rfl

theorem hasKey_alter {key other : Value} (apart : other.same key = false) (entries : Entries)
    (change : Option Value → Value) :
    hasKey (alter entries key change) other = hasKey entries other := by
  rw [hasKey_eq_any, hasKey_eq_any entries other, keys_alter]
  split
  · rfl
  · rw [List.any_append, List.any_cons, apart, List.any_nil, Bool.or_false, Bool.or_false]

/-- The changed value is found under the key that has been changed, and what was there before
under any other one. -/
theorem lookup?_alter {key other : Value} (wellFormed : key.IsWellFormed)
    (otherWellFormed : other.IsWellFormed) (entries : Entries)
    (change : Option Value → Value) :
    lookup? (alter entries key change) other =
      if other.same key then some (change (lookup? entries other))
      else lookup? entries other := by
  induction entries with
  | nil => rw [alter, lookup?_cons]; rfl
  | cons entry rest inductionHypothesis =>
      by_cases changed : other.same key = true
      · have alike := otherWellFormed.same_congr wellFormed changed entry.1
        rw [if_pos changed] at inductionHypothesis ⊢
        rw [alter, lookup?_cons, alike]
        by_cases here : key.same entry.1 = true
        · rw [if_pos here, if_pos here, lookup?_cons, alike, if_pos here]
        · rw [if_neg here, if_neg here, lookup?_cons, alike, if_neg here, inductionHypothesis]
      · rw [if_neg changed] at inductionHypothesis ⊢
        rw [alter, lookup?_cons]
        by_cases here : key.same entry.1 = true
        · have apart : ¬other.same entry.1 = true := fun alike =>
            changed (otherWellFormed.same_trans alike (wellFormed.same_symm here))
          rw [if_pos here, lookup?_cons, if_neg apart, if_neg apart]
        · rw [if_neg here, lookup?_cons, inductionHypothesis]

end Value
end Yaml
end InstanceScripts
