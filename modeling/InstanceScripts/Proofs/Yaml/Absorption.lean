import InstanceScripts.Proofs.Yaml.Layering

/-!
# Laying a value down again

Merging what has been merged already changes nothing, be it the value on top or the one below,
and null is without effect on either side.
-/

namespace InstanceScripts
namespace Yaml
namespace Value

/-! ## What stands under one key -/

theorem overlaid_self {held : Option Value}
    (again : ∀ value ∈ held, value.merge value = value) : overlaid held held = held := by
  cases held with
  | none => rfl
  | some value => exact congrArg some (again value rfl)

theorem overlaid_again {held given : Option Value}
    (again : ∀ value ∈ given,
      ((held.getD null).merge value).merge value = (held.getD null).merge value) :
    overlaid (overlaid held given) given = overlaid held given := by
  cases given with
  | none => rfl
  | some value => exact congrArg some (again value rfl)

theorem overlaid_below {held given : Option Value}
    (self : ∀ value ∈ held, value.merge value = value)
    (again : ∀ value ∈ given,
      (held.getD null).merge ((held.getD null).merge value) = (held.getD null).merge value) :
    overlaid held (overlaid held given) = overlaid held given := by
  cases given with
  | none => exact overlaid_self self
  | some value => exact congrArg some (again value rfl)

/-! ## The keys -/

/-- Keys that a mapping has are not new to it. -/
theorem filter_hasKey_eq_nil {entries : Entries} {others : List Value}
    (known : ∀ key ∈ others, hasKey entries key = true) :
    (others.filter fun key => !hasKey entries key) = [] := by
  rw [List.filter_eq_nil_iff]
  intro key member
  rw [known key member]
  exact Bool.false_ne_true

theorem filter_own_keys {entries : Entries} (wellFormed : (map entries).IsWellFormed) :
    ((keys entries).filter fun key => !hasKey entries key) = [] :=
  filter_hasKey_eq_nil fun key member => hasKey_of_mem (wellFormed.key key member) member

/-! ## Idempotence -/

namespace IsWellFormed

theorem merge_self {value : Value} (wellFormed : value.IsWellFormed) :
    value.merge value = value := by
  induction value, wellFormed using layersInduction with
  | null => rfl
  | firm value _ firm => exact merge_firm value firm
  | map entries wellFormed inductionHypothesis =>
      apply merge_map_eq wellFormed wellFormed
      · rw [entries_map, filter_own_keys wellFormed, List.append_nil]
      · intro key _
        apply overlaid_self
        intro value found
        obtain ⟨held, member, _⟩ := exists_of_lookup? found
        exact inductionHypothesis (held, value) member

/-- A layer laid over itself changes nothing. -/
theorem merge_merge {base overlay : Value} (wellFormed : base.IsWellFormed)
    (overlayWellFormed : overlay.IsWellFormed) :
    (base.merge overlay).merge overlay = base.merge overlay := by
  induction overlay, overlayWellFormed using layersInduction generalizing base with
  | null => rw [merge_null, merge_null]
  | firm overlay _ firm => rw [merge_firm _ firm, merge_firm _ firm]
  | map overlay overlayWellFormed inductionHypothesis =>
      have both := wellFormed.merge overlayWellFormed
      rw [merge_map base overlayWellFormed] at both ⊢
      apply merge_map_eq both overlayWellFormed
      -- The overlay has no key left to add.
      · rw [entries_map, filter_hasKey_eq_nil, List.append_nil]
        intro key member
        have keyWellFormed := overlayWellFormed.key key member
        rw [hasKey_mergeEntries keyWellFormed overlayWellFormed.distinct overlayWellFormed.key,
          hasKey_of_mem keyWellFormed member, Bool.or_true]
      · intro key member
        rw [entries_map, lookup?_mergeEntries (both.key key member) overlayWellFormed.distinct
          overlayWellFormed.key]
        apply overlaid_again
        intro value given
        obtain ⟨held, inside, _⟩ := exists_of_lookup? given
        exact inductionHypothesis (held, value) inside (wellFormed.entries.lookup?_getD key)

/-- What has been laid over a layer keeps covering it. -/
theorem merge_below {base overlay : Value} (wellFormed : base.IsWellFormed)
    (overlayWellFormed : overlay.IsWellFormed) :
    base.merge (base.merge overlay) = base.merge overlay := by
  induction overlay, overlayWellFormed using layersInduction generalizing base with
  | null => rw [merge_null, wellFormed.merge_self]
  | firm overlay _ firm => rw [merge_firm _ firm, merge_firm _ firm]
  | map overlay overlayWellFormed inductionHypothesis =>
      have both := wellFormed.merge overlayWellFormed
      rw [merge_map base overlayWellFormed] at both ⊢
      apply merge_map_eq wellFormed both
      -- Of the merged keys exactly those are new that have been added.
      · rw [keys_mergeEntries overlayWellFormed.distinct, List.filter_append,
          filter_own_keys wellFormed.entries, List.nil_append, List.filter_filter]
        simp only [Bool.and_self]
      · intro key member
        rw [lookup?_mergeEntries (both.key key member) overlayWellFormed.distinct
          overlayWellFormed.key]
        apply overlaid_below
        · intro value held
          exact (wellFormed.entries.of_lookup? held).merge_self
        · intro value given
          obtain ⟨held, inside, _⟩ := exists_of_lookup? given
          exact inductionHypothesis (held, value) inside (wellFormed.entries.lookup?_getD key)

end IsWellFormed

/-! ## Lists of layers -/

theorem mergeAll_append (front back : List Value) :
    mergeAll (front ++ back) = back.foldl merge (mergeAll front) :=
  List.foldl_append

theorem mergeAll_null (front back : List Value) :
    mergeAll (front ++ null :: back) = mergeAll (front ++ back) := by
  rw [mergeAll_append, mergeAll_append, List.foldl_cons, merge_null]

theorem mergeAll_repeated {front : List Value} {layer : Value}
    (below : ∀ value ∈ front, value.IsWellFormed) (wellFormed : layer.IsWellFormed)
    (back : List Value) :
    mergeAll (front ++ layer :: layer :: back) = mergeAll (front ++ layer :: back) := by
  rw [mergeAll_append, mergeAll_append, List.foldl_cons, List.foldl_cons, List.foldl_cons,
    (isWellFormed_mergeAll below).merge_merge wellFormed]

/-- Merging is idempotent on both sides and null is its identity, so repeating a layer or adding
null ones changes nothing. -/
theorem merge_absorption {base overlay : Value} (wellFormed : base.IsWellFormed)
    (overlayWellFormed : overlay.IsWellFormed) :
    base.merge null = base ∧ null.merge overlay = overlay ∧ base.merge base = base ∧
    (base.merge overlay).merge overlay = base.merge overlay ∧
    base.merge (base.merge overlay) = base.merge overlay ∧
    (∀ front back, mergeAll (front ++ null :: back) = mergeAll (front ++ back)) ∧
    ∀ front back : List Value, (∀ value ∈ front, value.IsWellFormed) →
      mergeAll (front ++ overlay :: overlay :: back) = mergeAll (front ++ overlay :: back) := by
  refine ⟨merge_null base, null_merge overlay, wellFormed.merge_self,
    wellFormed.merge_merge overlayWellFormed, wellFormed.merge_below overlayWellFormed,
    mergeAll_null, ?_⟩
  intro front back below
  exact mergeAll_repeated below overlayWellFormed back

/-- A null entry is kept where it is new and ignored where it is not. -/
theorem merge_absorption_nested :
    let base := map [(str "a", map [(str "x", int 1)]), (str "b", seq [null])]
    let overlay := map [(str "c", null), (str "a", map [(str "y", null), (str "x", null)])]
    let merged := map [(str "a", map [(str "x", int 1), (str "y", null)]), (str "b", seq [null]),
      (str "c", null)]
    merged.merge overlay = merged ∧ base.merge merged = merged ∧
      mergeAll ([base] ++ overlay :: overlay :: [null]) = merged := by
  intro base overlay merged
  have wellFormed : base.IsWellFormed := by simp [base, Distinct, same, or_imp, forall_and]
  have overlayWellFormed : overlay.IsWellFormed := by
    simp [overlay, Distinct, same, or_imp, forall_and]
  obtain ⟨_, _, _, above, below, _, repeated⟩ := merge_absorption wellFormed overlayWellFormed
  exact ⟨above, below, repeated [base] [null] (by simpa using wellFormed)⟩

end Value
end Yaml
end InstanceScripts
