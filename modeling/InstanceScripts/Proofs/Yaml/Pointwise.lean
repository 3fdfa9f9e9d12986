import InstanceScripts.Proofs.Yaml.Merge

/-!
# Merging key by key

What stands under a key of merged mappings depends on what stands under that key in each of them,
and merging commutes with looking the key up.  Keys stand in the order in which they appear
first.
-/

namespace InstanceScripts
namespace Yaml
namespace Value

/-! ## Two mappings -/

/-- What stands under a key when a mapping that has `given` there is laid over one that has
`held` there. -/
def overlaid (held given : Option Value) : Option Value :=
  match given with
  | none => held
  | some value => some ((held.getD null).merge value)

@[simp] theorem overlaid_none (held : Option Value) : overlaid held none = held := rfl

@[simp] theorem overlaid_some (held : Option Value) (value : Value) :
    overlaid held (some value) = some ((held.getD null).merge value) := rfl

/-- Laying one entry over a mapping changes what stands under its key. -/
theorem mergeEntries_cons (entries : Entries) (key value : Value) (overlay : Entries) :
    mergeEntries entries ((key, value) :: overlay) =
      mergeEntries (alter entries key fun held => (held.getD null).merge value) overlay := by
  rw [mergeEntries]
  congr 2
  funext held
  cases held with
  | none => exact (null_merge value).symm
  | some held => rfl

/-- Keys that are new come last. -/
theorem keys_mergeEntries {overlay : Entries} (distinct : Distinct (keys overlay))
    (entries : Entries) :
    keys (mergeEntries entries overlay) =
      keys entries ++ (keys overlay).filter fun key => !hasKey entries key := by
  induction overlay generalizing entries with
  | nil => simp [mergeEntries]
  | cons entry overlay inductionHypothesis =>
      obtain ⟨key, value⟩ := entry
      obtain ⟨first, behind⟩ := List.pairwise_cons.mp distinct
      -- The first entry may add its own key, which no later one is the same as.
      have kept : ∀ later ∈ keys overlay,
          (!hasKey (alter entries key fun held => (held.getD null).merge value) later) =
            !hasKey entries later := by
        intro later member
        rw [hasKey_alter (first later member)]
      rw [mergeEntries_cons, inductionHypothesis behind, List.filter_congr kept, keys_alter,
        keys_cons, List.filter_cons]
      cases hasKey entries key with
      | true => rfl
      | false => simp

theorem lookup?_mergeEntries {key : Value} (wellFormed : key.IsWellFormed) {overlay : Entries}
    (distinct : Distinct (keys overlay)) (keysInside : ∀ other ∈ keys overlay, other.IsWellFormed)
    (entries : Entries) :
    lookup? (mergeEntries entries overlay) key =
      overlaid (lookup? entries key) (lookup? overlay key) := by
  induction overlay generalizing entries with
  | nil => rw [mergeEntries]; rfl
  | cons entry overlay inductionHypothesis =>
      obtain ⟨other, value⟩ := entry
      obtain ⟨first, behind⟩ := List.pairwise_cons.mp distinct
      obtain ⟨otherWellFormed, wellFormedBehind⟩ := List.forall_mem_cons.mp keysInside
      rw [mergeEntries_cons, inductionHypothesis behind wellFormedBehind,
        lookup?_alter otherWellFormed wellFormed, lookup?_cons]
      by_cases here : key.same other = true
      -- No entry behind this one has the key again, so it is the only one to be laid over.
      · have elsewhere : lookup? overlay key = none := by
          rw [lookup?_congr wellFormed otherWellFormed here, lookup?_eq_none_iff_hasKey,
            hasKey_eq_any, List.any_eq_false]
          intro later member alike
          have same := otherWellFormed.same_symm alike
          rw [first later member] at same
          cases same
        rw [if_pos here, if_pos here, elsewhere, overlaid_none, overlaid_some]
      · rw [if_neg here, if_neg here]

/-- A merged mapping has the keys of both mappings. -/
theorem hasKey_mergeEntries {key : Value} (wellFormed : key.IsWellFormed) {overlay : Entries}
    (distinct : Distinct (keys overlay)) (keysInside : ∀ other ∈ keys overlay, other.IsWellFormed)
    (entries : Entries) :
    hasKey (mergeEntries entries overlay) key = (hasKey entries key || hasKey overlay key) := by
  rw [← isSome_lookup?, ← isSome_lookup?, ← isSome_lookup?,
    lookup?_mergeEntries wellFormed distinct keysInside]
  cases lookup? overlay key <;> simp

theorem distinct_mergeEntries {entries overlay : Entries} (below : Distinct (keys entries))
    (above : Distinct (keys overlay)) : Distinct (keys (mergeEntries entries overlay)) := by
  rw [keys_mergeEntries above, Distinct, List.pairwise_append]
  refine ⟨below, above.filter _, ?_⟩
  intro key member later added
  have fresh := (List.mem_filter.mp added).2
  rw [Bool.not_eq_true', hasKey_eq_any, List.any_eq_false] at fresh
  exact Bool.eq_false_iff.mpr (fresh key member)

/-! ## Any two values -/

/-- The entries of a mapping.  Any other value has none. -/
def entries : Value → Entries
  | map entries => entries
  | _ => []

@[simp] theorem entries_map (entries : Entries) : (map entries).entries = entries := rfl

theorem entries_of_bare {value : Value} (bare : ∀ entries, value ≠ map entries) :
    value.entries = [] := by
  unfold entries
  split
  · next held => exact absurd rfl (bare held)
  · rfl

/-- A mapping laid over nothing stays as it is. -/
theorem mergeEntries_nil {overlay : Entries} (wellFormed : (map overlay).IsWellFormed) :
    mergeEntries [] overlay = overlay := by
  have order : keys (mergeEntries [] overlay) = keys overlay := by
    rw [keys_mergeEntries wellFormed.distinct]
    simp [hasKey]
  have distinct : Distinct (keys (mergeEntries [] overlay)) := order ▸ wellFormed.distinct
  have inside : ∀ key ∈ keys (mergeEntries [] overlay), key.IsWellFormed :=
    order ▸ wellFormed.key
  apply entries_ext order distinct inside
  intro key member
  rw [lookup?_mergeEntries (inside key member) wellFormed.distinct wellFormed.key]
  cases lookup? overlay key with
  | none => rfl
  | some value => exact congrArg some (null_merge value)

/-- A mapping is laid over any value entry by entry. -/
theorem merge_map (base : Value) {overlay : Entries} (wellFormed : (map overlay).IsWellFormed) :
    base.merge (map overlay) = map (mergeEntries base.entries overlay) := by
  by_cases mapping : ∃ entries, base = map entries
  · obtain ⟨entries, rfl⟩ := mapping
    rw [merge]
    rfl
  · have bare := not_exists.mp mapping
    rw [merge_map_of_bare bare, entries_of_bare bare, mergeEntries_nil wellFormed]

namespace IsWellFormed

theorem entries {value : Value} (wellFormed : value.IsWellFormed) :
    (Value.map value.entries).IsWellFormed := by
  by_cases mapping : ∃ entries, value = Value.map entries
  · obtain ⟨entries, rfl⟩ := mapping
    exact wellFormed
  · rw [entries_of_bare (not_exists.mp mapping)]
    simp [Distinct]

theorem of_lookup? {entries : Entries} (wellFormed : (Value.map entries).IsWellFormed)
    {key value : Value} (found : lookup? entries key = some value) : value.IsWellFormed := by
  obtain ⟨held, member, _⟩ := exists_of_lookup? found
  exact wellFormed.value (held, value) member

theorem lookup?_getD {entries : Entries} (wellFormed : (Value.map entries).IsWellFormed)
    (key : Value) : ((lookup? entries key).getD Value.null).IsWellFormed := by
  cases found : lookup? entries key with
  | none => exact .null
  | some value => exact wellFormed.of_lookup? found

end IsWellFormed

/-- Induction in step with merging: null is laid over nothing, a firm value over anything, and
a mapping entry by entry. -/
@[elab_as_elim]
theorem layersInduction {motive : (value : Value) → value.IsWellFormed → Prop}
    (null : motive null .null)
    (firm : ∀ (value : Value) (wellFormed : value.IsWellFormed), value.IsFirm →
      motive value wellFormed)
    (map : ∀ (entries : Entries) (wellFormed : (map entries).IsWellFormed),
      (∀ entry, ∀ member : entry ∈ entries, motive entry.2 (wellFormed.value entry member)) →
        motive (map entries) wellFormed)
    (value : Value) (wellFormed : value.IsWellFormed) : motive value wellFormed := by
  induction wellFormed with
  | null => exact null
  | map entries distinct keysInside valuesInside _ valuesHypothesis =>
      exact map entries (.map entries distinct keysInside valuesInside) valuesHypothesis
  | _ => exact firm _ _ ⟨by simp, by simp⟩

/-- Merging gives no mapping a key twice. -/
theorem IsWellFormed.merge {base overlay : Value} (wellFormed : base.IsWellFormed)
    (overlayWellFormed : overlay.IsWellFormed) : (base.merge overlay).IsWellFormed := by
  induction overlay, overlayWellFormed using layersInduction generalizing base with
  | null => rwa [merge_null]
  | firm overlay overlayWellFormed firm => rwa [merge_firm base firm]
  | map overlay overlayWellFormed inductionHypothesis =>
      have below := wellFormed.entries
      have distinct := distinct_mergeEntries below.distinct overlayWellFormed.distinct
      have keysInside : ∀ key ∈ keys (mergeEntries base.entries overlay), key.IsWellFormed := by
        intro key member
        rw [keys_mergeEntries overlayWellFormed.distinct, List.mem_append] at member
        rcases member with held | added
        · exact below.key key held
        · exact overlayWellFormed.key key (List.mem_filter.mp added).1
      rw [merge_map base overlayWellFormed]
      refine isWellFormed_map.mpr ⟨distinct, keysInside, ?_⟩
      rintro ⟨key, value⟩ member
      have keyWellFormed := keysInside key (List.mem_map_of_mem member)
      have found := lookup?_of_distinct distinct keyWellFormed member
      rw [lookup?_mergeEntries keyWellFormed overlayWellFormed.distinct
        overlayWellFormed.key] at found
      cases given : lookup? overlay key with
      | none =>
          rw [given, overlaid_none] at found
          exact below.of_lookup? found
      | some above =>
          rw [given, overlaid_some, Option.some.injEq] at found
          obtain ⟨held, inside, _⟩ := exists_of_lookup? given
          rw [← found]
          exact inductionHypothesis (held, above) inside (below.lookup?_getD key)

/-- A mapping laid over a value is another mapping if that has the keys of both in their order
and each of them stands for what it should. -/
theorem merge_map_eq {base : Value} {overlay merged : Entries} (wellFormed : base.IsWellFormed)
    (overlayWellFormed : (map overlay).IsWellFormed)
    (order : keys base.entries ++ (keys overlay).filter (fun key => !hasKey base.entries key) =
      keys merged)
    (found : ∀ key ∈ keys merged,
      overlaid (lookup? base.entries key) (lookup? overlay key) = lookup? merged key) :
    base.merge (map overlay) = map merged := by
  have both := wellFormed.merge overlayWellFormed
  rw [merge_map base overlayWellFormed] at both ⊢
  rw [← keys_mergeEntries overlayWellFormed.distinct] at order
  congr 1
  apply entries_ext order both.distinct both.key
  intro key member
  rw [lookup?_mergeEntries (both.key key member) overlayWellFormed.distinct overlayWellFormed.key]
  exact found key (order ▸ member)

end Value
end Yaml
end InstanceScripts
