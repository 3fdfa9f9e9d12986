import InstanceScripts.Proofs.Yaml.Pointwise
import Mathlib.Data.List.Induction

/-!
# Any number of mappings over each other

Looking a key up commutes with merging however many mappings there are, and the keys of all of
them stand in the order in which they appear first.
-/

namespace InstanceScripts

/-! ## First appearances -/

section FirstAppearances

variable {α : Type} {same : α → α → Bool}

theorem eraseDupsBy_loop_append (front back kept : List α) :
    List.eraseDupsBy.loop same (front ++ back) kept =
      List.eraseDupsBy.loop same back (List.eraseDupsBy.loop same front kept).reverse := by
  induction front generalizing kept with
  | nil => rw [List.nil_append, List.eraseDupsBy.loop, List.reverse_reverse]
  | cons item front inductionHypothesis =>
      rw [List.cons_append, List.eraseDupsBy.loop, List.eraseDupsBy.loop]
      split <;> exact inductionHypothesis _

theorem eraseDupsBy_loop_of_pairwise {items : List α}
    (apart : items.Pairwise fun item later => same later item = false) (kept : List α) :
    List.eraseDupsBy.loop same items kept =
      kept.reverse ++ items.filter fun item => !kept.any (same item) := by
  induction items generalizing kept with
  | nil => simp [List.eraseDupsBy.loop]
  | cons item items inductionHypothesis =>
      obtain ⟨first, behind⟩ := List.pairwise_cons.mp apart
      rw [List.eraseDupsBy.loop]
      cases known : kept.any (same item) with
      | true => simp [known, inductionHypothesis behind]
      | false =>
          have unmoved : ∀ later ∈ items,
              (!(item :: kept).any (same later)) = !kept.any (same later) := by
            intro later member
            rw [List.any_cons, first later member, Bool.false_or]
          have extended := inductionHypothesis behind (item :: kept)
          rw [List.filter_congr unmoved] at extended
          simp [known, extended]

/-- Of items that are all different, those come last that have not appeared before. -/
theorem eraseDupsBy_append {back : List α}
    (apart : back.Pairwise fun item later => same later item = false) (front : List α) :
    (front ++ back).eraseDupsBy same =
      front.eraseDupsBy same ++
        back.filter fun item => !(front.eraseDupsBy same).any (same item) := by
  rw [List.eraseDupsBy, eraseDupsBy_loop_append, eraseDupsBy_loop_of_pairwise apart,
    List.reverse_reverse]
  simp only [List.any_reverse]
  rfl

end FirstAppearances

namespace Yaml
namespace Value

/-! ## Any number of values -/

/-- Merging well-formed values gives a well-formed one. -/
theorem isWellFormed_mergeAll {values : List Value}
    (wellFormed : ∀ value ∈ values, value.IsWellFormed) : (mergeAll values).IsWellFormed := by
  induction values using List.reverseRecOn with
  | nil => exact .null
  | append_singleton values value inductionHypothesis =>
      rw [List.forall_mem_append, List.forall_mem_singleton] at wellFormed
      rw [mergeAll_concat]
      exact (inductionHypothesis wellFormed.1).merge wellFormed.2

/-- What stands under a key if these are the values that it is given, one after the other. -/
def mergeAll? (values : List Value) : Option Value :=
  if values.isEmpty then none else some (mergeAll values)

theorem mergeAll?_of_ne_nil {values : List Value} (given : values ≠ []) :
    mergeAll? values = some (mergeAll values) := by
  rw [mergeAll?, if_neg (by rwa [List.isEmpty_iff])]

theorem isSome_mergeAll? (values : List Value) :
    (mergeAll? values).isSome = true ↔ values ≠ [] := by
  cases values <;> simp [mergeAll?]

theorem overlaid_mergeAll? (values : List Value) (given : Option Value) :
    overlaid (mergeAll? values) given = mergeAll? (values ++ given.toList) := by
  cases given with
  | none => rw [overlaid_none, Option.toList_none, List.append_nil]
  | some value =>
      have last : ((mergeAll? values).getD null).merge value = mergeAll (values ++ [value]) := by
        rw [mergeAll_concat, mergeAll?]
        cases values <;> rfl
      rw [overlaid_some, last, Option.toList_some, mergeAll?_of_ne_nil (by simp)]

/-- The entries of mappings laid over each other in order. -/
def mergedEntries (documents : List Entries) : Entries :=
  (mergeAll (documents.map map)).entries

section Documents

variable {documents : List Entries}

theorem mergedEntries_concat (documents : List Entries) {document : Entries}
    (wellFormed : (map document).IsWellFormed) :
    mergedEntries (documents ++ [document]) = mergeEntries (mergedEntries documents) document := by
  rw [mergedEntries, List.map_append, List.map_singleton, mergeAll_concat, merge_map _ wellFormed]
  rfl

variable (wellFormed : ∀ document ∈ documents, (map document).IsWellFormed)
include wellFormed

theorem mergeAll_map (given : documents ≠ []) :
    mergeAll (documents.map map) = map (mergedEntries documents) := by
  obtain ⟨front, last, rfl⟩ := (List.eq_nil_or_concat' documents).resolve_left given
  have lastWellFormed := wellFormed last (by simp)
  rw [mergedEntries_concat front lastWellFormed, List.map_append, List.map_singleton,
    mergeAll_concat, merge_map _ lastWellFormed]
  rfl

theorem distinct_mergedEntries : Distinct (keys (mergedEntries documents)) := by
  induction documents using List.reverseRecOn with
  | nil => exact List.Pairwise.nil
  | append_singleton documents document inductionHypothesis =>
      rw [List.forall_mem_append, List.forall_mem_singleton] at wellFormed
      rw [mergedEntries_concat documents wellFormed.2]
      exact distinct_mergeEntries (inductionHypothesis wellFormed.1) wellFormed.2.distinct

theorem lookup?_mergedEntries {key : Value} (keyWellFormed : key.IsWellFormed) :
    lookup? (mergedEntries documents) key =
      mergeAll? (documents.filterMap fun document => lookup? document key) := by
  induction documents using List.reverseRecOn with
  | nil => rfl
  | append_singleton documents document inductionHypothesis =>
      rw [List.forall_mem_append, List.forall_mem_singleton] at wellFormed
      rw [mergedEntries_concat documents wellFormed.2,
        lookup?_mergeEntries keyWellFormed wellFormed.2.distinct wellFormed.2.key,
        inductionHypothesis wellFormed.1, overlaid_mergeAll?, List.filterMap_append]
      congr 2

theorem hasKey_mergedEntries {key : Value} (keyWellFormed : key.IsWellFormed) :
    hasKey (mergedEntries documents) key = true ↔
      ∃ document ∈ documents, hasKey document key = true := by
  simp only [← isSome_lookup?, lookup?_mergedEntries wellFormed keyWellFormed, isSome_mergeAll?,
    ne_eq, List.filterMap_eq_nil_iff, not_forall, Option.ne_none_iff_isSome]
  simp only [exists_prop]

theorem keys_mergedEntries :
    keys (mergedEntries documents) = (documents.flatMap keys).eraseDupsBy same := by
  induction documents using List.reverseRecOn with
  | nil => rfl
  | append_singleton documents document inductionHypothesis =>
      rw [List.forall_mem_append, List.forall_mem_singleton] at wellFormed
      rw [mergedEntries_concat documents wellFormed.2, keys_mergeEntries wellFormed.2.distinct,
        List.flatMap_append, List.flatMap_singleton, eraseDupsBy_append wellFormed.2.distinct]
      simp only [hasKey_eq_any, inductionHypothesis wellFormed.1]

/-- Merging mappings gives a mapping that has each key of theirs once, where it appears first.
What stands under a key is what the mappings that have it hold there merged in order, whatever
they hold elsewhere. -/
theorem mergeAll_mappings :
    (documents ≠ [] → mergeAll (documents.map map) = map (mergedEntries documents)) ∧
    (∀ key : Value, key.IsWellFormed →
      (hasKey (mergedEntries documents) key = true ↔
        ∃ document ∈ documents, hasKey document key = true) ∧
      (hasKey (mergedEntries documents) key = true →
        lookup? (mergedEntries documents) key =
          some (mergeAll (documents.filterMap fun document => lookup? document key))) ∧
      ∀ others : List Entries, (∀ document ∈ others, (map document).IsWellFormed) →
        others.filterMap (fun document => lookup? document key) =
            documents.filterMap (fun document => lookup? document key) →
          lookup? (mergedEntries others) key = lookup? (mergedEntries documents) key) ∧
    keys (mergedEntries documents) = (documents.flatMap keys).eraseDupsBy same ∧
    Distinct (keys (mergedEntries documents)) := by
  refine ⟨mergeAll_map wellFormed, ?_, keys_mergedEntries wellFormed,
    distinct_mergedEntries wellFormed⟩
  intro key keyWellFormed
  have found := lookup?_mergedEntries wellFormed keyWellFormed
  refine ⟨hasKey_mergedEntries wellFormed keyWellFormed, ?_, ?_⟩
  · intro held
    rw [← isSome_lookup?, found, isSome_mergeAll?] at held
    rw [found, mergeAll?_of_ne_nil held]
  · intro others othersWellFormed alike
    rw [found, lookup?_mergedEntries othersWellFormed keyWellFormed, alike]

end Documents

/-- A nested mapping is merged by its own keys, and null overrides only nothing. -/
theorem mergeAll_mappings_nested :
    let first : Entries :=
      [(str "server", map [(str "port", int 1), (str "host", tagged "!h" (str "a"))]),
        (seq [int 1], null)]
    let second : Entries :=
      [(int 3, null), (str "server", map [(str "port", null), (str "host", tagged "!h" (str "b"))])]
    mergeAll [map first, map second] = map (mergedEntries [first, second]) ∧
      keys (mergedEntries [first, second]) = [str "server", seq [int 1], int 3] ∧
      lookup? (mergedEntries [first, second]) (seq [int 1]) = some null ∧
      lookup? (mergedEntries [first, second]) (str "server") =
        some (map [(str "port", int 1), (str "host", tagged "!h" (str "b"))]) := by
  intro first second
  have wellFormed : ∀ document ∈ [first, second], (map document).IsWellFormed := by
    simp [first, second, Distinct, same, or_imp, forall_and]
  obtain ⟨mapping, pointwise, order, _⟩ := mergeAll_mappings wellFormed
  obtain ⟨_, sequence, _⟩ := pointwise (seq [int 1]) (by simp)
  obtain ⟨_, server, _⟩ := pointwise (str "server") (by simp)
  exact ⟨mapping (by simp), order, sequence rfl, server rfl⟩

end Value
end Yaml
end InstanceScripts
