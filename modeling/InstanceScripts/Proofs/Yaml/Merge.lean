import InstanceScripts.Proofs.Yaml.Entries
import InstanceScripts.Yaml.Merge
import Mathlib.Data.List.Nodup

/-!
# What merging keeps

Keys that are texts under any tags are the same only if they are equal.  Merging a mapping into
another one adds the keys that are new, and gives each of its keys the value that it has itself
unless that has to be merged further.
-/

namespace InstanceScripts
namespace Yaml
namespace Value

attribute [local simp] same merge mergeEntries

/-- A text, under any tags. -/
def IsText (value : Value) : Prop :=
  ∃ text, value.untag = .str text

/-- A value that overrides whatever it is laid over: it is neither null nor a mapping. -/
def IsFirm (value : Value) : Prop :=
  value ≠ null ∧ ∀ entries, value ≠ map entries

/-- A value overrides what it is laid over, unless it is null or both are mappings. -/
theorem merge_override {base overlay : Value} (present : overlay ≠ null)
    (apart : ∀ entries others, base = map entries → overlay ≠ map others) :
    base.merge overlay = overlay := by
  unfold merge
  split
  · next entries others => exact absurd rfl (apart entries others rfl)
  · exact absurd rfl present
  · rfl

theorem merge_firm (base : Value) {overlay : Value} (firm : overlay.IsFirm) :
    base.merge overlay = overlay :=
  merge_override firm.1 fun _ entries _ => firm.2 entries

theorem merge_null (base : Value) : base.merge null = base := by
  cases base <;> rfl

/-- A mapping overrides anything but a mapping. -/
theorem merge_map_of_bare {base : Value} (bare : ∀ entries, base ≠ map entries)
    (overlay : Entries) : base.merge (map overlay) = map overlay := by
  apply merge_override
  · simp
  · intro entries _ same
    exact absurd same (bare entries)

theorem null_merge (overlay : Value) : null.merge overlay = overlay := by
  by_cases present : overlay = null
  · rw [present, merge]
  · apply merge_override present
    intro entries others apart
    cases apart

theorem mergeAll_concat (values : List Value) (value : Value) :
    mergeAll (values ++ [value]) = (mergeAll values).merge value := by
  rw [mergeAll, List.foldl_append]
  rfl

theorem untag_of_untagged {value : Value} (untagged : ∀ tag content, value ≠ tagged tag content) :
    value.untag = value := by
  unfold untag
  split
  · next tag content => exact absurd rfl (untagged tag content)
  · rfl

/-- A text is the same key as nothing but itself. -/
theorem same_iff {key other : Value} (text : key.IsText) : key.same other = true ↔ key = other := by
  induction key using untag.induct generalizing other with
  | case1 tag content inductionHypothesis =>
      cases other with
      | tagged otherTag otherContent => simp [inductionHypothesis text]
      | _ => simp
  | case2 key untagged =>
      obtain ⟨spelled, found⟩ := text
      rw [untag_of_untagged untagged] at found
      subst found
      cases other <;> simp

theorem same_eq_false {key other : Value} (text : key.IsText) (different : key ≠ other) :
    key.same other = false := by
  rw [Bool.eq_false_iff, Ne, same_iff text]
  exact different

theorem hasKey_iff {entries : Entries} {key : Value} (text : key.IsText) :
    hasKey entries key = true ↔ key ∈ keys entries := by
  rw [hasKey, List.any_eq_true, keys, List.mem_map]
  simp only [same_iff text, eq_comm]

theorem IsText.isWellFormed {key : Value} (text : key.IsText) : key.IsWellFormed := by
  induction key using untag.induct with
  | case1 tag content inductionHypothesis => exact .tagged tag content (inductionHypothesis text)
  | case2 key untagged =>
      obtain ⟨spelled, found⟩ := text
      rw [untag_of_untagged untagged] at found
      subst found
      exact .str spelled

/-! ## Looking keys up -/

theorem mem_of_lookup? {entries : Entries} {key value : Value} (text : key.IsText)
    (found : lookup? entries key = some value) : (key, value) ∈ entries := by
  obtain ⟨held, member, alike⟩ := exists_of_lookup? found
  obtain rfl := (same_iff text).mp alike
  exact member

/-- A key that stands in one entry only is looked up there. -/
theorem lookup?_of_mem {entries : Entries} {key value : Value} {counts : Value → Bool}
    (text : key.IsText) (counted : counts key = true)
    (distinct : ((keys entries).filter counts).Nodup) (member : (key, value) ∈ entries) :
    lookup? entries key = some value := by
  obtain ⟨front, back, rfl⟩ := List.append_of_mem member
  apply lookup?_of_fresh ?_ text.isWellFormed
  rw [Bool.eq_false_iff, Ne, hasKey_iff text]
  intro earlier
  rw [keys_append, keys_cons, List.filter_append, List.filter_cons_of_pos counted] at distinct
  exact (List.nodup_append'.mp distinct).2.2 (List.mem_filter.mpr ⟨earlier, counted⟩)
    List.mem_cons_self

/-! ## Changing one entry -/

theorem lookup?_alter_self (entries : Entries) {key : Value} (text : key.IsText)
    (change : Option Value → Value) :
    lookup? (alter entries key change) key = some (change (lookup? entries key)) := by
  rw [lookup?_alter text.isWellFormed text.isWellFormed, if_pos text.isWellFormed.same_refl]

theorem lookup?_alter_of_ne (entries : Entries) {key other : Value} (text : key.IsText)
    (otherText : other.IsText) (different : other ≠ key) (change : Option Value → Value) :
    lookup? (alter entries key change) other = lookup? entries other := by
  rw [lookup?_alter text.isWellFormed otherText.isWellFormed, same_eq_false otherText different,
    if_neg Bool.false_ne_true]

/-! ## Merging entries -/

theorem mergeEntries_append (entries front back : Entries) :
    mergeEntries entries (front ++ back) = mergeEntries (mergeEntries entries front) back := by
  induction front generalizing entries with
  | nil => rw [List.nil_append, mergeEntries]
  | cons entry front inductionHypothesis =>
      rw [List.cons_append, mergeEntries, mergeEntries, inductionHypothesis]

section

variable {overlay : Entries} (texts : ∀ key ∈ keys overlay, key.IsText)
include texts

theorem mem_keys_mergeEntries (entries : Entries) (key : Value) :
    key ∈ keys (mergeEntries entries overlay) ↔ key ∈ keys entries ∨ key ∈ keys overlay := by
  induction overlay generalizing entries with
  | nil => simp
  | cons entry overlay inductionHypothesis =>
      obtain ⟨text, others⟩ := List.forall_mem_cons.mp texts
      rw [mergeEntries, inductionHypothesis others, keys_alter, keys_cons, List.mem_cons]
      split
      · next held =>
          have present := (hasKey_iff text).mp held
          constructor
          · exact Or.imp_right Or.inr
          · rintro (inside | rfl | later)
            · exact .inl inside
            · exact .inl present
            · exact .inr later
      · rw [List.mem_append, List.mem_singleton, or_assoc]

/-- Keys that were all different stay so. -/
theorem nodup_keys_mergeEntries {counts : Value → Bool} {entries : Entries}
    (distinct : ((keys entries).filter counts).Nodup) :
    ((keys (mergeEntries entries overlay)).filter counts).Nodup := by
  induction overlay generalizing entries with
  | nil => rwa [mergeEntries]
  | cons entry overlay inductionHypothesis =>
      obtain ⟨text, others⟩ := List.forall_mem_cons.mp texts
      rw [mergeEntries]
      apply inductionHypothesis others
      rw [keys_alter]
      split
      · exact distinct
      · next unheld =>
          rw [hasKey_iff text] at unheld
          rw [List.filter_append, List.nodup_append']
          refine ⟨distinct, (List.nodup_singleton entry.1).filter counts, ?_⟩
          intro key inside last
          obtain rfl : key = entry.1 := List.mem_singleton.mp (List.mem_filter.mp last).1
          exact unheld (List.mem_filter.mp inside).1

/-- A key that the overlay does not have keeps its value. -/
theorem lookup?_mergeEntries_of_notMem (entries : Entries) {key : Value} (text : key.IsText)
    (missing : key ∉ keys overlay) :
    lookup? (mergeEntries entries overlay) key = lookup? entries key := by
  induction overlay generalizing entries with
  | nil => rw [mergeEntries]
  | cons entry overlay inductionHypothesis =>
      obtain ⟨entryText, others⟩ := List.forall_mem_cons.mp texts
      obtain ⟨different, later⟩ := List.ne_and_not_mem_of_not_mem_cons missing
      rw [mergeEntries, inductionHypothesis others _ later,
        lookup?_alter_of_ne entries entryText text different]

end

/-- A key gets the last firm value that the overlay has for it. -/
theorem lookup?_mergeEntries_of_mem (entries : Entries) {front back : Entries} {key value : Value}
    (texts : ∀ other ∈ keys (front ++ (key, value) :: back), other.IsText) (firm : value.IsFirm)
    (last : key ∉ keys back) :
    lookup? (mergeEntries entries (front ++ (key, value) :: back)) key = some value := by
  have text : key.IsText := texts key (by simp)
  have later : ∀ key ∈ keys back, key.IsText := by
    intro other member
    exact texts other (by simp [member])
  rw [mergeEntries_append, mergeEntries, lookup?_mergeEntries_of_notMem later _ text last,
    lookup?_alter_self _ text]
  split
  · rw [merge_firm _ firm]
  · rfl

end Value
end Yaml
end InstanceScripts
