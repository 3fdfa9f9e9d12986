import InstanceScripts.Proofs.Settings.Decoding
import InstanceScripts.Settings.Directory
import Mathlib.Data.List.Induction
import Mathlib.Data.List.Pairwise

/-!
# Documents laid over each other

Of several documents that describe settings, the mappings that no other value hides are merged.
Every field then has the value from the last of them that names it, and the result describes
settings again, unless two of them name one field by keys with different tags.
-/

namespace InstanceScripts
namespace Settings

open Yaml (Value)
open Yaml.Value (Entries keys keys_append keys_cons lookup? mergeEntries mergeAll mergeAll_concat)

/-! ## Layers -/

/-- A document that is kept: it is not null, and describes settings by itself. -/
def IsKept (value : Value) : Prop :=
  value.isNull = false ∧ ∃ settings, ofValue value = .ok settings

/-- A mapping is one more layer, and any other value hides the layers below. -/
def layersOver : List Entries → Value → List Entries
  | layers, .map entries => layers ++ [entries]
  | _, _ => []

/-- The mappings that are merged in the end. -/
def layers (values : List Value) : List Entries :=
  values.foldl layersOver []

/-- Two keys name the same field and are not the same key: they differ in their tags. -/
def Clash (layers : List Entries) : Prop :=
  ∃ field key other, key ≠ other ∧
    Field.ofKey? key = some field ∧ Field.ofKey? other = some field ∧
    (∃ layer ∈ layers, key ∈ keys layer) ∧ ∃ layer ∈ layers, other ∈ keys layer

/-- A kept document is a mapping that describes settings, or it has a tag. -/
theorem IsKept.cases {value : Value} (kept : IsKept value) :
    (∃ entries, value = .map entries ∧ Describes entries) ∨
      ∃ tag content, value = .tagged tag content := by
  obtain ⟨notNull, settings, read⟩ := kept
  cases value with
  | null => cases notNull
  | map entries => exact .inl ⟨entries, rfl, .of_read read⟩
  | tagged tag content => exact .inr ⟨tag, content, rfl⟩
  | bool => cases read
  | int => cases read
  | float => cases read
  | str => cases read
  | seq => cases read

/-- Two keys do not name the same field. -/
def Apart (key other : Value) : Prop :=
  ∀ field, Field.ofKey? key = some field → ∀ another, Field.ofKey? other = some another →
    field ≠ another

instance : Std.Symm Apart where
  symm := by
    intro key other apart field named another otherNamed same
    exact apart another otherNamed field named same.symm

/-- Whether a key names a field. -/
def isFieldKey (key : Value) : Bool :=
  (Field.ofKey? key).isSome

theorem Describes.nodup_fieldKeys {entries : Entries} (describes : Describes entries) :
    ((keys entries).filter isFieldKey).Nodup := by
  have distinct := describes.distinct
  rw [List.Nodup, List.pairwise_filterMap] at distinct
  rw [List.Nodup, List.pairwise_filter]
  apply distinct.imp
  rintro key other apart counts _ rfl
  obtain ⟨field, named⟩ := Option.isSome_iff_exists.mp counts
  exact apart field named field named rfl

/-- The entry for a field is the last one with its key. -/
theorem Describes.split {entries : Entries} {key value : Value} {field : Field}
    (describes : Describes entries) (named : Field.ofKey? key = some field)
    (member : (key, value) ∈ entries) :
    ∃ front back, entries = front ++ (key, value) :: back ∧ key ∉ keys back := by
  obtain ⟨front, back, rfl⟩ := List.append_of_mem member
  refine ⟨front, back, rfl, ?_⟩
  have counts : isFieldKey key = true := by simp [isFieldKey, named]
  have distinct := describes.nodup_fieldKeys
  rw [keys_append, keys_cons, List.filter_append, List.filter_cons_of_pos counts] at distinct
  intro later
  exact (List.nodup_cons.mp (List.nodup_append'.mp distinct).2.1).1
    (List.mem_filter.mpr ⟨later, counts⟩)

/-- What is known of the entries that some layers make together. -/
structure Layered (layers : List Entries) (entries : Entries) : Prop where
  texts : ∀ key ∈ keys entries, key.IsText
  named : ∀ key, isFieldKey key = true →
    (key ∈ keys entries ↔ ∃ layer ∈ layers, key ∈ keys layer)
  distinct : ((keys entries).filter isFieldKey).Nodup
  origin : ∀ key value, isFieldKey key = true → (key, value) ∈ entries →
    ∃ layer ∈ layers, (key, value) ∈ layer
  latest : ∀ key value front layer back, isFieldKey key = true →
    layers = front ++ layer :: back → (key, value) ∈ layer →
    (∀ later ∈ back, key ∉ keys later) → lookup? entries key = some value

namespace Layered

variable {layers : List Entries} {entries overlay : Entries}

theorem single (describes : Describes entries) : Layered [entries] entries where
  texts := describes.texts
  named := by simp
  distinct := describes.nodup_fieldKeys
  origin := by simp
  latest := by
    intro key value front layer back counts only member _
    obtain ⟨rfl, rfl, rfl⟩ : front = [] ∧ layer = entries ∧ back = [] := by
      simpa [List.append_eq_cons_iff, eq_comm] using only
    obtain ⟨field, named⟩ := Option.isSome_iff_exists.mp counts
    exact Yaml.Value.lookup?_of_mem (Field.isText_of_ofKey? named) counts
      describes.nodup_fieldKeys member

/-- One more document that describes settings is one more layer. -/
theorem lay (layered : Layered layers entries) (describes : Describes overlay) :
    Layered (layers ++ [overlay]) (mergeEntries entries overlay) := by
  have allKeys := Yaml.Value.mem_keys_mergeEntries describes.texts entries
  have distinct := Yaml.Value.nodup_keys_mergeEntries describes.texts layered.distinct
  have given {key value : Value} (counts : isFieldKey key = true)
      (member : (key, value) ∈ overlay) :
      lookup? (mergeEntries entries overlay) key = some value := by
    obtain ⟨field, named⟩ := Option.isSome_iff_exists.mp counts
    obtain ⟨setting, read⟩ := describes.usable _ member field named
    obtain ⟨front, back, rfl, last⟩ := describes.split named member
    exact Yaml.Value.lookup?_mergeEntries_of_mem entries describes.texts
      (isFirm_of_settingOfValue read) last
  have kept {key : Value} (counts : isFieldKey key = true) (missing : key ∉ keys overlay) :
      lookup? (mergeEntries entries overlay) key = lookup? entries key := by
    obtain ⟨field, named⟩ := Option.isSome_iff_exists.mp counts
    exact Yaml.Value.lookup?_mergeEntries_of_notMem describes.texts entries
      (Field.isText_of_ofKey? named) missing
  refine ⟨?_, ?_, distinct, ?_, ?_⟩
  · intro key member
    rcases (allKeys key).mp member with inside | added
    · exact layered.texts key inside
    · exact describes.texts key added
  · intro key counts
    rw [allKeys, layered.named key counts]
    simp [or_and_right, exists_or]
  · intro key value counts member
    obtain ⟨field, named⟩ := Option.isSome_iff_exists.mp counts
    have text := Field.isText_of_ofKey? named
    have found := Yaml.Value.lookup?_of_mem text counts distinct member
    by_cases added : key ∈ keys overlay
    · obtain ⟨⟨_, held⟩, inside, rfl⟩ := List.mem_map.mp added
      rw [given counts inside] at found
      cases found
      exact ⟨overlay, by simp, inside⟩
    · rw [kept counts added] at found
      obtain ⟨layer, below, inside⟩ :=
        layered.origin key value counts (Yaml.Value.mem_of_lookup? text found)
      exact ⟨layer, by simp [below], inside⟩
  · intro key value front layer back counts split member last
    rcases List.eq_nil_or_concat back with rfl | ⟨below, top, rfl⟩
    · obtain ⟨rfl, rfl⟩ : layers = front ∧ overlay = layer := by
        simpa using List.append_inj' split rfl
      exact given counts member
    · obtain ⟨rfl, rfl⟩ : layers = front ++ layer :: below ∧ overlay = top := by
        rw [List.concat_eq_append, ← List.cons_append, ← List.append_assoc] at split
        simpa using List.append_inj' split rfl
      rw [kept counts (last overlay (by simp))]
      exact layered.latest key value front layer below counts rfl member fun later inside =>
        last later (by simp [inside])

/-- The values of the fields in the merged entries are usable, as in the layers. -/
theorem usable (layered : Layered layers entries) (described : ∀ layer ∈ layers, Describes layer) :
    ∀ entry ∈ entries, IsUsable entry := by
  rintro ⟨key, value⟩ member field named
  obtain ⟨layer, inside, held⟩ := layered.origin key value (by simp [isFieldKey, named]) member
  exact (described layer inside).usable (key, value) held field named

/-- The merged entries name a field twice only if the layers clash. -/
theorem nodup_iff (layered : Layered layers entries) :
    ((keys entries).filterMap Field.ofKey?).Nodup ↔ ¬Clash layers := by
  have distinct := layered.distinct
  rw [List.Nodup, List.pairwise_filter] at distinct
  rw [List.Nodup, List.pairwise_filterMap]
  constructor
  · rintro apart ⟨field, key, other, different, named, otherNamed, holds, otherHolds⟩
    have inside := (layered.named key (by simp [isFieldKey, named])).mpr holds
    have otherInside := (layered.named other (by simp [isFieldKey, otherNamed])).mpr otherHolds
    have all : (keys entries).Pairwise Apart := apart
    exact all.forall inside otherInside different field named field otherNamed rfl
  · intro clear
    apply distinct.imp_of_mem
    rintro key other inside otherInside apart field named _ otherNamed rfl
    have counts : isFieldKey key = true := by simp [isFieldKey, named]
    have otherCounts : isFieldKey other = true := by simp [isFieldKey, otherNamed]
    exact clear ⟨field, key, other, apart counts otherCounts, named, otherNamed,
      (layered.named key counts).mp inside, (layered.named other otherCounts).mp otherInside⟩

end Layered

/-! ## What is merged -/

/-- What merging kept documents gives: the last of them if that has a tag, and otherwise the
merged layers. -/
inductive Merged (values : List Value) : Prop
  | nothing (none : values = []) (bare : layers values = []) (null : mergeAll values = .null)
  | last (kept : IsKept (mergeAll values)) (bare : layers values = [])
      (tagged : ∃ tag content, mergeAll values = .tagged tag content)
  | mapping (entries : Entries) (merged : mergeAll values = .map entries)
      (layered : Layered (layers values) entries)
      (described : ∀ layer ∈ layers values, Describes layer)

theorem layers_concat (values : List Value) (value : Value) :
    layers (values ++ [value]) = layersOver (layers values) value := by
  rw [layers, List.foldl_append]
  rfl

/-- A mapping over something else than a mapping is the only layer. -/
theorem Merged.alone {values : List Value} {overlay : Entries} (bare : layers values = [])
    (unmapped : ∀ entries, mergeAll values ≠ .map entries) (describes : Describes overlay) :
    Merged (values ++ [.map overlay]) := by
  have grown : layers (values ++ [.map overlay]) = [overlay] := by
    rw [layers_concat, bare]
    rfl
  refine .mapping overlay ?_ ?_ ?_
  · rw [mergeAll_concat, Value.merge_map_of_bare unmapped]
  · rw [grown]
    exact .single describes
  · rw [grown]
    simpa using describes

/-- One more mapping that describes settings is one more layer. -/
theorem Merged.lay {values : List Value} {overlay : Entries} (below : Merged values)
    (describes : Describes overlay) : Merged (values ++ [.map overlay]) := by
  cases below with
  | nothing _ bare null => exact .alone bare (by simp [null]) describes
  | last _ bare tagged =>
      obtain ⟨tag, content, shown⟩ := tagged
      exact .alone bare (by simp [shown]) describes
  | mapping entries merged layered described =>
      have grown : layers (values ++ [.map overlay]) = layers values ++ [overlay] := by
        rw [layers_concat]
        rfl
      refine .mapping (mergeEntries entries overlay) ?_ ?_ ?_
      · rw [mergeAll_concat, merged, Value.merge]
      · rw [grown]
        exact layered.lay describes
      · rw [grown]
        intro layer member
        rcases List.mem_append.mp member with lower | upper
        · exact described layer lower
        · obtain rfl := List.mem_singleton.mp upper
          exact describes

/-- A document with a tag hides all others. -/
theorem Merged.cover (values : List Value) {tag : String} {content : Value}
    (kept : IsKept (.tagged tag content)) : Merged (values ++ [.tagged tag content]) := by
  have shown : mergeAll (values ++ [.tagged tag content]) = .tagged tag content := by
    rw [mergeAll_concat]
    exact Value.merge_firm _ ⟨by simp, by simp⟩
  refine .last ?_ ?_ ⟨tag, content, shown⟩
  · rw [shown]
    exact kept
  · rw [layers_concat]
    rfl

/-- Kept documents merge into a document of which all is known. -/
theorem merged_of_kept {values : List Value} (kept : ∀ value ∈ values, IsKept value) :
    Merged values := by
  -- Induction on the number of documents: the last one is laid over all others.
  induction values using List.reverseRecOn with
  | nil => exact .nothing rfl rfl rfl
  | append_singleton values value inductionHypothesis =>
      have below := inductionHypothesis fun other member => kept other (by simp [member])
      have top : IsKept value := kept value (by simp)
      rcases top.cases with ⟨overlay, rfl, describes⟩ | ⟨tag, content, rfl⟩
      · exact below.lay describes
      · exact .cover values top

/-! ## What the merged document describes -/

/-- Layers give a field its last value: no layer above names the field again. -/
def GivenLast (layers : List Entries) (field : Field) (given : Setting) : Prop :=
  ∃ front layer back, layers = front ++ layer :: back ∧ Gives layer field given ∧
    ∀ later ∈ back, ¬Names later field

/-- Layers that do not clash describe settings in which every field has its last value. -/
theorem Layered.read {layers : List Entries} {entries : Entries}
    (layered : Layered layers entries) (described : ∀ layer ∈ layers, Describes layer)
    (clear : ¬Clash layers) :
    ∃ settings, ofValue (.map entries) = .ok settings ∧
      (∀ field given, GivenLast layers field given → settings.setting field = given) ∧
      ∀ field, (∀ layer ∈ layers, ¬Names layer field) →
        settings.setting field = standard.setting field := by
  have describes : Describes entries :=
    ⟨layered.texts, layered.usable described, layered.nodup_iff.mpr clear⟩
  obtain ⟨settings, read, gives, others⟩ := describes.read
  refine ⟨settings, read, ?_, ?_⟩
  · rintro field given ⟨front, layer, back, split, ⟨key, value, member, named, set⟩, last⟩
    have found := layered.latest key value front layer back (by simp [isFieldKey, named]) split
      member fun later above inside => last later above ⟨key, inside, named⟩
    have held := Value.mem_of_lookup? (Field.isText_of_ofKey? named) found
    exact gives field given ⟨key, value, held, named, set⟩
  · intro field unnamed
    apply others
    rintro ⟨key, inside, named⟩
    obtain ⟨layer, member, holds⟩ :=
      (layered.named key (by simp [isFieldKey, named])).mp inside
    exact unnamed layer member ⟨key, holds, named⟩

/-- The settings that kept documents describe together, before they are validated. -/
def describedBy (values : List Value) : Except Failure Settings :=
  if (mergeAll values).isNull then .ok standard
  else (ofValue (mergeAll values)).mapError .yaml

theorem ofDocuments_eq (values : List Value) :
    ofDocuments values =
      match describedBy values with
      | .error failure => .error failure
      | .ok settings => settings.validate.map fun _ => settings := rfl

/-- Settings come of documents if the documents describe them and they pass. -/
theorem ofDocuments_ok_iff {values : List Value} {settings : Settings} :
    ofDocuments values = .ok settings ↔
      describedBy values = .ok settings ∧ settings.validate = .ok () := by
  rw [ofDocuments_eq]
  cases describedBy values with
  | error failure => simp
  | ok together =>
      dsimp only
      constructor
      · intro loaded
        cases checked : together.validate with
        | error failure =>
            rw [checked] at loaded
            cases loaded
        | ok =>
            rw [checked] at loaded
            cases loaded
            exact ⟨rfl, checked⟩
      · rintro ⟨described, passed⟩
        cases described
        rw [passed]
        rfl

/-- Kept documents describe settings unless their layers clash, and then a field is named
twice. -/
theorem described_cases {values : List Value} (kept : ∀ value ∈ values, IsKept value) :
    (¬Clash (layers values) ∧ ∃ settings, describedBy values = .ok settings) ∨
      (Clash (layers values) ∧ ∃ field : Field, describedBy values =
        .error (.yaml (.unplaced (.repeatedField field.name)))) := by
  have bare_clear (bare : layers values = []) : ¬Clash (layers values) := by
    rw [bare]
    rintro ⟨_, _, _, _, _, _, ⟨layer, member, _⟩, _⟩
    cases member
  unfold describedBy
  cases merged_of_kept kept with
  | nothing _ bare null => exact .inl ⟨bare_clear bare, standard, by rw [null]; rfl⟩
  | last alone bare _ =>
      obtain ⟨notNull, settings, read⟩ := alone
      exact .inl ⟨bare_clear bare, settings, by rw [notNull, read]; rfl⟩
  | mapping entries merged layered described =>
      rw [merged]
      by_cases clash : Clash (layers values)
      · have repeated : ¬((keys entries).filterMap Field.ofKey?).Nodup :=
          fun distinct => layered.nodup_iff.mp distinct clash
        rcases ofValue_map_cases layered.texts (layered.usable described) with
          ⟨distinct, _⟩ | ⟨_, field, failed⟩
        · exact absurd distinct repeated
        · exact .inr ⟨clash, field, by rw [failed]; rfl⟩
      · obtain ⟨settings, read, _⟩ := layered.read described clash
        exact .inl ⟨clash, settings, by rw [read]; rfl⟩

end Settings
end InstanceScripts
