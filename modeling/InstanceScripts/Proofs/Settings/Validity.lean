import InstanceScripts.Proofs.Settings.Precedence

/-!
# What is checked of loaded settings

Settings are checked once, when all documents have been merged.  So it does not matter which file
breaks or mends a field: what is loaded names a metadata server and leaves both kinds of request
some time.  The time in which to connect is not checked, and is zero only if a document that is
kept makes it so.
-/

namespace InstanceScripts
namespace Settings

open Yaml (Value)
open Yaml.Value (Entries keys mergeAll mergeAll_concat)

/-! ## Settings that pass -/

/-- Settings that name a metadata server and leave requests some time once they are connected. -/
structure IsServiceable (settings : Settings) : Prop where
  metadataUrl : ∃ char ∈ settings.metadataUrl.toList, Text.isBlank char = false
  requestTimeoutSecs : 0 < settings.requestTimeoutSecs
  metadataTimeoutSecs : 0 < settings.metadataTimeoutSecs

theorem allBlank_eq_false_iff {text : String} :
    Text.allBlank text = false ↔ ∃ char ∈ text.toList, Text.isBlank char = false :=
  List.all_eq_false.trans (by simp only [Bool.not_eq_true])

theorem validate_ok_iff {settings : Settings} :
    settings.validate = .ok () ↔ settings.IsServiceable := by
  unfold validate
  constructor
  · intro passed
    split at passed
    · cases passed
    · next visible =>
        split at passed
        · cases passed
        · next timed =>
            obtain ⟨request, metadata⟩ := not_or.mp timed
            exact ⟨allBlank_eq_false_iff.mp (Bool.eq_false_iff.mpr visible),
              UInt64.pos_iff_ne_zero.mpr request, UInt64.pos_iff_ne_zero.mpr metadata⟩
  · rintro ⟨visible, request, metadata⟩
    have timed : ¬(settings.requestTimeoutSecs = 0 ∨ settings.metadataTimeoutSecs = 0) :=
      not_or.mpr ⟨UInt64.pos_iff_ne_zero.mp request, UInt64.pos_iff_ne_zero.mp metadata⟩
    rw [if_neg (Bool.eq_false_iff.mp (allBlank_eq_false_iff.mpr visible)), if_neg timed]

/-- What is loaded is what the documents that are kept describe together, if it passes. -/
theorem load_eq_ok_iff {directory : Directory} {settings : Settings} :
    (load directory).1 = .ok settings ↔
      directory.IsReadable ∧ describedBy directory.accepted = .ok settings ∧
        settings.IsServiceable := by
  constructor
  · intro loaded
    rcases load_cases directory with ⟨readable, ends⟩ | ⟨_, fault, failed⟩
    · rw [ends] at loaded
      obtain ⟨described, passed⟩ := ofDocuments_ok_iff.mp loaded
      exact ⟨readable, described, validate_ok_iff.mp passed⟩
    · rw [failed] at loaded
      cases loaded
  · rintro ⟨readable, described, serviceable⟩
    rw [load_of_isReadable readable]
    exact ofDocuments_ok_iff.mpr ⟨described, validate_ok_iff.mpr serviceable⟩

/-! ## Where a setting comes from -/

/-- A layer is one of the documents. -/
theorem mem_of_mem_layers {values : List Value} {layer : Entries} (member : layer ∈ layers values) :
    Value.map layer ∈ values := by
  induction values using List.reverseRecOn with
  | nil => cases member
  | append_singleton values value inductionHypothesis =>
      rw [layers_concat] at member
      cases value with
      | map entries =>
          rcases List.mem_append.mp member with below | top
          · exact List.mem_append_left _ (inductionHypothesis below)
          · obtain rfl := List.mem_singleton.mp top
            simp
      | _ => cases member

/-- If documents that are kept merge into a tagged one, it is one of them. -/
theorem mem_of_mergeAll_tagged {values : List Value} (kept : ∀ value ∈ values, IsKept value)
    {tag : String} {content : Value} (merged : mergeAll values = .tagged tag content) :
    Value.tagged tag content ∈ values := by
  rcases List.eq_nil_or_concat' values with rfl | ⟨below, top, rfl⟩
  · cases merged
  · rw [mergeAll_concat] at merged
    have last : IsKept top := kept top (by simp)
    rcases last.cases with ⟨overlay, rfl, _⟩ | ⟨topTag, topContent, rfl⟩
    · -- A mapping on top gives a mapping, whatever is below.
      by_cases under : ∃ entries, mergeAll below = .map entries
      · obtain ⟨entries, under⟩ := under
        rw [under, Value.merge] at merged
        cases merged
      · rw [Value.merge_map_of_bare fun entries same => under ⟨entries, same⟩] at merged
        cases merged
    · rw [Value.merge_firm _ ⟨by simp, by simp⟩] at merged
      rw [← merged]
      simp

/-- What a field of the settings that documents describe together is set to is its standard, or
one of the documents sets it so by itself. -/
theorem setting_origin {values : List Value} (kept : ∀ value ∈ values, IsKept value)
    {settings : Settings} (described : describedBy values = .ok settings) (field : Field) :
    settings.setting field = standard.setting field ∨
      ∃ value ∈ values, ∃ own, ofValue value = .ok own ∧
        own.setting field = settings.setting field := by
  unfold describedBy at described
  cases merged_of_kept kept with
  | nothing _ _ null =>
      rw [null] at described
      cases described
      exact .inl rfl
  | last alone _ tagged =>
      obtain ⟨tag, content, shown⟩ := tagged
      obtain ⟨notNull, own, read⟩ := alone
      rw [notNull, read] at described
      cases described
      rw [shown] at read
      exact .inr ⟨_, mem_of_mergeAll_tagged kept shown, settings, read, rfl⟩
  | mapping entries merged layered layersDescribed =>
      have read : ofValue (.map entries) = .ok settings := by
        rw [merged] at described
        cases together : ofValue (.map entries) with
        | error fault =>
            rw [together] at described
            cases described
        | ok found =>
            rw [together] at described
            cases described
            rfl
      have describes := Describes.of_read read
      obtain ⟨found, again, gives, others⟩ := describes.read
      obtain rfl : settings = found := Except.ok.inj (read.symm.trans again)
      by_cases names : Names entries field
      · obtain ⟨key, inside, named⟩ := names
        obtain ⟨⟨_, value⟩, member, rfl⟩ := List.mem_map.mp inside
        obtain ⟨given, set⟩ := describes.usable _ member field named
        obtain ⟨layer, layerMember, held⟩ :=
          layered.origin _ value (by simp [isFieldKey, named]) member
        obtain ⟨own, ownRead, ownGives, _⟩ := (layersDescribed layer layerMember).read
        refine .inr ⟨.map layer, mem_of_mem_layers layerMember, own, ownRead, ?_⟩
        rw [ownGives field given ⟨_, value, held, named, set⟩,
          gives field given ⟨_, value, member, named, set⟩]
      · exact .inl (others field names)

/-! ## Loading -/

/-- Settings are loaded exactly if everything can be read and the settings that the kept documents
describe together name a metadata server and leave both kinds of request some time.  The time in
which to connect is not looked at: it is not zero, unless one of the documents makes it zero. -/
theorem loaded_serviceable (directory : Directory) (settings : Settings) :
    ((load directory).1 = .ok settings ↔
      directory.IsReadable ∧ describedBy directory.accepted = .ok settings ∧
        settings.IsServiceable) ∧
    ((load directory).1 = .ok settings →
      0 < settings.connectTimeoutSecs ∨
        ∃ document ∈ directory.accepted, ∃ own, ofValue document = .ok own ∧
          own.connectTimeoutSecs = 0) := by
  refine ⟨load_eq_ok_iff, ?_⟩
  intro loaded
  obtain ⟨_, described, _⟩ := load_eq_ok_iff.mp loaded
  by_cases zero : settings.connectTimeoutSecs = 0
  · right
    rcases setting_origin (fun _ => Directory.isKept_of_mem) described .connectTimeoutSecs with
      untouched | ⟨document, member, own, read, same⟩
    · rw [setting, zero] at untouched
      cases untouched
    · refine ⟨document, member, own, read, ?_⟩
      rw [setting, setting, zero] at same
      exact UInt64.toNat_inj.mp (Setting.number.inj same)
  · exact .inl (UInt64.pos_iff_ne_zero.mpr zero)

/-- A main file that leaves no time in which to connect is loaded, although one that leaves no time
for requests is not. -/
theorem zero_connect_loaded :
    load ⟨"c", some (.file (Utf8.encode "connect_timeout_secs: 0")), .absent⟩ =
        (.ok { standard with connectTimeoutSecs := 0 }, []) ∧
      (load ⟨"c", some (.file (Utf8.encode "request_timeout_secs: 0")), .absent⟩).1 =
        .error (.config "timeouts must be greater than zero") := by
  constructor
  · decide +kernel
  · decide +kernel

end Settings
end InstanceScripts
