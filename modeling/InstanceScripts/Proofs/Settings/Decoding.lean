import InstanceScripts.Proofs.Yaml.Merge
import InstanceScripts.Settings.Decoding

/-!
# Which mappings describe settings

A mapping describes settings if its keys are texts, no field is named twice, and every field
that is named has a value that it can be set to.  The settings are then the standard ones but
for these fields.
-/

namespace InstanceScripts
namespace Settings

open Yaml (Fault Value)
open Yaml.Value (Entries keys keys_cons)

/-! ## Settings field by field -/

/-- What a field is set to. -/
def setting (settings : Settings) : Field → Setting
  | .metadataUrl => .text settings.metadataUrl
  | .retryAttempts => .number settings.retryAttempts.toNat
  | .retryDelaySecs => .number settings.retryDelaySecs.toNat
  | .connectTimeoutSecs => .number settings.connectTimeoutSecs.toNat
  | .requestTimeoutSecs => .number settings.requestTimeoutSecs.toNat
  | .metadataTimeoutSecs => .number settings.metadataTimeoutSecs.toNat

/-- A field can hold a text, or a number of its bits. -/
def Field.Fits (field : Field) : Setting → Prop
  | .text _ => field.bits? = none
  | .number number => ∃ bits, field.bits? = some bits ∧ number < Nat.pow 2 bits

@[simp] theorem Field.ofName?_name (field : Field) : Field.ofName? field.name = some field := by
  cases field <;> decide

/-- What a field is set to is what it then holds; the other fields are left alone. -/
theorem setting_assign (settings : Settings) {field : Field} {given : Setting}
    (fits : field.Fits given) (other : Field) :
    (settings.assign field given).setting other =
      if other = field then given else settings.setting other := by
  cases given with
  | text text =>
      cases field <;> simp only [Field.Fits, Field.bits?, reduceCtorEq] at fits
      cases other <;> rfl
  | number number =>
      obtain ⟨bits, width, small⟩ := fits
      cases field with
      | metadataUrl => cases width
      | retryAttempts =>
          cases width
          have held := UInt32.toNat_ofNat_of_lt' small
          cases other <;> simp only [assign, setting, held, reduceCtorEq, if_true, if_false]
      | _ =>
          cases width
          have held := UInt64.toNat_ofNat_of_lt' small
          cases other <;> simp only [assign, setting, held, reduceCtorEq, if_true, if_false]

/-- Assignments to other fields leave a field alone. -/
theorem setting_foldl_assign_of_notMem (settings : Settings) {field : Field}
    {assignments : List (Field × Setting)} (fits : ∀ pair ∈ assignments, pair.1.Fits pair.2)
    (missing : field ∉ assignments.map Prod.fst) :
    (assignments.foldl (fun settings (field, given) => settings.assign field given)
      settings).setting field = settings.setting field := by
  induction assignments generalizing settings with
  | nil => rfl
  | cons pair assignments inductionHypothesis =>
      obtain ⟨first, others⟩ := List.forall_mem_cons.mp fits
      obtain ⟨different, later⟩ := List.ne_and_not_mem_of_not_mem_cons missing
      rw [List.foldl_cons, inductionHypothesis _ others later, setting_assign _ first,
        if_neg different]

/-- A field that nothing is assigned to keeps its standard. -/
theorem setting_ofAssignments_of_notMem {field : Field} {assignments : List (Field × Setting)}
    (fits : ∀ pair ∈ assignments, pair.1.Fits pair.2)
    (missing : field ∉ assignments.map Prod.fst) :
    (ofAssignments assignments).setting field = standard.setting field :=
  setting_foldl_assign_of_notMem standard fits missing

/-- A field that something is assigned to once holds it. -/
theorem setting_ofAssignments_of_mem {field : Field} {given : Setting}
    {assignments : List (Field × Setting)} (fits : ∀ pair ∈ assignments, pair.1.Fits pair.2)
    (distinct : (assignments.map Prod.fst).Nodup) (member : (field, given) ∈ assignments) :
    (ofAssignments assignments).setting field = given := by
  obtain ⟨front, back, rfl⟩ := List.append_of_mem member
  have later : field ∉ back.map Prod.fst := by
    rw [List.map_append, List.map_cons] at distinct
    exact (List.nodup_cons.mp (List.nodup_append'.mp distinct).2.1).1
  have fitting : ∀ pair ∈ back, pair.1.Fits pair.2 := by
    intro pair inside
    exact fits pair (by simp [inside])
  unfold ofAssignments
  rw [List.foldl_append, List.foldl_cons, setting_foldl_assign_of_notMem _ fitting later,
    setting_assign _ (fits _ member), if_pos rfl]

/-! ## Entries of a mapping -/

/-- The field that a key names. -/
def Field.ofKey? (key : Value) : Option Field :=
  match key.untag with
  | .str name => Field.ofName? name
  | _ => none

theorem Field.isText_of_ofKey? {key : Value} {field : Field}
    (named : Field.ofKey? key = some field) : key.IsText := by
  unfold Field.ofKey? at named
  split at named
  · next name found => exact ⟨name, found⟩
  · cases named

/-- A value that a field can be set to, if its key names one. -/
def IsUsable (entry : Value × Value) : Prop :=
  ∀ field, Field.ofKey? entry.1 = some field → ∃ given, settingOfValue field entry.2 = .ok given

/-- Entries that describe settings. -/
structure Describes (entries : Entries) : Prop where
  texts : ∀ key ∈ keys entries, key.IsText
  usable : ∀ entry ∈ entries, IsUsable entry
  distinct : ((keys entries).filterMap Field.ofKey?).Nodup

/-- What an entry assigns to which field, if it names one. -/
def assignment? (entry : Value × Value) : Option (Field × Setting) :=
  (Field.ofKey? entry.1).bind fun field =>
    (settingOfValue field entry.2).toOption.map fun given => (field, given)

/-- Take the fields of entries whose scalars have been decided. -/
abbrev takeEntries (taken : List (Field × Setting)) (entries : Entries) :
    Except Fault (List (Field × Setting)) :=
  assignmentsOf (valueText "field identifier") (fun field _ => settingOfValue field) taken entries

theorem isAssigned_iff {taken : List (Field × Setting)} {field : Field} :
    isAssigned taken field = true ↔ field ∈ taken.map Prod.fst := by
  simp [isAssigned]

theorem valueText_ok_iff {expected : String} {key : Value} {name : String} :
    valueText expected key = .ok name ↔ key.untag = .str name := by
  unfold valueText
  split
  · next found => simp [found]
  · next other unlike =>
      constructor
      · intro same
        cases same
      · intro found
        exact absurd found (unlike name)

/-- A field that holds a text is set by texts, and one that holds a number by the numbers that
it has bits for. -/
theorem settingOfValue_ok {field : Field} {value : Value} {given : Setting}
    (read : settingOfValue field value = .ok given) :
    (∃ text, value.untag = .str text ∧ field.bits? = none ∧ given = .text text) ∨
      ∃ bits number, value.untag = .int number ∧ field.bits? = some bits ∧
        number.toNat < Nat.pow 2 bits ∧ given = .number number.toNat := by
  unfold settingOfValue at read
  cases width : field.bits? with
  | none =>
      rw [width] at read
      cases spelled : valueText field.expected value with
      | error fault =>
          rw [spelled] at read
          cases read
      | ok text =>
          rw [spelled] at read
          cases read
          exact .inl ⟨text, valueText_ok_iff.mp spelled, rfl, rfl⟩
  | some bits =>
      rw [width] at read
      dsimp only at read
      split at read
      · next number found =>
          unfold boundedNumber at read
          split at read
          · next bounded =>
              cases read
              have small := (Int.toNat_lt bounded.1).mpr bounded.2
              exact .inr ⟨bits, number, found, rfl, small, rfl⟩
          · cases read
      · cases read

theorem fits_of_settingOfValue {field : Field} {value : Value} {given : Setting}
    (read : settingOfValue field value = .ok given) : field.Fits given := by
  rcases settingOfValue_ok read with ⟨_, _, width, rfl⟩ | ⟨bits, _, _, width, small, rfl⟩
  · exact width
  · exact ⟨bits, width, small⟩

/-- What a field can be set to is neither null nor a mapping. -/
theorem isFirm_of_settingOfValue {field : Field} {value : Value} {given : Setting}
    (read : settingOfValue field value = .ok given) : value.IsFirm := by
  rcases settingOfValue_ok read with ⟨_, found, _⟩ | ⟨_, _, found, _⟩
  · constructor
    · rintro rfl
      cases found
    · rintro entries rfl
      cases found
  · constructor
    · rintro rfl
      cases found
    · rintro entries rfl
      cases found

/-! ## Reading mappings -/

/-- An entry whose key names no field is passed over, and any other one is taken unless its field
has been taken before. -/
theorem assignmentsOf_cons {κ ν : Type} {keyName : κ → Except Fault String}
    {setting : Field → κ → ν → Except Fault Setting} (taken : List (Field × Setting)) {key : κ}
    {name : String} (spelled : keyName key = .ok name) (value : ν) (entries : List (κ × ν)) :
    assignmentsOf keyName setting taken ((key, value) :: entries) =
      match Field.ofName? name with
      | none => assignmentsOf keyName setting taken entries
      | some field =>
          if field ∈ taken.map Prod.fst then .error (.unplaced (.repeatedField field.name))
          else (setting field key value).bind fun given =>
            assignmentsOf keyName setting (taken ++ [(field, given)]) entries := by
  conv_lhs => unfold assignmentsOf
  rw [spelled]
  dsimp only
  cases Field.ofName? name with
  | none => rfl
  | some field =>
      simp only [isAssigned_iff]
      split
      · rfl
      · cases setting field key value with
        | error fault => rfl
        | ok given => rfl

theorem isText_of_takeEntries {taken result : List (Field × Setting)} {key value : Value}
    {entries : Entries} (read : takeEntries taken ((key, value) :: entries) = .ok result) :
    key.IsText := by
  unfold takeEntries assignmentsOf at read
  split at read
  · cases read
  · next name spelled => exact ⟨name, valueText_ok_iff.mp spelled⟩

theorem Field.ofKey?_of_untag {key : Value} {name : String} (text : key.untag = .str name) :
    Field.ofKey? key = Field.ofName? name := by
  rw [Field.ofKey?, text]

theorem takeEntries_cons (taken : List (Field × Setting)) {key : Value} (text : key.IsText)
    (value : Value) (entries : Entries) :
    takeEntries taken ((key, value) :: entries) =
      match Field.ofKey? key with
      | none => takeEntries taken entries
      | some field =>
          if field ∈ taken.map Prod.fst then .error (.unplaced (.repeatedField field.name))
          else (settingOfValue field value).bind fun given =>
            takeEntries (taken ++ [(field, given)]) entries := by
  obtain ⟨name, text⟩ := text
  rw [Field.ofKey?_of_untag text]
  exact assignmentsOf_cons taken (valueText_ok_iff.mpr text) value entries

/-- Entries that can be read have texts as keys and usable values. -/
theorem takeEntries_ok {taken result : List (Field × Setting)} {entries : Entries}
    (read : takeEntries taken entries = .ok result) :
    (∀ key ∈ keys entries, key.IsText) ∧ ∀ entry ∈ entries, IsUsable entry := by
  induction entries generalizing taken with
  | nil => simp
  | cons entry entries inductionHypothesis =>
      obtain ⟨key, value⟩ := entry
      have text := isText_of_takeEntries read
      rw [takeEntries_cons taken text] at read
      rw [keys_cons, List.forall_mem_cons, List.forall_mem_cons]
      cases named : Field.ofKey? key with
      | none =>
          rw [named] at read
          obtain ⟨texts, usable⟩ := inductionHypothesis read
          refine ⟨⟨text, texts⟩, ?_, usable⟩
          intro field same
          cases named.symm.trans same
      | some field =>
          rw [named] at read
          dsimp only at read
          split at read
          · cases read
          · cases found : settingOfValue field value with
            | error fault =>
                rw [found] at read
                cases read
            | ok given =>
                rw [found] at read
                obtain ⟨texts, usable⟩ := inductionHypothesis read
                refine ⟨⟨text, texts⟩, ?_, usable⟩
                intro other same
                cases named.symm.trans same
                exact ⟨given, found⟩

/-- Entries with texts as keys and usable values are read in full, or a field is named that has
been named before. -/
theorem takeEntries_cases {taken : List (Field × Setting)} {entries : Entries}
    (texts : ∀ key ∈ keys entries, key.IsText)
    (usable : ∀ entry ∈ entries, IsUsable entry)
    (distinct : (taken.map Prod.fst).Nodup) :
    ((taken.map Prod.fst ++ (keys entries).filterMap Field.ofKey?).Nodup ∧
        takeEntries taken entries = .ok (taken ++ entries.filterMap assignment?)) ∨
      (¬(taken.map Prod.fst ++ (keys entries).filterMap Field.ofKey?).Nodup ∧
        ∃ field : Field, takeEntries taken entries =
          .error (.unplaced (.repeatedField field.name))) := by
  induction entries generalizing taken with
  | nil => simpa [takeEntries, assignmentsOf] using distinct
  | cons entry entries inductionHypothesis =>
      obtain ⟨key, value⟩ := entry
      obtain ⟨text, otherTexts⟩ := List.forall_mem_cons.mp texts
      obtain ⟨settable, otherUsable⟩ := List.forall_mem_cons.mp usable
      rw [takeEntries_cons taken text, keys_cons]
      cases named : Field.ofKey? key with
      | none =>
          have unassigned : assignment? (key, value) = none := by
            simp [assignment?, named]
          rw [List.filterMap_cons_none named, List.filterMap_cons_none unassigned]
          exact inductionHypothesis otherTexts otherUsable distinct
      | some field =>
          obtain ⟨given, (read : settingOfValue field value = .ok given)⟩ := settable field named
          have assigned : assignment? (key, value) = some (field, given) := by
            simp [assignment?, named, read, Except.toOption]
          rw [List.filterMap_cons_some named, List.filterMap_cons_some assigned]
          dsimp only
          rw [read]
          by_cases before : field ∈ taken.map Prod.fst
          · rw [if_pos before]
            refine .inr ⟨?_, field, rfl⟩
            intro nodup
            exact (List.nodup_append'.mp nodup).2.2 before List.mem_cons_self
          · have longer : ((taken ++ [(field, given)]).map Prod.fst).Nodup := by
              rw [List.map_append, List.nodup_append']
              refine ⟨distinct, List.nodup_singleton field, ?_⟩
              intro other inside last
              obtain rfl := List.mem_singleton.mp last
              exact before inside
            have rest := inductionHypothesis otherTexts otherUsable longer
            rw [List.map_append, List.append_assoc, List.append_assoc] at rest
            rw [if_neg before]
            exact rest

/-- A mapping with texts as keys and usable values is read as settings, unless it names a field
twice. -/
theorem ofValue_map_cases {entries : Entries} (texts : ∀ key ∈ keys entries, key.IsText)
    (usable : ∀ entry ∈ entries, IsUsable entry) :
    (((keys entries).filterMap Field.ofKey?).Nodup ∧
        ofValue (.map entries) = .ok (ofAssignments (entries.filterMap assignment?))) ∨
      (¬((keys entries).filterMap Field.ofKey?).Nodup ∧
        ∃ field : Field, ofValue (.map entries) =
          .error (.unplaced (.repeatedField field.name))) := by
  have read : ofValue (.map entries) = (takeEntries [] entries).map ofAssignments := rfl
  have ends := @takeEntries_cases [] entries texts usable List.nodup_nil
  rw [List.map_nil, List.nil_append, List.nil_append] at ends
  rw [read]
  rcases ends with ⟨distinct, taken⟩ | ⟨repeated, field, failed⟩
  · exact .inl ⟨distinct, by rw [taken]; rfl⟩
  · exact .inr ⟨repeated, field, by rw [failed]; rfl⟩

/-! ## The settings that a mapping describes -/

/-- A key among those of some entries names a field. -/
def Names (entries : Entries) (field : Field) : Prop :=
  ∃ key ∈ keys entries, Field.ofKey? key = some field

/-- Entries set a field to something. -/
def Gives (entries : Entries) (field : Field) (given : Setting) : Prop :=
  ∃ key value, (key, value) ∈ entries ∧ Field.ofKey? key = some field ∧
    settingOfValue field value = .ok given

theorem mem_filterMap_assignment? {entries : Entries} {field : Field} {given : Setting} :
    (field, given) ∈ entries.filterMap assignment? ↔ Gives entries field given := by
  rw [List.mem_filterMap]
  constructor
  · rintro ⟨⟨key, value⟩, member, assigned⟩
    obtain ⟨other, named, rest⟩ := Option.bind_eq_some_iff.mp assigned
    obtain ⟨found, read, same⟩ := Option.map_eq_some_iff.mp rest
    cases same
    exact ⟨key, value, member, named, toOption_eq_some.mp read⟩
  · rintro ⟨key, value, member, named, read⟩
    exact ⟨(key, value), member, by simp [assignment?, named, read, Except.toOption]⟩

/-- Usable entries assign to the fields that they name, in the same order. -/
theorem map_fst_filterMap_assignment? {entries : Entries}
    (usable : ∀ entry ∈ entries, IsUsable entry) :
    (entries.filterMap assignment?).map Prod.fst = (keys entries).filterMap Field.ofKey? := by
  rw [List.map_filterMap, keys, List.filterMap_map]
  apply List.filterMap_congr
  intro entry member
  cases named : Field.ofKey? entry.1 with
  | none => simp [assignment?, named]
  | some field =>
      obtain ⟨given, read⟩ := usable entry member field named
      simp [assignment?, named, read, Except.toOption]

namespace Describes

variable {entries : Entries}

/-- A mapping that describes settings is read as the standard settings with its own fields. -/
theorem read (describes : Describes entries) :
    ∃ settings, ofValue (.map entries) = .ok settings ∧
      (∀ field given, Gives entries field given → settings.setting field = given) ∧
      ∀ field, ¬Names entries field → settings.setting field = standard.setting field := by
  have fields := map_fst_filterMap_assignment? describes.usable
  have fits : ∀ pair ∈ entries.filterMap assignment?, pair.1.Fits pair.2 := by
    rintro ⟨field, given⟩ member
    obtain ⟨key, value, _, _, read⟩ := mem_filterMap_assignment?.mp member
    exact fits_of_settingOfValue read
  refine ⟨ofAssignments (entries.filterMap assignment?), ?_, ?_, ?_⟩
  · rcases ofValue_map_cases describes.texts describes.usable with ⟨_, read⟩ | ⟨repeated, _⟩
    · exact read
    · exact absurd describes.distinct repeated
  · intro field given gives
    apply setting_ofAssignments_of_mem fits
    · rw [fields]
      exact describes.distinct
    · exact mem_filterMap_assignment?.mpr gives
  · intro field unnamed
    apply setting_ofAssignments_of_notMem fits
    rw [fields]
    intro named
    exact unnamed (List.mem_filterMap.mp named)

/-- A mapping that can be read as settings describes them. -/
theorem of_read {settings : Settings} (read : ofValue (.map entries) = .ok settings) :
    Describes entries := by
  have conditions : (∀ key ∈ keys entries, key.IsText) ∧
      ∀ entry ∈ entries, IsUsable entry := by
    change (takeEntries [] entries).map ofAssignments = _ at read
    cases taken : takeEntries [] entries with
    | error fault =>
        rw [taken] at read
        cases read
    | ok assignments => exact takeEntries_ok taken
  obtain ⟨texts, usable⟩ := conditions
  refine ⟨texts, usable, ?_⟩
  rcases ofValue_map_cases texts usable with ⟨distinct, _⟩ | ⟨_, field, failed⟩
  · exact distinct
  · rw [read] at failed
    cases failed

end Describes

end Settings
end InstanceScripts
