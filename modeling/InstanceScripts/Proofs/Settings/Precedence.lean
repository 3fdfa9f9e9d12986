import InstanceScripts.Proofs.Settings.Directory

/-!
# Which document counts

The documents that are kept override each other field by field: of plain documents the last one
that holds a value for a field decides, and a field that none of them holds keeps its standard.
Kept documents make settings together, unless two of them name a field by keys with different
tags.
-/

namespace InstanceScripts
namespace Settings

open Yaml (Value)
open Yaml.Value (Entries keys)

/-! ## The order of files -/

/-- A name that ends in `.cfg` with something in front. -/
def IsDropInName (name : String) : Prop :=
  ∃ stem, stem ≠ "" ∧ name = stem ++ ".cfg"

instance (name : String) : Decidable (IsDropInName name) :=
  decidable_of_iff (isDropInName name = true) isDropInName_iff

theorem filter_isDropInName (entries : List (String × Entry)) :
    (entries.filter fun entry => isDropInName entry.1) =
      entries.filter fun entry => IsDropInName entry.1 := by
  congr 1
  funext entry
  rw [Bool.eq_iff_iff, decide_eq_true_iff]
  exact isDropInName_iff

theorem dropInFiles_perm (entries : List (String × Entry)) :
    (dropInFiles entries).Perm (entries.filter fun entry => IsDropInName entry.1) := by
  rw [← filter_isDropInName]
  exact sortByName_perm _

/-- The main file comes first, and then the drop-in files in the order of the octets of their
names. -/
def Directory.InOrder (directory : Directory) : Prop :=
  ∃ dropIns : List (String × Entry),
    (match directory.dropIns with
      | .directory entries => dropIns.Perm (entries.filter fun entry => IsDropInName entry.1)
      | _ => dropIns = []) ∧
    (dropIns.Pairwise fun first second => Utf8.encode first.1 ≤ Utf8.encode second.1) ∧
    directory.files =
      (directory.main.map fun entry => (mainFile directory.path, entry)).toList ++
        dropIns.map fun (name, entry) => (pathIn (dropInDirectory directory.path) name, entry)

theorem Directory.inOrder (directory : Directory) : directory.InOrder := by
  obtain ⟨path, main, dropIns⟩ := directory
  cases dropIns with
  | absent => exact ⟨[], rfl, .nil, rfl⟩
  | file => exact ⟨[], rfl, .nil, rfl⟩
  | directory entries =>
      exact ⟨dropInFiles entries, dropInFiles_perm entries, (sortByName_sorted _).octets, rfl⟩

/-! ## Plain documents -/

/-- A mapping that has no tag itself and none on its keys. -/
def IsPlain (document : Value) : Prop :=
  ∃ entries, document = .map entries ∧
    ∀ key ∈ keys entries, ∀ tag content, key ≠ .tagged tag content

/-- Whether a value has a tag. -/
def isTagged : Value → Bool
  | .tagged _ _ => true
  | _ => false

/-- Whether a document is plain. -/
def isPlain : Value → Bool
  | .map entries => (keys entries).all fun key => !isTagged key
  | _ => false

theorem isPlain_iff {document : Value} : isPlain document = true ↔ IsPlain document := by
  have untagged_iff {key : Value} :
      isTagged key = false ↔ ∀ tag content, key ≠ .tagged tag content := by
    cases key <;> simp [isTagged]
  cases document with
  | map entries => simp [isPlain, IsPlain, untagged_iff]
  | _ => simp [isPlain, IsPlain]

instance (document : Value) : Decidable (IsPlain document) :=
  decidable_of_iff _ isPlain_iff

/-- A document holds a value for a field. -/
def Holds (document : Value) (field : Field) (value : Value) : Prop :=
  ∃ entries, document = .map entries ∧ (.str field.name, value) ∈ entries

/-- The value that a document holds for a field. -/
def held? (field : Field) : Value → Option Value
  | .map entries => Value.lookup? entries (.str field.name)
  | _ => none

theorem holds_of_held? {document value : Value} {field : Field}
    (held : held? field document = some value) : Holds document field value := by
  cases document with
  | map entries => exact ⟨entries, rfl, Value.mem_of_lookup? ⟨field.name, rfl⟩ held⟩
  | _ => cases held

/-- The last of some documents that holds a field decides what it is set to; if none does, it
keeps its standard. -/
def DecidedByLast (documents : List Value) (settings : Settings) (field : Field) : Prop :=
  (∃ front document back value, documents = front ++ document :: back ∧
      Holds document field value ∧ (∀ later ∈ back, ∀ value, ¬Holds later field value) ∧
      settingOfValue field value = .ok (settings.setting field)) ∨
    ((∀ document ∈ documents, ∀ value, ¬Holds document field value) ∧
      settings.setting field = standard.setting field)

/-- Only its own name names a field, if there are no tags. -/
theorem eq_name_of_ofKey? {key : Value} {field : Field}
    (untagged : ∀ tag content, key ≠ .tagged tag content)
    (named : Field.ofKey? key = some field) : key = .str field.name := by
  obtain ⟨name, found⟩ := Field.isText_of_ofKey? named
  rw [Value.untag_of_untagged untagged] at found
  subst found
  have same : (field.name == name) = true := by
    simpa using List.find?_some (show Field.all.find? (·.name == name) = some field from named)
  rw [eq_of_beq same]

/-- Of the items with some property, one is the last. -/
theorem exists_last {α : Type} {property : α → Prop} {items : List α}
    (found : ∃ item ∈ items, property item) :
    ∃ front item back, items = front ++ item :: back ∧ property item ∧
      ∀ later ∈ back, ¬property later := by
  induction items with
  | nil => simp at found
  | cons first items inductionHypothesis =>
      by_cases further : ∃ item ∈ items, property item
      · obtain ⟨front, item, back, rfl, holds, last⟩ := inductionHypothesis further
        exact ⟨first :: front, item, back, rfl, holds, last⟩
      · obtain ⟨item, member, holds⟩ := found
        rcases List.mem_cons.mp member with rfl | later
        · exact ⟨[], item, items, rfl, holds, fun later inside held =>
            further ⟨later, inside, held⟩⟩
        · exact absurd ⟨item, later, holds⟩ further

/-- Plain documents are all layers. -/
theorem eq_map_layers {documents : List Value}
    (plain : ∀ document ∈ documents, IsPlain document) :
    documents = (layers documents).map Value.map := by
  induction documents using List.reverseRecOn with
  | nil => rfl
  | append_singleton documents document inductionHypothesis =>
      obtain ⟨entries, rfl, _⟩ := plain document (by simp)
      rw [layers_concat, layersOver, List.map_append,
        ← inductionHypothesis fun other member => plain other (by simp [member])]
      rfl

/-- Without tags, a field has one key only. -/
theorem not_clash_of_plain {documents : List Value}
    (plain : ∀ document ∈ documents, IsPlain document) : ¬Clash (layers documents) := by
  have only {key : Value} {field : Field} (named : Field.ofKey? key = some field)
      (held : ∃ layer ∈ layers documents, key ∈ keys layer) : key = .str field.name := by
    obtain ⟨layer, member, inside⟩ := held
    have document : Value.map layer ∈ documents := by
      rw [eq_map_layers plain]
      exact List.mem_map_of_mem member
    obtain ⟨entries, same, untagged⟩ := plain _ document
    cases same
    exact eq_name_of_ofKey? (untagged key inside) named
  rintro ⟨field, key, other, different, named, otherNamed, held, otherHeld⟩
  exact different ((only named held).trans (only otherNamed otherHeld).symm)

/-- Among the entries of a plain document, those that name a field hold a value for it. -/
theorem names_iff_holds {entries : Entries} {field : Field} (plain : IsPlain (.map entries)) :
    Names entries field ↔ ∃ value, Holds (.map entries) field value := by
  obtain ⟨_, ⟨⟩, untagged⟩ := plain
  constructor
  · rintro ⟨key, inside, named⟩
    obtain rfl := eq_name_of_ofKey? (untagged key inside) named
    obtain ⟨⟨_, value⟩, member, rfl⟩ := List.mem_map.mp inside
    exact ⟨value, entries, rfl, member⟩
  · rintro ⟨value, _, ⟨⟩, member⟩
    exact ⟨.str field.name, List.mem_map_of_mem member, Field.ofName?_name field⟩

/-- If settings have in every field what the layers give it last, the last of the plain documents
decides on every field. -/
theorem decidedByLast_of_layers {documents : List Value} {settings : Settings} {field : Field}
    (plain : ∀ document ∈ documents, IsPlain document)
    (described : ∀ layer ∈ layers documents, Describes layer)
    (given : ∀ given, GivenLast (layers documents) field given → settings.setting field = given)
    (others : (∀ layer ∈ layers documents, ¬Names layer field) →
      settings.setting field = standard.setting field) :
    DecidedByLast documents settings field := by
  have shown := eq_map_layers plain
  have holds_iff {layer : Entries} (member : layer ∈ layers documents) :
      Names layer field ↔ ∃ value, Holds (.map layer) field value := by
    apply names_iff_holds
    apply plain
    rw [shown]
    exact List.mem_map_of_mem member
  by_cases named : ∃ layer ∈ layers documents, Names layer field
  · obtain ⟨front, layer, back, split, names, last⟩ := exists_last named
    have inside : layer ∈ layers documents := by simp [split]
    obtain ⟨value, _, ⟨⟩, member⟩ := (holds_iff inside).mp names
    obtain ⟨setting, set⟩ :=
      (described layer inside).usable _ member field (Field.ofName?_name field)
    have decided := given setting ⟨front, layer, back, split,
      ⟨_, value, member, Field.ofName?_name field, set⟩, last⟩
    refine .inl ⟨front.map .map, .map layer, back.map .map, value, ?_, ⟨layer, rfl, member⟩, ?_,
      by rw [decided, set]⟩
    · rw [shown, split, List.map_append, List.map_cons]
    · intro later above other held
      obtain ⟨upper, upperMember, rfl⟩ := List.mem_map.mp above
      exact last upper upperMember ((holds_iff (by simp [split, upperMember])).mpr ⟨other, held⟩)
  · refine .inr ⟨?_, others fun layer member names => named ⟨layer, member, names⟩⟩
    intro document member value held
    rw [shown] at member
    obtain ⟨layer, inside, rfl⟩ := List.mem_map.mp member
    exact named ⟨layer, inside, (holds_iff inside).mpr ⟨value, held⟩⟩

/-- Plain documents that are kept describe settings in which the last document decides on every
field. -/
theorem described_of_plain {documents : List Value}
    (kept : ∀ document ∈ documents, IsKept document)
    (plain : ∀ document ∈ documents, IsPlain document) :
    ∃ settings, describedBy documents = .ok settings ∧
      ∀ field, DecidedByLast documents settings field := by
  cases merged_of_kept kept with
  | nothing none _ null =>
      subst none
      exact ⟨standard, rfl, fun field => .inr ⟨by simp, rfl⟩⟩
  | last alone bare tagged =>
      have shown := eq_map_layers plain
      rw [bare] at shown
      subst shown
      obtain ⟨tag, content, same⟩ := tagged
      cases same
  | mapping entries merged layered described =>
      obtain ⟨settings, read, given, others⟩ :=
        layered.read described (not_clash_of_plain plain)
      refine ⟨settings, ?_, fun field =>
        decidedByLast_of_layers plain described (given field) (others field)⟩
      rw [describedBy, merged, read]
      rfl

/-! ## Loading -/

/-- Settings are usable, or it is said what is wrong with them. -/
theorem validate_cases (settings : Settings) :
    settings.validate = .ok () ∨ ∃ message, settings.validate = .error (.config message) := by
  unfold validate
  split
  · exact .inr ⟨_, rfl⟩
  · split
    · exact .inr ⟨_, rfl⟩
    · exact .inl rfl

/-- What loading gives for documents that describe some settings together: the settings, or
what is wrong with them. -/
def LoadedFrom (directory : Directory) (settings : Settings) : Prop :=
  (settings.validate = .ok () ∧ (load directory).1 = .ok settings) ∨
    ∃ message, settings.validate = .error (.config message) ∧
      (load directory).1 = .error (.config message)

theorem loadedFrom_of_described {directory : Directory} {settings : Settings}
    (readable : directory.IsReadable)
    (described : describedBy directory.accepted = .ok settings) :
    LoadedFrom directory settings := by
  have loaded : (load directory).1 = settings.validate.map fun _ => settings := by
    rw [load_of_isReadable readable, ofDocuments_eq, described]
  rw [LoadedFrom, loaded]
  rcases settings.validate_cases with usable | ⟨message, wrong⟩
  · exact .inl ⟨usable, by rw [usable]; rfl⟩
  · exact .inr ⟨message, wrong, by rw [wrong]; rfl⟩

/-- If everything can be read and the documents that are kept are plain, the last document that
holds a field decides on it, in the order in which the files count.  The settings are loaded if
they are usable, and otherwise what is wrong with them is reported. -/
theorem last_document_decides {directory : Directory} (readable : directory.IsReadable)
    (plain : ∀ document ∈ directory.accepted, IsPlain document) :
    directory.InOrder ∧
      ∃ settings, (∀ field, DecidedByLast directory.accepted settings field) ∧
        LoadedFrom directory settings := by
  refine ⟨directory.inOrder, ?_⟩
  obtain ⟨settings, described, decided⟩ :=
    described_of_plain (fun _ => Directory.isKept_of_mem) plain
  exact ⟨settings, decided, loadedFrom_of_described readable described⟩

/-- A main file with two drop-in files, of which the later one is listed first. -/
def layered : Directory :=
  ⟨"c", some (.file (Utf8.encode "retry_attempts: 2\nnote: \x7ba: 1\x7d")),
    .directory [("b.cfg", .file (Utf8.encode "retry_attempts: 4")),
      ("a.cfg", .file (Utf8.encode "retry_attempts: 6\nretry_delay_secs: 0"))]⟩

theorem layered_decided :
    (layered.IsReadable ∧ ∀ document ∈ layered.accepted, IsPlain document) ∧
      layered.InOrder ∧
      ∃ settings, (∀ field, DecidedByLast layered.accepted settings field) ∧
        (load layered).1 = .ok settings := by
  have readable : layered.IsReadable := ⟨by simp [layered], by decide +kernel⟩
  have plain : ∀ document ∈ layered.accepted, IsPlain document := by decide +kernel
  have loaded : (load layered).1 =
      .ok { standard with retryAttempts := 4, retryDelaySecs := 0 } := by decide +kernel
  obtain ⟨inOrder, settings, decided, ⟨_, fine⟩ | ⟨message, _, failed⟩⟩ :=
    last_document_decides readable plain
  · exact ⟨⟨readable, plain⟩, inOrder, settings, decided, fine⟩
  · rw [failed] at loaded
    cases loaded

/-- A file with settings of its own. -/
def patient : Entry :=
  .file (Utf8.encode "retry_attempts: 7")

/-- A name that is nothing but `.cfg` makes no drop-in file, whatever the file says. -/
theorem bare_extension_ignored :
    (∃ document value, patient.document? = some document ∧ IsPlain document ∧
        Holds document .retryAttempts value ∧
        settingOfValue .retryAttempts value = .ok (.number 7)) ∧
      (load ⟨"c", none, .directory [(".cfg", patient)]⟩).1 = .ok standard := by
  constructor
  · have checked : ((patient.document?.filter isPlain).bind (held? .retryAttempts)).map
        (settingOfValue .retryAttempts) = some (.ok (.number 7)) := by decide +kernel
    obtain ⟨value, held, set⟩ := Option.map_eq_some_iff.mp checked
    obtain ⟨document, found, inside⟩ := Option.bind_eq_some_iff.mp held
    obtain ⟨found, plain⟩ := Option.filter_eq_some_iff.mp found
    exact ⟨document, value, found, isPlain_iff.mp plain, holds_of_held? inside, set⟩
  · decide +kernel

/-! ## Where loading fails -/

/-- Every document that is kept describes settings by itself.  If everything can be read, they
describe settings together, unless two of them name a field by keys with different tags; then
loading fails because that field is named twice. -/
theorem loads_unless_clash (directory : Directory) :
    (∀ document ∈ directory.accepted, IsKept document) ∧
      (directory.IsReadable →
        (documents directory).1 = .ok directory.accepted ∧
        (¬Clash (layers directory.accepted) →
          ∃ settings, describedBy directory.accepted = .ok settings ∧
            LoadedFrom directory settings) ∧
        (Clash (layers directory.accepted) →
          ∃ field : Field, (load directory).1 =
            .error (.yaml (.unplaced (.repeatedField field.name))))) ∧
      (¬directory.IsReadable → ∃ fault, (load directory).1 = .error (.io fault)) := by
  have kept : ∀ document ∈ directory.accepted, IsKept document :=
    fun _ => Directory.isKept_of_mem
  refine ⟨kept, ?_, ?_⟩
  · intro readable
    refine ⟨documents_of_isReadable readable, ?_, ?_⟩
    · intro clear
      rcases described_cases kept with ⟨_, settings, described⟩ | ⟨clash, _⟩
      · exact ⟨settings, described, loadedFrom_of_described readable described⟩
      · exact absurd clash clear
    · intro clash
      rcases described_cases kept with ⟨clear, _⟩ | ⟨_, field, failed⟩
      · exact absurd clash clear
      · exact ⟨field, by rw [load_of_isReadable readable, ofDocuments_eq, failed]⟩
  · intro unreadable
    rcases load_cases directory with ⟨readable, _⟩ | ⟨_, failed⟩
    · exact absurd readable unreadable
    · exact failed

/-- A main file that sets a field by a key with a tag, and a drop-in file that sets it without
one. -/
def clashing : Directory :=
  ⟨"c", some (.file (Utf8.encode "!k retry_attempts: 5")),
    .directory [("a.cfg", .file (Utf8.encode "retry_attempts: 4"))]⟩

/-- The drop-in file overrides nothing: nothing is loaded, although either file alone is. -/
theorem tagged_key_clashes :
    (clashing.IsReadable ∧ clashing.accepted.length = 2 ∧
        (load { clashing with dropIns := .absent }).1 = .ok { standard with retryAttempts := 5 } ∧
        (load { clashing with main := none }).1 = .ok { standard with retryAttempts := 4 }) ∧
      (load clashing).1 = .error (.yaml (.unplaced (.repeatedField "retry_attempts"))) := by
  have readable : clashing.IsReadable := ⟨by simp [clashing], by decide +kernel⟩
  have documents : clashing.accepted.length = 2 := by decide +kernel
  refine ⟨⟨readable, documents, ?_, ?_⟩, ?_⟩
  · decide +kernel
  · decide +kernel
  · decide +kernel

end Settings
end InstanceScripts
