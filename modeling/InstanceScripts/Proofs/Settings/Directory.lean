import InstanceScripts.Proofs.Settings.Layers
import InstanceScripts.Proofs.Text.Order
import InstanceScripts.Proofs.Yaml.Absorption
import InstanceScripts.Proofs.Yaml.Reading

/-!
# Which files are considered

The files that are considered are the main file and then the drop-in files in the order of their
names.  If all of them are text, those that describe settings are kept and the others passed
over; if one of them is not, nothing is loaded.
-/

namespace InstanceScripts
namespace Settings

/-! ## The order of drop-in files -/

/-- A drop-in file has a name that ends in `.cfg` with something in front. -/
theorem isDropInName_iff {name : String} :
    isDropInName name = true ↔ ∃ stem, stem ≠ "" ∧ name = stem ++ ".cfg" := by
  unfold isDropInName
  simp only [Bool.and_eq_true, beq_iff_eq, decide_eq_true_eq]
  constructor
  · rintro ⟨ending, longer⟩
    have whole := List.take_append_drop 4 name.toList.reverse
    rw [ending] at whole
    refine ⟨String.ofList (name.toList.reverse.drop 4).reverse, ?_, ?_⟩
    · intro empty
      have length := congrArg (fun text => text.toList.length) empty
      simp only [String.toList_ofList, List.length_reverse, List.length_drop, String.toList_empty,
        List.length_nil] at length
      rw [List.length_reverse] at longer
      omega
    · rw [← String.toList_inj, String.toList_append, String.toList_ofList]
      simpa using congrArg List.reverse whole.symm
  · rintro ⟨stem, nonempty, rfl⟩
    have longer : 0 < stem.toList.length := by
      rw [List.length_pos_iff, Ne, String.toList_eq_nil_iff]
      exact nonempty
    rw [String.toList_append, List.reverse_append]
    exact ⟨rfl, by simpa using longer⟩

theorem insertByName_perm (entry : String × Entry) (entries : List (String × Entry)) :
    (insertByName entry entries).Perm (entry :: entries) := by
  induction entries with
  | nil => exact .refl _
  | cons other rest inductionHypothesis =>
      unfold insertByName
      split
      · exact .refl _
      · exact (inductionHypothesis.cons other).trans (.swap entry other rest)

/-- Sorted by name. -/
def SortedByName (entries : List (String × Entry)) : Prop :=
  entries.Pairwise fun first second => first.1 ≤ second.1

theorem SortedByName.insertByName {entries : List (String × Entry)} (sorted : SortedByName entries)
    (entry : String × Entry) : SortedByName (insertByName entry entries) := by
  induction entries with
  | nil => exact List.pairwise_singleton _ entry
  | cons other rest inductionHypothesis =>
      obtain ⟨least, restSorted⟩ := List.pairwise_cons.mp sorted
      unfold Settings.insertByName
      split
      · next first =>
          refine List.pairwise_cons.mpr ⟨?_, sorted⟩
          intro later member
          rcases List.mem_cons.mp member with rfl | member
          · exact first
          · exact String.le_trans first (least later member)
      · next behind =>
          refine List.pairwise_cons.mpr ⟨?_, inductionHypothesis restSorted⟩
          intro later member
          rcases List.mem_cons.mp ((insertByName_perm entry rest).mem_iff.mp member) with
            rfl | member
          · exact (String.le_total other.1 later.1).resolve_right behind
          · exact least later member

/-- Sort entries by name. -/
abbrev sortByName (entries : List (String × Entry)) : List (String × Entry) :=
  entries.foldr insertByName []

theorem sortByName_perm (entries : List (String × Entry)) : (sortByName entries).Perm entries := by
  induction entries with
  | nil => exact .refl []
  | cons entry rest inductionHypothesis =>
      exact (insertByName_perm entry (sortByName rest)).trans (inductionHypothesis.cons entry)

theorem sortByName_sorted (entries : List (String × Entry)) :
    SortedByName (sortByName entries) := by
  induction entries with
  | nil => exact .nil
  | cons entry rest inductionHypothesis => exact inductionHypothesis.insertByName entry

/-- The order of names is that of their octets. -/
theorem SortedByName.octets {entries : List (String × Entry)} (sorted : SortedByName entries) :
    entries.Pairwise fun first second => Utf8.encode first.1 ≤ Utf8.encode second.1 :=
  sorted.imp Utf8.encode_le_encode

/-! ## What is read -/

/-- The drop-in files that are considered, in the order in which they count. -/
def DropIns.files (path : String) : DropIns → List (String × Entry)
  | .directory entries => (dropInFiles entries).map fun (name, entry) => (pathIn path name, entry)
  | .absent => []
  | .file => []

theorem DropIns.files_directory (path : String) (entries : List (String × Entry)) :
    (DropIns.directory entries).files path =
      (dropInFiles entries).map fun file => (pathIn path file.1, file.2) := rfl

/-- The files of a directory that are considered, in the order in which they count. -/
def Directory.files (directory : Directory) : List (String × Entry) :=
  (directory.main.map fun entry => (mainFile directory.path, entry)).toList ++
    directory.dropIns.files (dropInDirectory directory.path)

/-- A file that is text. -/
def Entry.IsText (entry : Entry) : Prop :=
  ∃ content text, entry = .file content ∧ Utf8.decode content = .ok text

theorem Entry.isText_file_iff {content : Octets} :
    (Entry.file content).IsText ↔ (Utf8.decode content).isOk = true := by
  constructor
  · rintro ⟨_, text, ⟨⟩, decoded⟩
    rw [decoded]
    rfl
  · intro fine
    cases decoded : Utf8.decode content with
    | error defect =>
        rw [decoded] at fine
        cases fine
    | ok text => exact ⟨content, text, rfl, decoded⟩

instance (entry : Entry) : Decidable entry.IsText :=
  match entry with
  | .directory => isFalse fun ⟨_, _, same, _⟩ => nomatch same
  | .file _ => decidable_of_iff _ Entry.isText_file_iff.symm

/-- Whether a document is kept: it is not null, and describes settings by itself. -/
def keeps (value : Yaml.Value) : Bool :=
  !value.isNull && (ofValue value).isOk

/-- The document in a file, if it can be read and is kept. -/
def Entry.document? : Entry → Option Yaml.Value
  | .directory => none
  | .file content =>
      (Utf8.decode content).toOption.bind fun text =>
        (Yaml.Document.ofText text).value.toOption.filter keeps

/-- The documents of a directory that are kept. -/
def Directory.accepted (directory : Directory) : List Yaml.Value :=
  directory.files.filterMap fun file => file.2.document?

/-- The drop-in files can be listed, and all files that are considered are text. -/
def Directory.IsReadable (directory : Directory) : Prop :=
  directory.dropIns ≠ .file ∧ ∀ file ∈ directory.files, file.2.IsText

theorem keeps_iff {value : Yaml.Value} : keeps value = true ↔ IsKept value := by
  rw [keeps, Bool.and_eq_true, Bool.not_eq_true', IsKept]
  cases ofValue value with
  | error fault => simp [Except.isOk, Except.toBool]
  | ok settings => simp [Except.isOk, Except.toBool]

theorem Entry.isKept_of_document? {entry : Entry} {value : Yaml.Value}
    (found : entry.document? = some value) : IsKept value := by
  cases entry with
  | directory => cases found
  | file content =>
      obtain ⟨text, _, rest⟩ := Option.bind_eq_some_iff.mp found
      exact keeps_iff.mp (Option.filter_eq_some_iff.mp rest).2

/-- Octets that are no text fail to be read. -/
theorem readFile_of_not_text {content : Octets} (broken : ¬(Entry.file content).IsText)
    (path : String) : readFile path (.file content) = (.error (.io .notText), []) := by
  cases decoded : Utf8.decode content with
  | ok text => exact absurd ⟨content, text, rfl, decoded⟩ broken
  | error defect => simp only [readFile, decoded]

/-- A text gives its document if that is kept, with warnings at most. -/
theorem readFile_of_text {content : Octets} {text : String}
    (decoded : Utf8.decode content = .ok text) (path : String) :
    ∃ lines, (∀ line ∈ lines, ∃ text, line = .warn text) ∧
      readFile path (.file content) = (.ok (Entry.file content).document?, lines) := by
  simp only [readFile, Entry.document?, decoded, Except.toOption, Option.bind_some]
  cases (Yaml.Document.ofText text).value with
  | error complaint => exact ⟨_, by simp, rfl⟩
  | ok value =>
      dsimp only
      by_cases null : value.isNull = true
      · have passed : keeps value = false := by simp [keeps, null]
        rw [if_pos null, Option.filter_some_neg (by simp [passed])]
        exact ⟨[], by simp, rfl⟩
      · rw [if_neg null]
        cases read : ofValue value with
        | error fault =>
            have passed : keeps value = false := by
              simp [keeps, read, Except.isOk, Except.toBool]
            rw [Option.filter_some_neg (by simp [passed])]
            exact ⟨_, by simp, rfl⟩
        | ok settings =>
            have kept : keeps value = true := by
              simp [keeps, null, read, Except.isOk, Except.toBool]
            rw [Option.filter_some_pos kept]
            exact ⟨[], by simp, rfl⟩

/-- Only texts can be read. -/
theorem readFile_cases (path : String) (entry : Entry) :
    (entry.IsText ∧ ∃ lines, (∀ line ∈ lines, ∃ text, line = .warn text) ∧
        readFile path entry = (.ok entry.document?, lines)) ∨
      (¬entry.IsText ∧ ∃ fault, readFile path entry = (.error (.io fault), [])) := by
  by_cases text : entry.IsText
  · obtain ⟨content, decodedText, rfl, decoded⟩ := text
    exact .inl ⟨⟨content, decodedText, rfl, decoded⟩, readFile_of_text decoded path⟩
  · refine .inr ⟨text, ?_⟩
    cases entry with
    | directory => exact ⟨_, rfl⟩
    | file content => exact ⟨.notText, readFile_of_not_text text path⟩

theorem readFiles_cases (files : List (String × Entry)) :
    ((∀ file ∈ files, file.2.IsText) ∧
        (readFiles files).1 = .ok (files.filterMap fun file => file.2.document?)) ∨
      ((¬∀ file ∈ files, file.2.IsText) ∧ ∃ fault, (readFiles files).1 = .error (.io fault)) := by
  induction files with
  | nil => exact .inl ⟨by simp, rfl⟩
  | cons file files inductionHypothesis =>
      obtain ⟨path, entry⟩ := file
      rw [List.forall_mem_cons]
      rcases readFile_cases path entry with ⟨text, lines, _, read⟩ | ⟨unreadable, fault, read⟩
      · rcases inductionHypothesis with ⟨texts, rest⟩ | ⟨others, fault, rest⟩
        · refine .inl ⟨⟨text, texts⟩, ?_⟩
          simp only [readFiles, read, rest, Except.map]
          cases found : entry.document? <;> simp [found]
        · refine .inr ⟨fun all => others all.2, fault, ?_⟩
          simp only [readFiles, read, rest, Except.map]
      · refine .inr ⟨fun all => unreadable all.1, fault, ?_⟩
        simp only [readFiles, read]

/-- The end of reading drop-in files: their number is reported unless one has failed. -/
def summarized (read : Except Failure (List Yaml.Value)) :
    Except Failure (List Yaml.Value) × List Log.Line :=
  match read with
  | .error failure => (.error failure, [])
  | .ok values =>
      (.ok values, [.info ("Loaded " ++ toString values.length ++ " drop-in settings files")])

theorem summarized_fst (read : Except Failure (List Yaml.Value)) : (summarized read).1 = read := by
  cases read with
  | error failure => rfl
  | ok values => rfl

theorem readDropIns_directory (path : String) (entries : List (String × Entry)) :
    readDropIns path (.directory entries) =
      ((summarized (readFiles ((DropIns.directory entries).files path)).1).1,
        (readFiles ((DropIns.directory entries).files path)).2 ++
          (summarized (readFiles ((DropIns.directory entries).files path)).1).2) := by
  rw [DropIns.files_directory]
  unfold readDropIns
  dsimp only
  generalize readFiles _ = read
  rcases read with ⟨failure | values, lines⟩
  · simp [summarized]
  · rfl

theorem readDropIns_cases (path : String) (dropIns : DropIns) :
    ((dropIns ≠ .file ∧ ∀ file ∈ dropIns.files path, file.2.IsText) ∧
        (readDropIns path dropIns).1 =
          .ok ((dropIns.files path).filterMap fun file => file.2.document?)) ∨
      (¬(dropIns ≠ .file ∧ ∀ file ∈ dropIns.files path, file.2.IsText) ∧
        ∃ fault, (readDropIns path dropIns).1 = .error (.io fault)) := by
  cases dropIns with
  | absent => exact .inl ⟨⟨by simp, by simp [DropIns.files]⟩, rfl⟩
  | file => exact .inr ⟨fun readable => readable.1 rfl, _, rfl⟩
  | directory entries =>
      rw [readDropIns_directory, summarized_fst]
      rcases readFiles_cases ((DropIns.directory entries).files path) with
        ⟨texts, read⟩ | ⟨unreadable, fault, failed⟩
      · exact .inl ⟨⟨by simp, texts⟩, read⟩
      · exact .inr ⟨fun readable => unreadable readable.2, fault, failed⟩

theorem documents_none (path : String) (dropIns : DropIns) :
    documents ⟨path, none, dropIns⟩ = readDropIns (dropInDirectory path) dropIns := by
  have opened : documents ⟨path, none, dropIns⟩ =
      ((readDropIns (dropInDirectory path) dropIns).1.map ([] ++ ·),
        [] ++ (readDropIns (dropInDirectory path) dropIns).2) := rfl
  rw [opened]
  rcases readDropIns (dropInDirectory path) dropIns with ⟨failure | values, lines⟩
  · rfl
  · rfl

theorem documents_some (path : String) (entry : Entry) (dropIns : DropIns) :
    documents ⟨path, some entry, dropIns⟩ =
      match readFile (mainFile path) entry with
      | (.error failure, lines) => (.error failure, lines)
      | (.ok value, lines) =>
          ((readDropIns (dropInDirectory path) dropIns).1.map (value.toList ++ ·),
            lines ++ (readDropIns (dropInDirectory path) dropIns).2) := rfl

/-- If everything can be read, the documents are those that are kept; otherwise there are
none. -/
theorem documents_cases (directory : Directory) :
    (directory.IsReadable ∧ (documents directory).1 = .ok directory.accepted) ∨
      (¬directory.IsReadable ∧ ∃ fault, (documents directory).1 = .error (.io fault)) := by
  obtain ⟨path, main, dropIns⟩ := directory
  have below := readDropIns_cases (dropInDirectory path) dropIns
  unfold Directory.IsReadable Directory.accepted Directory.files
  dsimp only
  cases main with
  | none =>
      rw [documents_none]
      exact below
  | some entry =>
      rw [documents_some, Option.map_some, Option.toList_some, List.singleton_append,
        List.forall_mem_cons]
      rcases readFile_cases (mainFile path) entry with
        ⟨text, lines, _, read⟩ | ⟨unreadable, fault, read⟩
      · rw [read]
        rcases below with ⟨readable, rest⟩ | ⟨others, fault, rest⟩
        · refine .inl ⟨⟨readable.1, text, readable.2⟩, ?_⟩
          dsimp only
          rw [rest]
          cases found : entry.document? <;> simp [found, Except.map]
        · refine .inr ⟨fun all => others ⟨all.1, all.2.2⟩, fault, ?_⟩
          dsimp only
          rw [rest]
          rfl
      · rw [read]
        exact .inr ⟨fun all => unreadable all.2.1, fault, rfl⟩

theorem load_eq (directory : Directory) :
    load directory = ((documents directory).1.bind ofDocuments, (documents directory).2) := rfl

/-- Loading is to put the documents together that are kept, if everything can be read. -/
theorem load_cases (directory : Directory) :
    (directory.IsReadable ∧ (load directory).1 = ofDocuments directory.accepted) ∨
      (¬directory.IsReadable ∧ ∃ fault, (load directory).1 = .error (.io fault)) := by
  rw [load_eq]
  rcases documents_cases directory with ⟨readable, read⟩ | ⟨unreadable, fault, read⟩
  · exact .inl ⟨readable, by rw [read]; rfl⟩
  · exact .inr ⟨unreadable, fault, by rw [read]; rfl⟩

theorem documents_of_isReadable {directory : Directory} (readable : directory.IsReadable) :
    (documents directory).1 = .ok directory.accepted := by
  rcases documents_cases directory with ⟨_, read⟩ | ⟨unreadable, _⟩
  · exact read
  · exact absurd readable unreadable

theorem load_of_isReadable {directory : Directory} (readable : directory.IsReadable) :
    (load directory).1 = ofDocuments directory.accepted := by
  rcases load_cases directory with ⟨_, loaded⟩ | ⟨unreadable, _⟩
  · exact loaded
  · exact absurd readable unreadable

theorem Directory.isKept_of_mem {directory : Directory} {value : Yaml.Value}
    (member : value ∈ directory.accepted) : IsKept value := by
  obtain ⟨file, _, found⟩ := List.mem_filterMap.mp member
  exact Entry.isKept_of_document? found

/-- No mapping in a document that is kept has a key twice. -/
theorem Directory.isWellFormed_of_mem {directory : Directory} {value : Yaml.Value}
    (member : value ∈ directory.accepted) : value.IsWellFormed := by
  obtain ⟨⟨path, entry⟩, _, found⟩ := List.mem_filterMap.mp member
  cases entry with
  | directory => cases found
  | file content =>
      obtain ⟨text, _, rest⟩ := Option.bind_eq_some_iff.mp found
      have read := (Option.filter_eq_some_iff.mp rest).1
      cases valued : (Yaml.Document.ofText text).value with
      | error complaint =>
          rw [valued] at read
          cases read
      | ok document =>
          rw [valued] at read
          cases read
          exact Yaml.Document.isWellFormed_value valued

/-- A document that is kept twice in a row counts once. -/
theorem ofDocuments_repeated {directory : Directory} {front back : List Yaml.Value}
    {layer : Yaml.Value} (accepted : directory.accepted = front ++ layer :: back) :
    ofDocuments (front ++ layer :: layer :: back) = ofDocuments directory.accepted := by
  have wellFormed : ∀ value ∈ front ++ layer :: back, value.IsWellFormed := by
    intro value member
    exact Directory.isWellFormed_of_mem (accepted ▸ member)
  obtain ⟨below, above⟩ := List.forall_mem_append.mp wellFormed
  rw [accepted, ofDocuments, ofDocuments,
    Yaml.Value.mergeAll_repeated below (above layer List.mem_cons_self)]

end Settings
end InstanceScripts
