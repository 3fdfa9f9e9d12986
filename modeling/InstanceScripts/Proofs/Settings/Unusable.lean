import InstanceScripts.Proofs.Settings.Precedence

/-!
# Files that hold no settings

A text that describes no settings is passed over wherever it stands among the files: everything
ends as if it were absent, and only warnings are added.  Octets that are no text end the loading.
-/

namespace InstanceScripts
namespace Settings

/-! ## A file among others -/

theorem insertByName_splits (entry : String × Entry) (entries : List (String × Entry)) :
    ∃ left right, entries = left ++ right ∧
      insertByName entry entries = left ++ entry :: right := by
  induction entries with
  | nil => exact ⟨[], [], rfl, rfl⟩
  | cons other rest inductionHypothesis =>
      unfold insertByName
      split
      · exact ⟨[], other :: rest, rfl, rfl⟩
      · obtain ⟨left, right, rfl, inserted⟩ := inductionHypothesis
        exact ⟨other :: left, right, rfl, by rw [inserted]; rfl⟩

/-- In front of a sorted list, an entry is inserted at the head. -/
theorem insertByName_of_le {entry : String × Entry} {entries : List (String × Entry)}
    (least : ∀ other ∈ entries, entry.1 ≤ other.1) :
    insertByName entry entries = entry :: entries := by
  cases entries with
  | nil => rfl
  | cons other rest =>
      unfold insertByName
      rw [if_pos (least other (by simp))]

/-- An entry is inserted in the same place whether or not another one stands among the rest. -/
theorem insertByName_around {left right : List (String × Entry)} {file : String × Entry}
    (sorted : SortedByName (left ++ file :: right)) (entry : String × Entry) :
    ∃ front back, insertByName entry (left ++ file :: right) = front ++ file :: back ∧
      insertByName entry (left ++ right) = front ++ back := by
  induction left with
  | nil =>
      rw [List.nil_append, List.nil_append]
      obtain ⟨least, _⟩ := List.pairwise_cons.mp sorted
      by_cases first : entry.1 ≤ file.1
      · refine ⟨[entry], right, ?_, ?_⟩
        · rw [insertByName, if_pos first]
          rfl
        · apply insertByName_of_le
          intro other member
          exact String.le_trans first (least other member)
      · refine ⟨[], insertByName entry right, ?_, rfl⟩
        rw [insertByName, if_neg first]
        rfl
  | cons head left inductionHypothesis =>
      by_cases first : entry.1 ≤ head.1
      · refine ⟨entry :: head :: left, right, ?_, ?_⟩
        · rw [List.cons_append, insertByName, if_pos first]
          rfl
        · rw [List.cons_append, insertByName, if_pos first]
          rfl
      · obtain ⟨front, back, long, short⟩ := inductionHypothesis (List.pairwise_cons.mp sorted).2
        refine ⟨head :: front, back, ?_, ?_⟩
        · rw [List.cons_append, insertByName, if_neg first, long]
          rfl
        · rw [List.cons_append, insertByName, if_neg first, short]
          rfl

/-- Without one of them, entries are sorted as with it. -/
theorem sortByName_around (front back : List (String × Entry)) (file : String × Entry) :
    ∃ left right, sortByName (front ++ file :: back) = left ++ file :: right ∧
      sortByName (front ++ back) = left ++ right := by
  induction front with
  | nil =>
      obtain ⟨left, right, split, inserted⟩ := insertByName_splits file (sortByName back)
      exact ⟨left, right, inserted, split⟩
  | cons entry front inductionHypothesis =>
      obtain ⟨left, right, long, short⟩ := inductionHypothesis
      have sorted := sortByName_sorted (front ++ file :: back)
      rw [long] at sorted
      obtain ⟨above, below, grown, inserted⟩ := insertByName_around sorted entry
      refine ⟨above, below, ?_, ?_⟩
      · rw [← grown, ← long]
        rfl
      · rw [← inserted, ← short]
        rfl

/-! ## Passing over a file -/

/-- Two runs end alike, and the first adds nothing but warnings to what the other reports. -/
def AddsWarnings {α : Type} (longer shorter : α × List Log.Line) : Prop :=
  longer.1 = shorter.1 ∧
    ∃ front warnings back, longer.2 = front ++ warnings ++ back ∧ shorter.2 = front ++ back ∧
      ∀ line ∈ warnings, ∃ text, line = .warn text

namespace AddsWarnings

variable {α β : Type} {longer shorter : α × List Log.Line}

theorem refl (run : α × List Log.Line) : AddsWarnings run run :=
  ⟨rfl, run.2, [], [], by simp, by simp, by simp⟩

/-- It stays so if the same is done afterwards. -/
theorem andThen (adds : AddsWarnings longer shorter) (next : α → β × List Log.Line) :
    AddsWarnings ((next longer.1).1, longer.2 ++ (next longer.1).2)
      ((next shorter.1).1, shorter.2 ++ (next shorter.1).2) := by
  obtain ⟨ends, front, warnings, back, long, short, warned⟩ := adds
  refine ⟨by rw [ends], front, warnings, back ++ (next longer.1).2, ?_, ?_, warned⟩
  · rw [long]
    simp
  · rw [short, ends]
    simp

/-- It stays so if the same is reported before, and what comes of both is changed alike. -/
theorem after (adds : AddsWarnings longer shorter) (lines : List Log.Line) (change : α → β) :
    AddsWarnings (change longer.1, lines ++ longer.2) (change shorter.1, lines ++ shorter.2) := by
  obtain ⟨ends, front, warnings, back, long, short, warned⟩ := adds
  refine ⟨by rw [ends], lines ++ front, warnings, back, ?_, ?_, warned⟩
  · rw [long]
    simp
  · rw [short]
    simp

end AddsWarnings

/-- A file that is read without giving a document. -/
def IsPassed (path : String) (entry : Entry) : Prop :=
  ∃ lines, readFile path entry = (.ok none, lines) ∧ ∀ line ∈ lines, ∃ text, line = .warn text

theorem readFiles_around {path : String} {entry : Entry} (passed : IsPassed path entry)
    (left right : List (String × Entry)) :
    AddsWarnings (readFiles (left ++ (path, entry) :: right)) (readFiles (left ++ right)) := by
  induction left with
  | nil =>
      obtain ⟨lines, read, warned⟩ := passed
      have skipped : readFiles ((path, entry) :: right) =
          ((readFiles right).1.map ([] ++ ·), lines ++ (readFiles right).2) := by
        simp only [readFiles, read, Option.toList_none]
      rw [List.nil_append, List.nil_append, skipped]
      refine ⟨?_, [], lines, (readFiles right).2, rfl, rfl, warned⟩
      cases (readFiles right).1 with
      | error failure => rfl
      | ok values => rfl
  | cons file left inductionHypothesis =>
      obtain ⟨place, other⟩ := file
      rw [List.cons_append, List.cons_append]
      unfold readFiles
      rcases readFile place other with ⟨failure | value, lines⟩
      · exact .refl _
      · exact inductionHypothesis.after lines (Except.map (value.toList ++ ·))

/-- Without one of them, drop-in files are considered as with it. -/
theorem dropInFiles_around {name : String} (named : isDropInName name = true) (entry : Entry)
    (front back : List (String × Entry)) :
    ∃ left right, dropInFiles (front ++ (name, entry) :: back) = left ++ (name, entry) :: right ∧
      dropInFiles (front ++ back) = left ++ right := by
  unfold dropInFiles
  rw [List.filter_append, List.filter_append, List.filter_cons_of_pos (by exact named)]
  exact sortByName_around _ _ _

theorem files_around (path : String) {name : String} (named : isDropInName name = true)
    (entry : Entry) (front back : List (String × Entry)) :
    ∃ left right, (DropIns.directory (front ++ (name, entry) :: back)).files path =
        left ++ (pathIn path name, entry) :: right ∧
      (DropIns.directory (front ++ back)).files path = left ++ right := by
  obtain ⟨left, right, long, short⟩ := dropInFiles_around named entry front back
  refine ⟨left.map fun file => (pathIn path file.1, file.2),
    right.map fun file => (pathIn path file.1, file.2), ?_, ?_⟩
  · rw [DropIns.files_directory, long, List.map_append, List.map_cons]
  · rw [DropIns.files_directory, short, List.map_append]

/-- A drop-in file that is passed over adds only warnings. -/
theorem load_around {entry : Entry} (passed : ∀ path, IsPassed path entry) (path : String)
    (main : Option Entry) {name : String} (named : isDropInName name = true)
    (front back : List (String × Entry)) :
    AddsWarnings (load ⟨path, main, .directory (front ++ (name, entry) :: back)⟩)
      (load ⟨path, main, .directory (front ++ back)⟩) := by
  have dropIns : AddsWarnings
      (readDropIns (dropInDirectory path) (.directory (front ++ (name, entry) :: back)))
      (readDropIns (dropInDirectory path) (.directory (front ++ back))) := by
    obtain ⟨left, right, long, short⟩ :=
      files_around (dropInDirectory path) named entry front back
    rw [readDropIns_directory, readDropIns_directory, long, short]
    exact (readFiles_around (passed _) left right).andThen summarized
  rw [load_eq, load_eq]
  refine AddsWarnings.after ?_ [] (Except.bind · ofDocuments)
  cases main with
  | none =>
      rw [documents_none, documents_none]
      exact dropIns
  | some other =>
      rw [documents_some, documents_some]
      rcases readFile (mainFile path) other with ⟨failure | value, lines⟩
      · exact .refl _
      · exact dropIns.after lines (Except.map (value.toList ++ ·))

/-- A file whose name is no drop-in name is not considered. -/
theorem load_unnamed {name : String} (unnamed : isDropInName name = false) (entry : Entry)
    (path : String) (main : Option Entry) (front back : List (String × Entry)) :
    load ⟨path, main, .directory (front ++ (name, entry) :: back)⟩ =
      load ⟨path, main, .directory (front ++ back)⟩ := by
  have considered : dropInFiles (front ++ (name, entry) :: back) = dropInFiles (front ++ back) := by
    unfold dropInFiles
    rw [List.filter_append, List.filter_append,
      List.filter_cons_of_neg (by rw [unnamed]; exact Bool.false_ne_true)]
  unfold load documents readDropIns
  dsimp only
  rw [considered]

/-- A main file that is passed over adds only warnings. -/
theorem load_some {entry : Entry} (passed : ∀ path, IsPassed path entry) (path : String)
    (dropIns : DropIns) :
    AddsWarnings (load ⟨path, some entry, dropIns⟩) (load ⟨path, none, dropIns⟩) := by
  obtain ⟨lines, read, warned⟩ := passed (mainFile path)
  rw [load_eq, load_eq]
  refine AddsWarnings.after ?_ [] (Except.bind · ofDocuments)
  rw [documents_some, documents_none, read]
  refine ⟨?_, [], lines, _, rfl, rfl, warned⟩
  dsimp only
  cases (readDropIns (dropInDirectory path) dropIns).1 with
  | error failure => rfl
  | ok values => rfl

/-! ## Failing at a file -/

/-- A run fails, either in some way or as another run does. -/
def FailsLike {α : Type} (failure : Failure) (longer shorter : Except Failure α) : Prop :=
  longer = .error failure ∨ ∃ earlier, longer = .error earlier ∧ shorter = .error earlier

theorem FailsLike.bind {α β : Type} {failure : Failure} {longer shorter : Except Failure α}
    (fails : FailsLike failure longer shorter) (next : α → Except Failure β) :
    FailsLike failure (longer.bind next) (shorter.bind next) := by
  rcases fails with rfl | ⟨earlier, rfl, rfl⟩
  · exact .inl rfl
  · exact .inr ⟨earlier, rfl, rfl⟩

theorem FailsLike.map {α β : Type} {failure : Failure} {longer shorter : Except Failure α}
    (fails : FailsLike failure longer shorter) (change : α → β) :
    FailsLike failure (longer.map change) (shorter.map change) := by
  rcases fails with rfl | ⟨earlier, rfl, rfl⟩
  · exact .inl rfl
  · exact .inr ⟨earlier, rfl, rfl⟩

theorem readFiles_failing {path : String} {entry : Entry} {failure : Failure}
    {lines : List Log.Line} (failed : readFile path entry = (.error failure, lines))
    (left right : List (String × Entry)) :
    FailsLike failure (readFiles (left ++ (path, entry) :: right)).1
      (readFiles (left ++ right)).1 := by
  induction left with
  | nil =>
      refine .inl ?_
      rw [List.nil_append]
      simp only [readFiles, failed]
  | cons file left inductionHypothesis =>
      obtain ⟨place, other⟩ := file
      rw [List.cons_append, List.cons_append]
      unfold readFiles
      rcases readFile place other with ⟨earlier | value, lines⟩
      · exact .inr ⟨earlier, rfl, rfl⟩
      · exact inductionHypothesis.map (value.toList ++ ·)

/-- A drop-in file that cannot be read ends the loading, if nothing did before. -/
theorem load_failing {entry : Entry} {failure : Failure}
    (failed : ∀ path, ∃ lines, readFile path entry = (.error failure, lines)) (path : String)
    (main : Option Entry) {name : String} (named : isDropInName name = true)
    (front back : List (String × Entry)) :
    FailsLike failure (load ⟨path, main, .directory (front ++ (name, entry) :: back)⟩).1
      (load ⟨path, main, .directory (front ++ back)⟩).1 := by
  have dropIns : FailsLike failure
      (readDropIns (dropInDirectory path) (.directory (front ++ (name, entry) :: back))).1
      (readDropIns (dropInDirectory path) (.directory (front ++ back))).1 := by
    obtain ⟨left, right, long, short⟩ :=
      files_around (dropInDirectory path) named entry front back
    obtain ⟨lines, read⟩ := failed (pathIn (dropInDirectory path) name)
    rw [readDropIns_directory, readDropIns_directory, long, short, summarized_fst,
      summarized_fst]
    exact readFiles_failing read left right
  rw [load_eq, load_eq]
  refine FailsLike.bind ?_ ofDocuments
  cases main with
  | none =>
      rw [documents_none, documents_none]
      exact dropIns
  | some other =>
      rw [documents_some, documents_some]
      rcases readFile (mainFile path) other with ⟨earlier | value, lines⟩
      · exact .inr ⟨earlier, rfl, rfl⟩
      · exact dropIns.map (value.toList ++ ·)

/-! ## Settings documents -/

/-- Octets that are the text of a document that describes settings. -/
def IsSettingsDocument (content : Octets) : Prop :=
  ∃ text value settings, Utf8.decode content = .ok text ∧
    (Yaml.Document.ofText text).value = .ok value ∧ ofValue value = .ok settings

/-- The settings that octets describe, if any. -/
def settings? (content : Octets) : Option Settings :=
  (Utf8.decode content).toOption.bind fun text =>
    (Yaml.Document.ofText text).value.toOption.bind fun value => (ofValue value).toOption

theorem isSome_settings? {content : Octets} :
    (settings? content).isSome = true ↔ IsSettingsDocument content := by
  simp only [settings?, Option.isSome_iff_exists, Option.bind_eq_some_iff, toOption_eq_some]
  constructor
  · rintro ⟨settings, text, decoded, value, parsed, read⟩
    exact ⟨text, value, settings, decoded, parsed, read⟩
  · rintro ⟨text, value, settings, decoded, parsed, read⟩
    exact ⟨settings, text, decoded, value, parsed, read⟩

instance (content : Octets) : Decidable (IsSettingsDocument content) :=
  decidable_of_iff _ isSome_settings?

theorem isSettingsDocument_of_document? {content : Octets} {value : Yaml.Value}
    (found : (Entry.file content).document? = some value) : IsSettingsDocument content := by
  obtain ⟨text, decoded, rest⟩ := Option.bind_eq_some_iff.mp found
  obtain ⟨parsed, kept⟩ := Option.filter_eq_some_iff.mp rest
  obtain ⟨_, settings, described⟩ := keeps_iff.mp kept
  exact ⟨text, value, settings, toOption_eq_some.mp decoded, toOption_eq_some.mp parsed,
    described⟩

/-- A text that is no settings document is passed over. -/
theorem isPassed_of_text {content : Octets} (text : (Entry.file content).IsText)
    (unusable : ¬IsSettingsDocument content) (path : String) :
    IsPassed path (.file content) := by
  obtain ⟨_, text, ⟨⟩, decoded⟩ := text
  obtain ⟨lines, warned, read⟩ := readFile_of_text decoded path
  refine ⟨lines, ?_, warned⟩
  rw [read]
  cases found : (Entry.file content).document? with
  | none => rfl
  | some value => exact absurd (isSettingsDocument_of_document? found) unusable

/-- With a file of the drop-in directory, or a main file, that is text but no settings document,
everything ends as without it, and only warnings are added.  Octets that are no text end the
loading instead, unless their file has no drop-in name: what was wrong before them is reported, or
else that they are no text. -/
theorem unusable_text_as_if_absent {content : Octets} (unusable : ¬IsSettingsDocument content)
    (name path : String) (main : Option Entry) (dropIns : DropIns)
    (front back : List (String × Entry)) :
    ((Entry.file content).IsText ∨ ¬IsDropInName name →
      AddsWarnings (load ⟨path, main, .directory (front ++ (name, .file content) :: back)⟩)
        (load ⟨path, main, .directory (front ++ back)⟩)) ∧
    ((Entry.file content).IsText →
      AddsWarnings (load ⟨path, some (.file content), dropIns⟩) (load ⟨path, none, dropIns⟩)) ∧
    (¬(Entry.file content).IsText →
      (IsDropInName name →
        FailsLike (.io .notText)
          (load ⟨path, main, .directory (front ++ (name, .file content) :: back)⟩).1
          (load ⟨path, main, .directory (front ++ back)⟩).1) ∧
      (load ⟨path, some (.file content), dropIns⟩).1 = .error (.io .notText)) := by
  refine ⟨?_, ?_, ?_⟩
  · intro harmless
    cases named : isDropInName name with
    | true =>
        have text : (Entry.file content).IsText :=
          harmless.resolve_right (not_not_intro (isDropInName_iff.mp named))
        exact load_around (isPassed_of_text text unusable) path main named front back
    | false =>
        rw [load_unnamed named]
        exact .refl _
  · intro text
    exact load_some (isPassed_of_text text unusable) path dropIns
  · intro broken
    have failed := readFile_of_not_text broken
    constructor
    · intro named
      exact load_failing (fun place => ⟨[], failed place⟩) path main (isDropInName_iff.mpr named)
        front back
    · rw [load_eq, documents_some, failed]
      rfl

/-- A drop-in file that asks for a number of attempts that is no number changes nothing. -/
theorem wordy_as_if_absent :
    (¬IsSettingsDocument (Utf8.encode "retry_attempts: many") ∧
        (Entry.file (Utf8.encode "retry_attempts: many")).IsText) ∧
      AddsWarnings
        (load ⟨"c", none, .directory
          [("a.cfg", .file (Utf8.encode "retry_attempts: many")), ("b.cfg", patient)]⟩)
        (load ⟨"c", none, .directory [("b.cfg", patient)]⟩) := by
  have unusable : ¬IsSettingsDocument (Utf8.encode "retry_attempts: many") := by decide +kernel
  have text : (Entry.file (Utf8.encode "retry_attempts: many")).IsText := by decide +kernel
  refine ⟨⟨unusable, text⟩, ?_⟩
  exact (unusable_text_as_if_absent unusable "a.cfg" "c" none .absent []
    [("b.cfg", patient)]).1 (.inl text)

/-- A drop-in file of one octet that is no text takes the settings of the main file away. -/
theorem stray_octet_fails :
    (IsDropInName "a.cfg" ∧ ¬IsSettingsDocument [255] ∧
        (load ⟨"c", some patient, .directory []⟩).1 = .ok { standard with retryAttempts := 7 }) ∧
      (load ⟨"c", some patient, .directory [("a.cfg", .file [255])]⟩).1 =
        .error (.io .notText) := by
  refine ⟨⟨?_, ?_, ?_⟩, ?_⟩
  · decide +kernel
  · decide +kernel
  · decide +kernel
  · decide +kernel

end Settings
end InstanceScripts
