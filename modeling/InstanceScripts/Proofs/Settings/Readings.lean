import InstanceScripts.Proofs.Settings.Directory
import InstanceScripts.Proofs.Text.Decoding
import InstanceScripts.Proofs.Yaml.Meaning

/-!
# Two ways of reading settings

Settings are read of a document itself, where a field takes a scalar in the way that suits it, or
of the document's value, where the scalar has become a text or a number already.  If both succeed
they give the same settings.  The second way also asks that the document has a value, that every
key in it is a text, and that every field has a text or an integer, whichever it holds; it asks for
nothing else.
-/

namespace InstanceScripts
namespace Settings

open Yaml (Bears Document Fault IsEntryOf IsReadAs Node Value)
open Yaml.Value (Entries keys keys_cons)

/-! ## Values of the kinds that fields hold -/

/-- An integer, under any tags. -/
def IsInteger (value : Value) : Prop :=
  ∃ number, value.untag = .int number

/-- A value is of the kind that a field holds. -/
def Field.Takes (field : Field) (value : Value) : Prop :=
  match field.bits? with
  | none => value.IsText
  | some _ => IsInteger value

/-- Entries whose keys are texts, with a value of the right kind for every field. -/
structure Suits (entries : Entries) : Prop where
  texts : ∀ key ∈ keys entries, key.IsText
  kinds : ∀ entry ∈ entries, ∀ field, Field.ofKey? entry.1 = some field → field.Takes entry.2

/-- A value that is null, or a mapping with the right kinds of keys and values. -/
def IsSuited (value : Value) : Prop :=
  value.isNull = true ∨ ∃ entries, value.untag = .map entries ∧ Suits entries

theorem Suits.cons_iff {key value : Value} {entries : Entries} :
    Suits ((key, value) :: entries) ↔
      (key.IsText ∧ ∀ field, Field.ofKey? key = some field → field.Takes value) ∧
        Suits entries := by
  constructor
  · rintro ⟨texts, kinds⟩
    rw [keys_cons, List.forall_mem_cons] at texts
    rw [List.forall_mem_cons] at kinds
    exact ⟨⟨texts.1, kinds.1⟩, texts.2, kinds.2⟩
  · rintro ⟨⟨text, kind⟩, texts, kinds⟩
    refine ⟨?_, List.forall_mem_cons.mpr ⟨kind, kinds⟩⟩
    rw [keys_cons]
    exact List.forall_mem_cons.mpr ⟨text, texts⟩

/-- Entries from which fields can be taken suit. -/
theorem Suits.of_takeEntries {taken result : List (Field × Setting)} {entries : Entries}
    (read : takeEntries taken entries = .ok result) : Suits entries := by
  obtain ⟨texts, usable⟩ := takeEntries_ok read
  refine ⟨texts, ?_⟩
  intro entry member field named
  obtain ⟨given, set⟩ := usable entry member field named
  unfold Field.Takes
  rcases settingOfValue_ok set with ⟨text, found, width, _⟩ | ⟨bits, number, found, width, _⟩
  · rw [width]
    exact ⟨text, found⟩
  · rw [width]
    exact ⟨number, found⟩

/-! ## One node -/

section Nodes

variable {document : Document} {node : Node} {value : Value}

/-- The node that is read is the target of the node. -/
theorem target_of_follow {found : Node} {followed count : Nat}
    (reached : (document.follow node).run followed = .ok (found, count)) :
    target document node = found := by
  cases node with
  | aliasOf mark anchor =>
      obtain ⟨number, _, _, behind⟩ := Yaml.exists_of_run_bind reached
      dsimp only at behind
      split at behind
      · obtain ⟨_, _, refused, _⟩ := Yaml.exists_of_run_bind behind
        cases refused
      · obtain ⟨_, _, _, ends⟩ := Yaml.exists_of_run_bind behind
        cases named : document.target? anchor with
        | none =>
            rw [named] at ends
            cases ends
        | some node =>
            rw [named] at ends
            cases ends
            simp only [target, named, Option.getD_some]
  | _ =>
      cases reached
      rfl

theorem bears_target (read : IsReadAs document node value) :
    Bears document (target document node) value.untag := by
  obtain ⟨found, ⟨followed, count, reached⟩, bears⟩ := read.bears
  rw [target_of_follow reached]
  exact bears

/-- A text that is read of a node is the text of its scalar. -/
theorem nodeText_of_isReadAs (read : IsReadAs document node value) {text : String}
    (found : value.untag = .str text) (expected : String) (path : Option String) :
    nodeText document expected path node = .ok text := by
  have bears := bears_target read
  rw [found] at bears
  unfold nodeText
  dsimp only
  generalize target document node = scalar at bears
  cases bears with
  | scalar _ _ _ spells valued => rw [spells.eq_text valued]

/-- If a field takes a value, then what a node sets it to is what the value sets it to. -/
theorem settingOfValue_of_node (read : IsReadAs document node value) {field : Field}
    (takes : field.Takes value) {path : Option String} {given : Setting}
    (set : settingOfNode document path field node = .ok given) :
    settingOfValue field value = .ok given := by
  unfold Field.Takes at takes
  unfold settingOfNode at set
  unfold settingOfValue
  cases width : field.bits? with
  | none =>
      rw [width] at takes set
      obtain ⟨text, found⟩ := takes
      dsimp only at set ⊢
      rw [nodeText_of_isReadAs read found] at set
      rw [valueText_ok_iff.mpr found]
      exact set
  | some bits =>
      rw [width] at takes set
      obtain ⟨number, found⟩ := takes
      have bears := bears_target read
      rw [found] at bears
      dsimp only at set ⊢
      rw [found]
      generalize target document node = scalar at bears set
      cases bears with
      | scalar _ properties style spells valued =>
          dsimp only at set
          split at set
          · next unsigned taken =>
              split at taken
              · rw [spells.eq_number valued taken]
                dsimp only
                cases bounded : boundedNumber bits field.expected unsigned with
                | error complaint =>
                    rw [bounded] at set
                    cases set
                | ok held =>
                    rw [bounded] at set
                    exact set
              · cases taken
          · cases set

/-- Take the fields of nodes. -/
abbrev takeNodes (document : Document) (taken : List (Field × Setting))
    (nodes : List (Node × Node)) : Except Fault (List (Field × Setting)) :=
  assignmentsOf (nodeText document "field identifier" none)
    (fun field key => settingOfNode document (some (pathOf key)) field) taken nodes

/-- If entries suit, what is taken of their nodes is taken of them. -/
theorem takeEntries_of_nodes {nodes : List (Node × Node)} {entries : Entries}
    (read : List.Forall₂ (IsEntryOf document) nodes entries) (suits : Suits entries)
    {taken assigned : List (Field × Setting)}
    (typed : takeNodes document taken nodes = .ok assigned) :
    takeEntries taken entries = .ok assigned := by
  induction read generalizing taken with
  | nil => exact typed
  | @cons nodePair entry nodes entries pair _ inductionHypothesis =>
      obtain ⟨keyNode, valueNode⟩ := nodePair
      obtain ⟨key, value⟩ := entry
      obtain ⟨keyRead, valueRead⟩ := pair
      obtain ⟨⟨text, kind⟩, later⟩ := Suits.cons_iff.mp suits
      obtain ⟨name, found⟩ := id text
      rw [takeNodes, assignmentsOf_cons taken (nodeText_of_isReadAs keyRead found _ _)] at typed
      rw [takeEntries_cons taken text, Field.ofKey?_of_untag found]
      rw [Field.ofKey?_of_untag found] at kind
      cases named : Field.ofName? name with
      | none =>
          rw [named] at typed
          exact inductionHypothesis later typed
      | some field =>
          rw [named] at typed
          dsimp only at typed ⊢
          split at typed
          · cases typed
          · next fresh =>
              rw [if_neg fresh]
              cases set : settingOfNode document (some (pathOf keyNode)) field valueNode with
              | error fault =>
                  rw [set] at typed
                  cases typed
              | ok given =>
                  rw [set] at typed
                  rw [settingOfValue_of_node valueRead (kind field named) set]
                  exact inductionHypothesis later typed

/-- Settings are read of a mapping's fields, or of a root that was left out. -/
theorem ofNode_ok {settings : Settings} (typed : ofNode document node = .ok settings) :
    (∃ mark properties nodes assigned, target document node = .mapping mark properties nodes ∧
        takeNodes document [] nodes = .ok assigned ∧ settings = ofAssignments assigned) ∨
      ∃ mark properties, target document node = .scalar mark properties .plain [] ∧
        settings = standard := by
  unfold ofNode at typed
  dsimp only at typed
  generalize target document node = found at typed
  split at typed
  · next assigned taken =>
      cases typed
      split at taken
      · next mark properties nodes => exact .inl ⟨mark, properties, nodes, assigned, rfl, taken, rfl⟩
      · next mark properties =>
          cases taken
          exact .inr ⟨mark, properties, rfl, rfl⟩
      · cases taken
  · split at typed <;> cases typed

end Nodes

/-! ## Whole documents -/

section Documents

variable {document : Document} {settings : Settings} {value : Value}

/-- If the value of a document suits, it is read as the settings that the document describes. -/
theorem ofValue_of_node {root : Node} (typed : ofNode document root = .ok settings)
    (read : IsReadAs document root value) (suited : IsSuited value) :
    ofValue value = .ok settings := by
  have bears := bears_target read
  rcases ofNode_ok typed with
    ⟨mark, properties, nodes, assigned, found, taken, rfl⟩ | ⟨mark, properties, found, rfl⟩
  · rw [found] at bears
    generalize content : value.untag = inside at bears
    cases bears with
    | mapping _ _ entriesRead =>
        rcases suited with null | ⟨entries, shown, suits⟩
        · rw [Value.isNull, content] at null
          cases null
        · rw [content] at shown
          cases shown
          unfold ofValue
          rw [content]
          change (takeEntries [] _).map ofAssignments = _
          rw [takeEntries_of_nodes entriesRead suits taken]
          rfl
  · rw [found] at bears
    generalize content : value.untag = inside at bears
    cases bears with
    | scalar _ _ _ spells valued =>
        rcases spells.of_empty with rfl | rfl
        · cases valued
          rw [ofValue, content]
        · cases valued
          rcases suited with null | ⟨entries, shown, _⟩
          · rw [Value.isNull, content] at null
            cases null
          · rw [content] at shown
            cases shown

/-- If the value of a document suits, it is read as the settings that the document describes. -/
theorem ofValue_of_document (typed : ofDocument document = .ok settings)
    (read : document.value = .ok value) (suited : IsSuited value) :
    ofValue value = .ok settings := by
  unfold ofDocument at typed
  rcases Document.root_of_value read with ⟨rooted, rfl⟩ | ⟨root, count, rooted, run⟩
  · rw [rooted] at typed
    cases typed
    rfl
  · rw [rooted] at typed
    dsimp only at typed
    have described : ofNode document root = .ok settings := by
      cases node : ofNode document root with
      | error fault =>
          rw [node] at typed
          cases typed
      | ok found =>
          rw [node] at typed
          dsimp only at typed
          repeat' split at typed
          all_goals cases typed
          rfl
    exact ofValue_of_node described ⟨_, 0, count, run⟩ suited

end Documents

theorem ofValue_of_isNull {value : Value} (null : value.isNull = true) :
    ofValue value = .ok standard := by
  unfold Value.isNull at null
  unfold ofValue
  split at null
  · next content => rw [content]
  · cases null

/-- A value that is read as settings suits. -/
theorem isSuited_of_ofValue {value : Value} {settings : Settings}
    (read : ofValue value = .ok settings) : IsSuited value := by
  unfold ofValue at read
  split at read
  · next content => exact .inl (by rw [Value.isNull, content])
  · next entries content =>
      change (takeEntries [] entries).map ofAssignments = _ at read
      cases taken : takeEntries [] entries with
      | error fault =>
          rw [taken] at read
          cases read
      | ok assigned => exact .inr ⟨entries, content, .of_takeEntries taken⟩
  · cases read

/-! ## A main file alone -/

/-- A configuration directory that holds nothing but a main file with some text. -/
def Directory.alone (path text : String) : Directory :=
  ⟨path, some (.file (Utf8.encode text)), .absent⟩

/-- What is read of a file that holds a text. -/
theorem readFile_encode (path text : String) :
    readFile path (.file (Utf8.encode text)) =
      match (Document.ofText text).value with
      | .error _ => (.ok none, [.warn ("Failed to parse " ++ path)])
      | .ok value =>
          if value.isNull then (.ok none, [])
          else
            match ofValue value with
            | .error fault =>
                (.ok none, [.warn ("Ignoring " ++ path ++ ": " ++ fault.message)])
            | .ok _ => (.ok (some value), []) := by
  have decoded := Utf8.decode_encode text
  unfold readFile
  dsimp only
  generalize Utf8.decode (Utf8.encode text) = read at decoded ⊢
  subst decoded
  rfl

theorem load_alone {path text : String} {document : Option Value} {lines : List Log.Line}
    (read : readFile (mainFile path) (.file (Utf8.encode text)) = (.ok document, lines)) :
    load (.alone path text) = (ofDocuments document.toList, lines) := by
  rw [Directory.alone, load_eq, documents_some, read]
  simp [readDropIns, Except.map, Except.bind]

/-- Without documents the standard settings are loaded. -/
theorem ofDocuments_nil : ofDocuments [] = .ok standard := rfl

theorem ofDocuments_singleton {value : Value} {settings : Settings} (notNull : value.isNull = false)
    (read : ofValue value = .ok settings) (valid : settings.validate = .ok ()) :
    ofDocuments [value] = .ok settings := by
  have merged : Value.mergeAll [value] = value := Value.null_merge value
  have described : describedBy [value] = .ok settings := by
    rw [describedBy, merged, notNull, read]
    rfl
  exact ofDocuments_ok_iff.mpr ⟨described, valid⟩

/-- If a text describes settings that pass, and the value of its document suits, a main file with
that text loads the same settings without a warning.  If the document has no value, or one that does
not suit, the file is passed over with a warning, and the standard settings are loaded. -/
theorem readings_agree {text : String} {settings : Settings} (typed : ofText text = .ok settings)
    (valid : settings.validate = .ok ()) (path : String) :
    (∀ value, (Document.ofText text).value = .ok value →
      (IsSuited value → load (.alone path text) = (.ok settings, [])) ∧
      (¬IsSuited value → ∃ fault, ofValue value = .error fault ∧
        load (.alone path text) =
          (.ok standard, [.warn ("Ignoring " ++ mainFile path ++ ": " ++ fault.message)]))) ∧
    ∀ complaint, (Document.ofText text).value = .error complaint →
      load (.alone path text) =
        (.ok standard, [.warn ("Failed to parse " ++ mainFile path)]) := by
  constructor
  · intro value parsed
    have file := readFile_encode (mainFile path) text
    rw [parsed] at file
    dsimp only at file
    constructor
    · intro suited
      have read := ofValue_of_document typed parsed suited
      cases null : value.isNull with
      | true =>
          obtain rfl : standard = settings := Except.ok.inj ((ofValue_of_isNull null).symm.trans read)
          rw [if_pos null] at file
          rw [load_alone file, Option.toList_none, ofDocuments_nil]
      | false =>
          rw [null, if_neg Bool.false_ne_true, read] at file
          rw [load_alone file, Option.toList_some, ofDocuments_singleton null read valid]
    · intro unsuited
      have notNull : ¬value.isNull = true := fun null => unsuited (.inl null)
      cases read : ofValue value with
      | ok found => exact absurd (isSuited_of_ofValue read) unsuited
      | error fault =>
          rw [if_neg notNull, read] at file
          exact ⟨fault, rfl, by rw [load_alone file, Option.toList_none, ofDocuments_nil]⟩
  · intro complaint unreadable
    have file := readFile_encode (mainFile path) text
    rw [unreadable] at file
    rw [load_alone file, Option.toList_none, ofDocuments_nil]

/-- Settings in quotes, under a tag and behind an alias. -/
def decorated : String :=
  "metadata_url: 'http://m'\n!k retry_attempts: &a 7\nretry_delay_secs: *a\nnote: \x7b1: [x]\x7d"

theorem decorated_agree :
    let settings : Settings :=
      { standard with metadataUrl := "http://m", retryAttempts := 7, retryDelaySecs := 7 }
    (ofText decorated = .ok settings ∧ settings.validate = .ok () ∧
        ∃ value, (Document.ofText decorated).value = .ok value ∧ IsSuited value) ∧
      load (.alone "c" decorated) = (.ok settings, []) := by
  intro settings
  have typed : ofText decorated = .ok settings := by decide +kernel
  have valid : settings.validate = .ok () := by decide +kernel
  have checked : ((Document.ofText decorated).value.toOption.bind fun value =>
      (ofValue value).toOption) = some settings := by decide +kernel
  obtain ⟨value, parsed, read⟩ := Option.bind_eq_some_iff.mp checked
  have parsed := toOption_eq_some.mp parsed
  have suited := isSuited_of_ofValue (toOption_eq_some.mp read)
  obtain ⟨agrees, _⟩ := (readings_agree typed valid "c").1 value parsed
  exact ⟨⟨typed, valid, value, parsed, suited⟩, agrees suited⟩

/-- A text that describes an address without quotes is passed over if the address spells a number,
and so is one that has a note twice. -/
theorem bare_number_ignored :
    (ofText "metadata_url: 5" = .ok { standard with metadataUrl := "5" } ∧
        ({ standard with metadataUrl := "5" } : Settings).validate = .ok () ∧
        load (.alone "c" "metadata_url: 5") =
          (.ok standard, [.warn
            "Ignoring c/scripts.cfg: invalid type: integer `5`, expected a string"])) ∧
      ofText "note: 1\nnote: 2\nretry_attempts: 5" = .ok { standard with retryAttempts := 5 } ∧
      ({ standard with retryAttempts := 5 } : Settings).validate = .ok () ∧
      load (.alone "c" "note: 1\nnote: 2\nretry_attempts: 5") =
        (.ok standard, [.warn "Failed to parse c/scripts.cfg"]) := by
  refine ⟨⟨?_, ?_, ?_⟩, ?_, ?_, ?_⟩
  · decide +kernel
  · decide +kernel
  · decide +kernel
  · decide +kernel
  · decide +kernel
  · decide +kernel

end Settings
end InstanceScripts
