import InstanceScripts.Proofs.Yaml.Reading

/-!
# What is read of a node

A value that is read of a node shows what stands there: a scalar that means an atom, a sequence,
or a mapping whose keys and values are read one by one.  A text that is read is the spelling of its
scalar, and an integer that is read is the one that its scalar spells.
-/

namespace InstanceScripts
namespace Yaml

/-! ## Scalars -/

namespace Scalar

/-- What a scalar with this text may mean, depending on how it is written and on its tag. -/
inductive Spells (text : List Char) : Atom → Prop
  | text : Spells text (.str (String.ofList text))
  | integer {atom : Atom} (spelled : integer? text = some atom) : Spells text atom
  | boolean {value : Bool} (spelled : boolean? text = some value) : Spells text (.bool value)
  | double {value : Binary64} (spelled : double? text = some value) : Spells text (.float value)
  | null (spelled : text.isEmpty ∨ isNull text) : Spells text .null

theorem spells_plainMeaning (text : List Char) : Spells text (plainMeaning text) := by
  unfold plainMeaning
  split
  · next empty => exact .null empty
  · split
    · next value _ spelled => exact .boolean spelled
    · next atom _ spelled => exact .integer spelled
    · split
      · next value spelled =>
          split at spelled
          · cases spelled
          · exact .double spelled
      · exact .text

theorem spells_of_meaning {tag : Option Octets} {style : Style} {text : List Char} {atom : Atom}
    (means : meaning tag style text = .ok atom) : Spells text atom := by
  unfold meaning at means
  split at means
  · split at means
    · cases means
      exact spells_plainMeaning text
    · cases means
      exact .text
  · repeat' split at means
    all_goals cases means
    · exact .boolean ‹_›
    · exact .integer ‹_›
    · exact .double ‹_›
    · exact .null (.inr ‹_›)
    · exact spells_plainMeaning text
    · exact .text

theorem integer?_eq_some {text : List Char} {atom : Atom} (spelled : integer? text = some atom) :
    ∃ number, atom = .int number ∨ atom = .wide number := by
  unfold integer? at spelled
  split at spelled <;> cases spelled
  · exact ⟨_, .inl rfl⟩
  · exact ⟨_, .inl rfl⟩
  · exact ⟨_, .inr rfl⟩
  · exact ⟨_, .inr rfl⟩

/-- A scalar that is valued as a text is spelled like it. -/
theorem Spells.eq_text {text : List Char} {atom : Atom} {content : String}
    (spells : Spells text atom) (valued : atom.value = .ok (.str content)) :
    content = String.ofList text := by
  cases spells with
  | text =>
      cases valued
      rfl
  | integer spelled =>
      obtain ⟨number, rfl | rfl⟩ := integer?_eq_some spelled <;> cases valued
  | _ => cases valued

/-- A scalar that is valued as an integer, and spells a number without a sign, is valued as that
number. -/
theorem Spells.eq_number {text : List Char} {atom : Atom} {number : Int} {unsigned : Nat}
    (spells : Spells text atom) (valued : atom.value = .ok (.int number))
    (spelled : unsigned? 64 text = some unsigned) : number = unsigned := by
  cases spells with
  | integer integral =>
      rw [integer?, spelled] at integral
      cases integral
      cases valued
      rfl
  | _ => cases valued

/-- A scalar that was left out means nothing, or the empty text. -/
theorem Spells.of_empty {atom : Atom} (spells : Spells [] atom) : atom = .null ∨ atom = .str "" := by
  cases spells with
  | text => exact .inr rfl
  | integer spelled =>
      rw [show integer? [] = none by decide] at spelled
      cases spelled
  | boolean spelled => cases spelled
  | double spelled =>
      rw [show double? [] = none by decide] at spelled
      cases spelled
  | null _ => exact .inl rfl

end Scalar

/-- A value of an atom has no tag. -/
theorem Atom.untag_value {atom : Atom} {value : Value} (read : atom.value = .ok value) :
    value.untag = value := by
  cases atom <;> cases read <;> rfl

/-! ## Nodes -/

variable {document : Document}

/-- A value is read of a node, at some depth and after some aliases. -/
def IsReadAs (document : Document) (node : Node) (value : Value) : Prop :=
  ∃ depth followed count, (node.value document depth).run followed = .ok (value, count)

/-- Key and value of an entry are read of those of a mapping. -/
def IsEntryOf (document : Document) (nodes : Node × Node) (entry : Value × Value) : Prop :=
  IsReadAs document nodes.1 entry.1 ∧ IsReadAs document nodes.2 entry.2

/-- What stands at a node whose value, without its tags, is given. -/
inductive Bears (document : Document) : Node → Value → Prop
  | scalar (mark : Mark) (properties : Properties) (style : Style) {text : List Char} {atom : Atom}
      {value : Value} (spells : Scalar.Spells text atom) (valued : atom.value = .ok value) :
      Bears document (.scalar mark properties style text) value
  | sequence (mark : Mark) (properties : Properties) (nodes : List Node) (items : List Value) :
      Bears document (.sequence mark properties nodes) (.seq items)
  | mapping (mark : Mark) (properties : Properties) {nodes : List (Node × Node)}
      {entries : Value.Entries} (read : List.Forall₂ (IsEntryOf document) nodes entries) :
      Bears document (.mapping mark properties nodes) (.map entries)

namespace Node

theorem spells_of_scalarValue {properties : Properties} {style : Style} {text : List Char}
    {value : Value} (read : scalarValue properties style text = .ok value) :
    ∃ atom, Scalar.Spells text atom ∧ atom.value = .ok value := by
  unfold scalarValue at read
  dsimp only at read
  split at read
  · next atom means => exact ⟨atom, Scalar.spells_of_meaning means, read⟩
  · cases read

theorem untag_of_withTag {properties : Properties} {content : Counted Value} {followed count : Nat}
    {value : Value} (run : (withTag properties content).run followed = .ok (value, count)) :
    ∃ inside, content.run followed = .ok (inside, count) ∧ value.untag = inside.untag := by
  unfold withTag at run
  split at run
  · exact ⟨value, run, rfl⟩
  · next name _ =>
      obtain ⟨inside, followedNow, first, rest⟩ := exists_of_run_bind run
      cases rest
      exact ⟨inside, first, rfl⟩

/-- The entries that are read of a mapping are those of its nodes, in order. -/
theorem forall₂_of_entryValues {read : Node → Counted Value}
    (reads : ∀ node value followed count, (read node).run followed = .ok (value, count) →
      IsReadAs document node value)
    {nodes : List (Node × Node)} {taken result : Value.Entries} {followed count : Nat}
    (run : (entryValues read taken nodes).run followed = .ok (result, count)) :
    ∃ entries, result = taken ++ entries ∧ List.Forall₂ (IsEntryOf document) nodes entries := by
  induction nodes generalizing taken followed with
  | nil =>
      cases run
      exact ⟨[], by rw [List.append_nil], .nil⟩
  | cons node nodes inductionHypothesis =>
      obtain ⟨keyNode, valueNode⟩ := node
      obtain ⟨key, afterKey, keyRun, behindKey⟩ := exists_of_run_bind run
      dsimp only at behindKey
      split at behindKey
      · obtain ⟨_, _, refused, _⟩ := exists_of_run_bind behindKey
        cases refused
      · obtain ⟨value, afterValue, valueRun, rest⟩ := exists_of_run_bind behindKey
        obtain ⟨entries, rfl, read⟩ := inductionHypothesis rest
        refine ⟨(key, value) :: entries, by rw [List.append_assoc, List.singleton_append], ?_⟩
        exact .cons ⟨reads _ _ _ _ keyRun, reads _ _ _ _ valueRun⟩ read

/-- A value is read of what stands at its node, or at the one that an alias stands for. -/
theorem bears_of_valueWith {inner : Option (Node → Counted Value)}
    (reads : ∀ read ∈ inner, ∀ node value followed count,
      (read node).run followed = .ok (value, count) → IsReadAs document node value)
    {node : Node} {value : Value} {followed count : Nat}
    (run : (valueWith document inner node).run followed = .ok (value, count)) :
    ∃ found, (∃ now, (document.follow node).run followed = .ok (found, now)) ∧
      Bears document found value.untag := by
  obtain ⟨found, now, reached, behind⟩ := exists_of_run_bind run
  refine ⟨found, ⟨now, reached⟩, ?_⟩
  cases found with
  | scalar mark properties style text =>
      obtain ⟨inside, insideRun, same⟩ := untag_of_withTag behind
      obtain ⟨atom, spells, valued⟩ := spells_of_scalarValue (eq_ok_of_run_lift insideRun)
      rw [same, Atom.untag_value valued]
      exact .scalar mark properties style spells valued
  | sequence mark properties nodes =>
      obtain ⟨inside, insideRun, same⟩ := untag_of_withTag behind
      rw [same]
      cases inner with
      | none => cases insideRun
      | some read =>
          obtain ⟨items, _, _, rest⟩ := exists_of_run_bind insideRun
          cases rest
          exact .sequence mark properties nodes items
  | mapping mark properties nodes =>
      obtain ⟨inside, insideRun, same⟩ := untag_of_withTag behind
      rw [same]
      cases inner with
      | none => cases insideRun
      | some read =>
          obtain ⟨result, _, entriesRun, rest⟩ := exists_of_run_bind insideRun
          cases rest
          obtain ⟨entries, rfl, entriesRead⟩ := forall₂_of_entryValues (reads read rfl) entriesRun
          exact .mapping mark properties entriesRead
  | aliasOf => cases behind
  | broken => cases behind

end Node

theorem IsReadAs.bears {node : Node} {value : Value} (read : IsReadAs document node value) :
    ∃ found, (∃ followed count, (document.follow node).run followed = .ok (found, count)) ∧
      Bears document found value.untag := by
  obtain ⟨depth, followed, count, run⟩ := read
  cases depth with
  | zero =>
      obtain ⟨found, ⟨now, reached⟩, bears⟩ := Node.bears_of_valueWith (by simp) run
      exact ⟨found, ⟨followed, now, reached⟩, bears⟩
  | succ depth =>
      have reads : ∀ read ∈ some (Node.value document depth), ∀ node value followed count,
          (read node).run followed = .ok (value, count) → IsReadAs document node value := by
        rintro _ ⟨⟩ node value followed count run
        exact ⟨depth, followed, count, run⟩
      obtain ⟨found, ⟨now, reached⟩, bears⟩ := Node.bears_of_valueWith reads run
      exact ⟨found, ⟨followed, now, reached⟩, bears⟩

end Yaml
end InstanceScripts
