import InstanceScripts.Proofs.Yaml.Entries
import InstanceScripts.Yaml.Value.Reader

/-!
# The keys of what is read

The reader refuses a mapping that has a key twice, so whatever is read from a document is
well-formed.
-/

namespace InstanceScripts
namespace Yaml

/-! ## Computations -/

/-- What a computation of two steps results in comes of what its first step results in. -/
theorem exists_of_run_bind {α β : Type} {computation : Counted α} {rest : α → Counted β}
    {followed count : Nat} {result : β}
    (run : (computation >>= rest).run followed = .ok (result, count)) :
    ∃ middle followedNow, computation.run followed = .ok (middle, followedNow) ∧
      (rest middle).run followedNow = .ok (result, count) := by
  rw [StateT.run_bind] at run
  cases first : computation.run followed with
  | error complaint =>
      rw [first] at run
      cases run
  | ok reached =>
      obtain ⟨middle, followedNow⟩ := reached
      rw [first] at run
      exact ⟨middle, followedNow, rfl, run⟩

theorem eq_ok_of_run_lift {α : Type} {computation : Except Complaint α} {followed count : Nat}
    {result : α} (run : (liftM computation : Counted α).run followed = .ok (result, count)) :
    computation = .ok result := by
  cases computation with
  | error complaint => cases run
  | ok value =>
      cases run
      rfl

/-- Whatever a computation results in has a property. -/
def Gives {α : Type} (computation : Counted α) (property : α → Prop) : Prop :=
  ∀ followed result count, computation.run followed = .ok (result, count) → property result

namespace Gives

variable {α β : Type} {property : α → Prop} {next : β → Prop}

theorem pure {result : α} (holds : property result) : Gives (pure result) property := by
  intro followed result count run
  cases run
  exact holds

theorem throw (complaint : Complaint) : Gives (throw complaint : Counted α) property := by
  intro followed result count run
  cases run

theorem lift {computation : Except Complaint α}
    (holds : ∀ result, computation = .ok result → property result) :
    Gives (liftM computation : Counted α) property := by
  intro followed result count run
  exact holds result (eq_ok_of_run_lift run)

theorem bind {computation : Counted α} {rest : α → Counted β} (first : Gives computation property)
    (behind : ∀ result, property result → Gives (rest result) next) :
    Gives (computation >>= rest) next := by
  intro followed result count run
  obtain ⟨middle, followedNow, firstRun, restRun⟩ := exists_of_run_bind run
  exact behind middle (first followed middle followedNow firstRun) followedNow result count restRun

theorem mapM {read : β → Counted α} {items : List β}
    (each : ∀ item ∈ items, Gives (read item) property) :
    Gives (items.mapM read) fun results => ∀ result ∈ results, property result := by
  induction items with
  | nil => exact pure (by simp)
  | cons item items inductionHypothesis =>
      obtain ⟨here, behind⟩ := List.forall_mem_cons.mp each
      rw [List.mapM_cons]
      refine bind here fun result holds => ?_
      refine bind (inductionHypothesis behind) fun results all => ?_
      exact pure (List.forall_mem_cons.mpr ⟨holds, all⟩)

end Gives

/-! ## Nodes -/

/-- A key that a mapping does not have can be added. -/
theorem Value.IsWellFormed.concat {entries : Value.Entries} {key value : Value}
    (wellFormed : (Value.map entries).IsWellFormed) (fresh : ¬Value.hasKey entries key = true)
    (keyWellFormed : key.IsWellFormed) (valueWellFormed : value.IsWellFormed) :
    (Value.map (entries ++ [(key, value)])).IsWellFormed := by
  rw [Value.hasKey_eq_any, Bool.not_eq_true, List.any_eq_false] at fresh
  rw [Value.isWellFormed_map, Value.keys_append, Value.Distinct, List.pairwise_append]
  refine ⟨⟨wellFormed.distinct, List.pairwise_singleton _ _, ?_⟩, ?_, ?_⟩
  · intro held member later last
    obtain rfl : later = key := List.mem_singleton.mp last
    exact Bool.eq_false_iff.mpr (fresh held member)
  · exact List.forall_mem_append.mpr
      ⟨wellFormed.key, List.forall_mem_singleton.mpr keyWellFormed⟩
  · exact List.forall_mem_append.mpr
      ⟨wellFormed.value, List.forall_mem_singleton.mpr valueWellFormed⟩

theorem Atom.isWellFormed_value {atom : Atom} {value : Value} (read : atom.value = .ok value) :
    value.IsWellFormed := by
  cases atom <;> cases read <;> simp

namespace Node

theorem isWellFormed_scalarValue {properties : Properties} {style : Style} {text : List Char}
    {value : Value} (read : scalarValue properties style text = .ok value) :
    value.IsWellFormed := by
  simp only [scalarValue] at read
  split at read
  · exact Atom.isWellFormed_value read
  · simp at read

theorem withTag_gives {properties : Properties} {content : Counted Value}
    (inside : Gives content Value.IsWellFormed) :
    Gives (withTag properties content) Value.IsWellFormed := by
  unfold withTag
  split
  · exact inside
  · refine Gives.bind inside fun value wellFormed => ?_
    exact Gives.pure (Value.isWellFormed_tagged.mpr wellFormed)

/-- Every entry that is read adds a key that is not there yet. -/
theorem entryValues_gives {read : Node → Counted Value}
    (reads : ∀ node, Gives (read node) Value.IsWellFormed) (nodes : List (Node × Node))
    {entries : Value.Entries} (wellFormed : (Value.map entries).IsWellFormed) :
    Gives (entryValues read entries nodes) fun entries => (Value.map entries).IsWellFormed := by
  induction nodes generalizing entries with
  | nil => exact Gives.pure wellFormed
  | cons node nodes inductionHypothesis =>
      obtain ⟨keyNode, valueNode⟩ := node
      refine Gives.bind (reads keyNode) fun key keyWellFormed => ?_
      split
      · have refused : Gives (throw .repeatedKey : Counted Unit) fun _ => False := Gives.throw _
        exact Gives.bind refused fun _ impossible => impossible.elim
      · next fresh =>
          refine Gives.bind (reads valueNode) fun value valueWellFormed => ?_
          exact inductionHypothesis (wellFormed.concat fresh keyWellFormed valueWellFormed)

theorem valueWith_gives (document : Document) {inner : Option (Node → Counted Value)}
    (reads : ∀ read ∈ inner, ∀ node, Gives (read node) Value.IsWellFormed) (node : Node) :
    Gives (valueWith document inner node) Value.IsWellFormed := by
  have followed : Gives (document.follow node) fun _ => True := fun _ _ _ _ => trivial
  refine Gives.bind followed fun found _ => ?_
  cases found with
  | scalar =>
      apply withTag_gives
      apply Gives.lift
      intro value read
      exact isWellFormed_scalarValue read
  | sequence _ properties items =>
      apply withTag_gives
      cases inner with
      | none => exact Gives.throw _
      | some read =>
          have each := Gives.mapM fun item (_ : item ∈ items) => reads read rfl item
          refine Gives.bind each fun values wellFormed => ?_
          exact Gives.pure (Value.isWellFormed_seq.mpr wellFormed)
  | mapping _ properties entries =>
      apply withTag_gives
      cases inner with
      | none => exact Gives.throw _
      | some read =>
          have empty : (Value.map []).IsWellFormed := by simp [Value.Distinct]
          refine Gives.bind (entryValues_gives (reads read rfl) entries empty) ?_
          exact fun values wellFormed => Gives.pure wellFormed
  | aliasOf => exact Gives.throw _
  | broken => exact Gives.throw _

theorem value_gives (document : Document) (depth : Nat) (node : Node) :
    Gives (value document depth node) Value.IsWellFormed := by
  induction depth generalizing node with
  | zero => exact valueWith_gives document (by simp) node
  | succ depth inductionHypothesis =>
      exact valueWith_gives document (by simpa using inductionHypothesis) node

end Node

/-- The value of a document is that of its root, or null without one. -/
theorem Document.root_of_value {document : Document} {value : Value}
    (read : document.value = .ok value) :
    (document.root = none ∧ value = .null) ∨
      ∃ root count, document.root = some root ∧
        (root.value document depthLimit).run 0 = .ok (value, count) := by
  unfold Document.value at read
  split at read
  · next rooted =>
      cases read
      exact .inl ⟨rooted, rfl⟩
  · next root rooted =>
      rw [StateT.run'_eq] at read
      cases run : (root.value document depthLimit).run 0 with
      | error complaint =>
          rw [run] at read
          cases read
      | ok reached =>
          obtain ⟨found, count⟩ := reached
          rw [run] at read
          change (if _ then _ else _) = _ at read
          repeat' split at read
          all_goals cases read
          exact .inr ⟨root, count, rooted, run⟩

/-- No mapping of a document has a key twice. -/
theorem Document.isWellFormed_value {document : Document} {value : Value}
    (read : document.value = .ok value) : value.IsWellFormed := by
  rcases Document.root_of_value read with ⟨_, rfl⟩ | ⟨root, count, _, run⟩
  · exact .null
  · exact root.value_gives document depthLimit 0 value count run

end Yaml
end InstanceScripts
