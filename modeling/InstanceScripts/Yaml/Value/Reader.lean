import InstanceScripts.Yaml.Fault
import InstanceScripts.Yaml.Node.Reader
import InstanceScripts.Yaml.Value

/-!
# The value of a document

Scalars take on their meaning, aliases are replaced by what they stand for, and
nesting, the use of aliases and the keys of mappings are kept within bounds.
-/

namespace InstanceScripts
namespace Yaml

/-- Results that count the aliases followed. -/
abbrev Counted := StateT Nat (Except Complaint)

/-- How deep collections may be nested. -/
def depthLimit : Nat :=
  128

/-- The node itself, or the one that an alias stands for. -/
def Document.follow (document : Document) : Node → Counted Node
  | .aliasOf _ anchor => do
      let followed ← get
      if 100 * document.size ≤ followed then throw .tooManyAliases
      set (followed + 1)
      match document.target? anchor with
      | some node => pure node
      | none => throw .brokenRule
  | node => pure node

/-- The value of a scalar's meaning. -/
def Atom.value : Atom → Except Complaint Value
  | .null => .ok .null
  | .bool value => .ok (.bool value)
  | .int value => .ok (.int value)
  | .wide value => .error (.wrongKind (.atom (.wide value)) "any YAML value")
  | .float value => .ok (.float value)
  | .str value => .ok (.str value)

namespace Node

/-- The name of an application's own tag, behind its exclamation mark; a tag that is
nothing but the mark is named by it, and one that is not text has no name. -/
def ownTag? (properties : Properties) : Option String :=
  match properties.tag with
  | some (0x21 :: name) => (Utf8.decode (if name.isEmpty then [0x21] else name)).toOption
  | _ => none

/-- The value of a scalar.  Inside an own tag it is read as if it had no tag. -/
def scalarValue (properties : Properties) (style : Style) (text : List Char) :
    Except Complaint Value :=
  let tag := if (ownTag? properties).isSome then none else properties.tag
  match Scalar.meaning tag style text with
  | .ok atom => atom.value
  | .error expected => .error (.wrongValue (.atom (.str (String.ofList text))) expected)

/-- Put a value into the tag of its node. -/
def withTag (properties : Properties) (content : Counted Value) : Counted Value :=
  match ownTag? properties with
  | none => content
  | some name => do return .tagged name (← content)

/-- Read the entries of a mapping.  A key that is there already is refused before its
value is read. -/
def entryValues (read : Node → Counted Value) :
    List (Value × Value) → List (Node × Node) → Counted (List (Value × Value))
  | entries, [] => pure entries
  | entries, (keyNode, valueNode) :: rest => do
      let key ← read keyNode
      if Value.hasKey entries key then throw .repeatedKey
      let value ← read valueNode
      entryValues read (entries ++ [(key, value)]) rest

/-- The value of a node, given how the nodes inside a collection are read, if they may
be read at all. -/
def valueWith (document : Document) (inner : Option (Node → Counted Value)) (node : Node) :
    Counted Value := do
  match ← document.follow node with
  | .scalar _ properties style text =>
      withTag properties (scalarValue properties style text)
  | .sequence _ properties items =>
      withTag properties do
        match inner with
        | some read => return .seq (← items.mapM read)
        | none => throw .tooDeep
  | .mapping _ properties entries =>
      withTag properties do
        match inner with
        | some read => return .map (← entryValues read [] entries)
        | none => throw .tooDeep
  | .aliasOf _ _ => throw .brokenRule
  | .broken => throw .brokenRule

/-- The value of a node with so many levels of collections at most. -/
def value (document : Document) : Nat → Node → Counted Value
  | 0 => valueWith document none
  | depth + 1 => valueWith document (some (value document depth))

end Node

/-- The value of a document that stands alone. -/
def Document.value (document : Document) : Except Complaint Value :=
  match document.root with
  | none => .ok .null
  | some root =>
      match (root.value document depthLimit).run' 0 with
      | .error complaint => .error complaint
      | .ok value =>
          if !document.sound then .error .brokenRule
          else if !document.alone then .error .severalDocuments
          else .ok value

end Yaml
end InstanceScripts
