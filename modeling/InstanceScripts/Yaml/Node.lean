import InstanceScripts.Yaml.Token

/-!
# YAML nodes

What the tokens of a document say before anything is known about the meaning of its
scalars.  Tags are resolved; an anchor is a number, and an alias names the number of
its anchor.
-/

namespace InstanceScripts
namespace Yaml

/-- What a node carries in front of its content. -/
structure Properties where
  anchor : Option Nat
  tag : Option Octets
  deriving DecidableEq, Repr

/-- A node with the place where it begins.  A node is `broken` where the text breaks
a rule and nothing can be read any more. -/
inductive Node where
  | scalar (mark : Mark) (properties : Properties) (style : Style) (text : List Char)
  | sequence (mark : Mark) (properties : Properties) (items : List Node)
  | mapping (mark : Mark) (properties : Properties) (entries : List (Node × Node))
  | aliasOf (mark : Mark) (anchor : Nat)
  | broken
  deriving Inhabited

/-- One document of a text.  Without a root the text is empty.  `sound` says that no
rule was broken in it, and `alone` that no other document follows. -/
structure Document where
  root : Option Node
  sound : Bool
  alone : Bool

namespace Node

/-- The place where a node begins. -/
def mark : Node → Mark
  | scalar mark _ _ _ => mark
  | sequence mark _ _ => mark
  | mapping mark _ _ => mark
  | aliasOf mark _ => mark
  | broken => ⟨0, 0⟩

mutual

/-- How many scalars, aliases and ends of collections the text of a node has. -/
def size : Node → Nat
  | scalar _ _ _ _ => 1
  | sequence _ _ items => 1 + sizeItems items
  | mapping _ _ entries => 1 + sizeEntries entries
  | aliasOf _ _ => 1
  | broken => 0

def sizeItems : List Node → Nat
  | [] => 1
  | item :: items => item.size + sizeItems items

def sizeEntries : List (Node × Node) → Nat
  | [] => 1
  | (key, value) :: entries => key.size + value.size + sizeEntries entries

/-- The anchored nodes in a node, in the order in which they begin. -/
def anchored : Node → List (Nat × Node)
  | scalar mark properties style text =>
      match properties.anchor with
      | some anchor => [(anchor, scalar mark properties style text)]
      | none => []
  | sequence mark properties items =>
      match properties.anchor with
      | some anchor => (anchor, sequence mark properties items) :: anchoredItems items
      | none => anchoredItems items
  | mapping mark properties entries =>
      match properties.anchor with
      | some anchor => (anchor, mapping mark properties entries) :: anchoredEntries entries
      | none => anchoredEntries entries
  | aliasOf _ _ => []
  | broken => []

def anchoredItems : List Node → List (Nat × Node)
  | [] => []
  | item :: items => item.anchored ++ anchoredItems items

def anchoredEntries : List (Node × Node) → List (Nat × Node)
  | [] => []
  | (key, value) :: entries => key.anchored ++ value.anchored ++ anchoredEntries entries

end

end Node

namespace Document

/-- Number of scalars, aliases, beginnings and ends in a document. -/
def size (document : Document) : Nat :=
  (document.root.map Node.size).getD 1

/-- The node that an alias stands for: of several anchors with one number the last. -/
def target? (document : Document) (anchor : Nat) : Option Node :=
  document.root.bind fun root => root.anchored.reverse.lookup anchor

end Document

end Yaml
end InstanceScripts
