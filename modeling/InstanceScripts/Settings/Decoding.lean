import InstanceScripts.Settings
import InstanceScripts.Yaml.Value.Reader

/-!
# Settings from YAML

Settings are read from a document directly, where a field decides how its scalar is
taken, or from a value, where the scalar has decided already.  Either way fields are
taken in order, no field twice, and unknown ones are passed over.
-/

namespace InstanceScripts
namespace Settings

open Yaml (Complaint Fault Found)

/-- What stands where settings are expected. -/
def expectedSettings : String :=
  "struct RetrieverSettings"

/-- Whether a field has been assigned. -/
def isAssigned (assignments : List (Field × Setting)) (field : Field) : Bool :=
  assignments.any (·.1 == field)

/-- Take the fields of a mapping's entries, given how keys and values are read. -/
def assignmentsOf (keyName : κ → Except Fault String)
    (setting : Field → κ → ν → Except Fault Setting) :
    List (Field × Setting) → List (κ × ν) → Except Fault (List (Field × Setting))
  | assignments, [] => .ok assignments
  | assignments, (key, value) :: rest =>
      match keyName key with
      | .error fault => .error fault
      | .ok name =>
          match Field.ofName? name with
          | none => assignmentsOf keyName setting assignments rest
          | some field =>
              if isAssigned assignments field then
                .error (.unplaced (.repeatedField field.name))
              else
                match setting field key value with
                | .error fault => .error fault
                | .ok held =>
                    assignmentsOf keyName setting (assignments ++ [(field, held)]) rest

/-! ## From values -/

/-- What a value is found to be. -/
def found : Yaml.Value → Found
  | .null => .atom .null
  | .bool value => .atom (.bool value)
  | .int value => .atom (.int value)
  | .float value => .atom (.float value)
  | .str value => .atom (.str value)
  | .seq _ => .sequence
  | .map _ => .mapping
  | .tagged _ content => found content

/-- The text of a value, whatever its tags. -/
def valueText (expected : String) (value : Yaml.Value) : Except Fault String :=
  match value.untag with
  | .str text => .ok text
  | other => .error (.unplaced (.wrongKind (found other) expected))

/-- Take a number of so many bits. -/
def boundedNumber (bits : Nat) (expected : String) (number : Int) : Except Complaint Setting :=
  if 0 ≤ number ∧ number < Nat.pow 2 bits then .ok (.number number.toNat)
  else .error (.wrongValue (.atom (.int number)) expected)

/-- What a value sets a field to. -/
def settingOfValue (field : Field) (value : Yaml.Value) : Except Fault Setting :=
  match field.bits? with
  | none => (valueText field.expected value).map .text
  | some bits =>
      match value.untag with
      | .int number => (boundedNumber bits field.expected number).mapError .unplaced
      | other => .error (.unplaced (.wrongKind (found other) field.expected))

/-- The settings that a value describes; null describes the standard ones. -/
def ofValue (value : Yaml.Value) : Except Fault Settings :=
  match value.untag with
  | .null => .ok standard
  | .map entries =>
      (assignmentsOf (valueText "field identifier") (fun field _ => settingOfValue field) []
        entries).map ofAssignments
  | other => .error (.unplaced (.wrongKind (found other) expectedSettings))

/-! ## From documents -/

/-- The complaint that a node is of the wrong kind. -/
def wrongKind (node : Yaml.Node) (expected : String) : Complaint :=
  match node with
  | .scalar _ properties style text =>
      match Yaml.Scalar.meaning properties.tag style text with
      | .ok atom => .wrongKind (.atom atom) expected
      | .error type => .wrongValue (.atom (.str (String.ofList text))) type
  | .sequence _ _ _ => .wrongKind .sequence expected
  | .mapping _ _ _ => .wrongKind .mapping expected
  | .aliasOf _ _ => .brokenRule
  | .broken => .brokenRule

/-- The node itself, or the one that an alias stands for. -/
def target (document : Yaml.Document) (node : Yaml.Node) : Yaml.Node :=
  match node with
  | .aliasOf _ anchor => (document.target? anchor).getD .broken
  | node => node

/-- The text of a scalar, whatever it means. -/
def nodeText (document : Yaml.Document) (expected : String) (path : Option String)
    (node : Yaml.Node) : Except Fault String :=
  let node := target document node
  match node with
  | .scalar _ _ _ text => .ok (String.ofList text)
  | .broken => .error (.unplaced .brokenRule)
  | node => .error ((Fault.unplaced (wrongKind node expected)).placedAt path node.mark)

/-- Whether a scalar may be a number: it is plain, or literal with the tag for
integers. -/
def mayBeNumber (style : Yaml.Style) (tag : Option Octets) : Bool :=
  style == .plain || (style == .literal && tag == some (Yaml.Scalar.basicTag "int"))

/-- What a node sets a field to. -/
def settingOfNode (document : Yaml.Document) (path : Option String) (field : Field)
    (node : Yaml.Node) : Except Fault Setting :=
  match field.bits? with
  | none => (nodeText document field.expected path node).map .text
  | some bits =>
      let node := target document node
      let placed (complaint : Complaint) : Except Fault Setting :=
        .error ((Fault.unplaced complaint).placedAt path node.mark)
      match node with
      | .broken => .error (.unplaced .brokenRule)
      | .scalar _ properties style text =>
          let number? :=
            if mayBeNumber style properties.tag then Yaml.Scalar.unsigned? 64 text else none
          match number? with
          | some number =>
              match boundedNumber bits field.expected number with
              | .ok setting => .ok setting
              | .error complaint => placed complaint
          | none => placed (wrongKind node field.expected)
      | node => placed (wrongKind node field.expected)

/-- The way to the value of a key; only a scalar can be named. -/
def pathOf (key : Yaml.Node) : String :=
  match key with
  | .scalar _ _ _ text => String.ofList text
  | _ => "?"

/-- The settings that a node describes. -/
def ofNode (document : Yaml.Document) (node : Yaml.Node) : Except Fault Settings :=
  let node := target document node
  let assigned : Except Fault (List (Field × Setting)) :=
    match node with
    | .mapping _ _ entries =>
        assignmentsOf (nodeText document "field identifier" none)
          (fun field key => settingOfNode document (some (pathOf key)) field) [] entries
    | .scalar _ _ .plain [] => .ok []
    | node => .error (.unplaced (wrongKind node expectedSettings))
  match assigned with
  | .ok assignments => .ok (ofAssignments assignments)
  | .error fault =>
      if fault.complaint = .brokenRule then .error fault
      else .error (fault.placedAt none node.mark)

/-- The settings that a document describes; an empty one describes the standard
ones. -/
def ofDocument (document : Yaml.Document) : Except Fault Settings :=
  match document.root with
  | none => .ok standard
  | some root =>
      match ofNode document root with
      | .error fault => .error fault
      | .ok settings =>
          if !document.sound then .error (.unplaced .brokenRule)
          else if !document.alone then .error (.unplaced .severalDocuments)
          else .ok settings

/-- The settings that a text describes. -/
def ofText (text : String) : Except Fault Settings :=
  ofDocument (Yaml.Document.ofText text)

end Settings
end InstanceScripts
