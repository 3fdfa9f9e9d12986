import InstanceScripts.Yaml.Scalar

/-!
# Faults in YAML documents

Why a document is not what was asked for, where, and in which words that is said.
-/

namespace InstanceScripts
namespace Yaml

/-- What stands where something else was expected. -/
inductive Found where
  | atom (atom : Atom)
  | sequence
  | mapping
  deriving DecidableEq, Repr

/-- The words for what was found. -/
def Found.describe : Found → String
  | .atom .null => "unit value"
  | .atom (.bool value) => "boolean `" ++ (if value then "true" else "false") ++ "`"
  | .atom (.int value) => "integer `" ++ String.ofList (Text.signedDecimal value) ++ "`"
  | .atom (.wide value) =>
      "integer `" ++ String.ofList (Text.signedDecimal value) ++ "` as " ++
        (if 0 ≤ value then "u128" else "i128")
  | .atom (.float value) => "floating point `" ++ value.render ++ "`"
  | .atom (.str value) => "string " ++ Text.quoted value
  | .sequence => "sequence"
  | .mapping => "map"

/-- What is wrong. -/
inductive Complaint where
  | wrongKind (found : Found) (expected : String)
  | wrongValue (found : Found) (expected : String)
  | repeatedField (name : String)
  | repeatedKey
  | brokenRule
  | tooDeep
  | tooManyAliases
  | severalDocuments
  deriving DecidableEq, Repr

/-- The words for a complaint. -/
def Complaint.message : Complaint → String
  | .wrongKind found expected =>
      "invalid type: " ++ found.describe ++ ", expected " ++ expected
  | .wrongValue found expected =>
      "invalid value: " ++ found.describe ++ ", expected " ++ expected
  | .repeatedField name => "duplicate field `" ++ name ++ "`"
  | .repeatedKey => "duplicate entry in YAML map"
  | .brokenRule => "the text is not YAML"
  | .tooDeep => "recursion limit exceeded"
  | .tooManyAliases => "repetition limit exceeded"
  | .severalDocuments =>
      "deserializing from YAML containing more than one document is not supported"

/-- Where a complaint is made: the way from the root, if it leads further, and the
place in the text. -/
structure Place where
  path : Option String
  mark : Mark
  deriving DecidableEq, Repr

/-- A complaint, with its place if there is a text. -/
structure Fault where
  complaint : Complaint
  place : Option Place
  deriving DecidableEq, Repr

namespace Fault

/-- A fault that has no place yet. -/
def unplaced (complaint : Complaint) : Fault :=
  ⟨complaint, none⟩

/-- The fault with a place, unless it has one. -/
def placedAt (fault : Fault) (path : Option String) (mark : Mark) : Fault :=
  { fault with place := fault.place.or (some ⟨path, mark⟩) }

/-- The words for a fault.  The very beginning of a text is not worth mentioning. -/
def message (fault : Fault) : String :=
  match fault.place with
  | none => fault.complaint.message
  | some ⟨path, mark⟩ =>
      let path :=
        match path with
        | some path => path ++ ": "
        | none => ""
      let location :=
        if mark = ⟨0, 0⟩ then ""
        else
          " at line " ++ toString (mark.line + 1) ++ " column " ++ toString (mark.column + 1)
      path ++ fault.complaint.message ++ location

end Fault
end Yaml
end InstanceScripts
