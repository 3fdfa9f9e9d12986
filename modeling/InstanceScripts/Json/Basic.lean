import InstanceScripts.Binary64

/-!
# JSON values

The values that metadata consist of.  Integers and doubles are told apart, and an
object is the list of its members, each name once.
-/

namespace InstanceScripts

/-- A JSON value. -/
inductive Json where
  | null
  | bool (value : Bool)
  | int (value : Int)
  | float (value : Binary64)
  | str (value : String)
  | arr (items : List Json)
  | obj (members : List (String × Json))
  deriving Inhabited

namespace Json

/-- Members of an object with `name` holding `value`: a name that is already there
keeps its place. -/
def setMember (members : List (String × Json)) (name : String) (value : Json) :
    List (String × Json) :=
  match members with
  | [] => [(name, value)]
  | member :: rest =>
      if member.1 = name then (name, value) :: rest
      else member :: setMember rest name value

/-- Value of a member of an object; anything else has no members. -/
def member? (json : Json) (name : String) : Option Json :=
  match json with
  | .obj members => members.lookup name
  | _ => none

/-- The members, if the value is an object. -/
def members? : Json → Option (List (String × Json))
  | .obj members => some members
  | _ => none

/-- The text, if the value is a string. -/
def text? : Json → Option String
  | .str text => some text
  | _ => none

/-- The items, if the value is an array. -/
def items? : Json → Option (List Json)
  | .arr items => some items
  | _ => none

theorem member?_eq_some_iff {json value : Json} {name : String} :
    json.member? name = some value ↔
      ∃ members, json = obj members ∧ members.lookup name = some value := by
  cases json <;> simp [member?]

theorem members?_eq_some_iff {json : Json} {members : List (String × Json)} :
    json.members? = some members ↔ json = obj members := by
  cases json <;> simp [members?]

theorem text?_eq_some_iff {json : Json} {text : String} :
    json.text? = some text ↔ json = str text := by
  cases json <;> simp [text?]

/-- Setting a member makes it readable. -/
@[simp] theorem lookup_setMember_same (members : List (String × Json))
    (name : String) (value : Json) :
    (setMember members name value).lookup name = some value := by
  induction members with
  | nil => simp [setMember]
  | cons member rest inductionHypothesis =>
      obtain ⟨own, held⟩ := member
      by_cases equal : own = name
      · simp [setMember, equal]
      · have different : (name == own) = false := by
          simpa using fun same => equal same.symm
        simp [setMember, equal, List.lookup_cons, different, inductionHypothesis]

/-- Setting a member leaves the others as they were. -/
theorem lookup_setMember_of_ne (members : List (String × Json))
    {name other : String} (value : Json) (different : other ≠ name) :
    (setMember members name value).lookup other = members.lookup other := by
  have unequal : (other == name) = false := by simpa using different
  induction members with
  | nil => simp [setMember, List.lookup_cons, unequal]
  | cons member rest inductionHypothesis =>
      obtain ⟨own, held⟩ := member
      by_cases equal : own = name
      · simp [setMember, equal, List.lookup_cons, unequal]
      · simp only [setMember, equal, if_false, List.lookup_cons, inductionHypothesis]

end Json
end InstanceScripts
