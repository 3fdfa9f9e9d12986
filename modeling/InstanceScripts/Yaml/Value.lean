import InstanceScripts.Binary64

/-!
# YAML values

Values as documents hold them.  A mapping is the list of its entries in the order in
which they were added; two mappings with the same entries are the same value in
whatever order.
-/

namespace InstanceScripts
namespace Yaml

/-- A YAML value.  The tag of a tagged value stands without its exclamation mark. -/
inductive Value where
  | null
  | bool (value : Bool)
  | int (value : Int)
  | float (value : Binary64)
  | str (value : String)
  | seq (items : List Value)
  | map (entries : List (Value × Value))
  | tagged (tag : String) (content : Value)
  deriving Inhabited

namespace Value

mutual

/-- Whether two values are the same key. -/
def same : Value → Value → Bool
  | null, null => true
  | bool left, bool right => left == right
  | int left, int right => left == right
  | float left, float right => left.same right
  | str left, str right => left == right
  | seq left, seq right => sameItems left right
  | map left, map right => left.length == right.length && includedIn left right
  | tagged leftTag left, tagged rightTag right => leftTag == rightTag && same left right
  | _, _ => false

/-- Item by item. -/
def sameItems : List Value → List Value → Bool
  | [], [] => true
  | left :: lefts, right :: rights => same left right && sameItems lefts rights
  | _, _ => false

/-- Whether every entry is found in another mapping. -/
def includedIn : List (Value × Value) → List (Value × Value) → Bool
  | [], _ => true
  | (key, value) :: entries, others =>
      others.any (fun other => same key other.1 && same value other.2) &&
        includedIn entries others

end

/-- The value of a key in a mapping's entries. -/
def lookup? (entries : List (Value × Value)) (key : Value) : Option Value :=
  (entries.find? fun entry => key.same entry.1).map (·.2)

/-- Whether a key is in a mapping's entries. -/
def hasKey (entries : List (Value × Value)) (key : Value) : Bool :=
  entries.any fun entry => key.same entry.1

/-- Give a key the value computed from the one it has: a key that is there keeps its
place, any other one is added at the end. -/
def alter (entries : List (Value × Value)) (key : Value) (change : Option Value → Value) :
    List (Value × Value) :=
  match entries with
  | [] => [(key, change none)]
  | entry :: rest =>
      if key.same entry.1 then (entry.1, change (some entry.2)) :: rest
      else entry :: alter rest key change

/-- The value inside any tags. -/
def untag : Value → Value
  | tagged _ content => content.untag
  | value => value

/-- Whether a value is null, whatever its tags. -/
def isNull (value : Value) : Bool :=
  match value.untag with
  | null => true
  | _ => false

/-- A tag's text with one exclamation mark taken off, if something remains. -/
def tagName (text : String) : String :=
  match text.toList with
  | '!' :: char :: chars => String.ofList (char :: chars)
  | _ => text

@[simp] theorem untag_tagged (tag : String) (content : Value) :
    (tagged tag content).untag = content.untag := rfl

@[simp] theorem untag_map (entries : List (Value × Value)) :
    (map entries).untag = map entries := rfl

@[simp] theorem lookup?_nil (key : Value) : lookup? [] key = none := rfl

@[simp] theorem hasKey_nil (key : Value) : hasKey [] key = false := rfl

/-- A key is there exactly if it has a value. -/
theorem isSome_lookup? (entries : List (Value × Value)) (key : Value) :
    (lookup? entries key).isSome = hasKey entries key := by
  induction entries with
  | nil => rfl
  | cons entry rest inductionHypothesis =>
      by_cases equal : key.same entry.1 <;>
        simp_all [lookup?, hasKey]

end Value
end Yaml
end InstanceScripts
