import InstanceScripts.Yaml.Value

/-!
# Merging YAML values

A later value overrides an earlier one.  Mappings merge entry by entry, and null
overrides nothing.
-/

namespace InstanceScripts
namespace Yaml
namespace Value

mutual

/-- Lay one value over another. -/
def merge : (base overlay : Value) → Value
  | map entries, map overlay => map (mergeEntries entries overlay)
  | base, null => base
  | _, overlay => overlay

/-- Lay entries over those of a mapping, one after the other. -/
def mergeEntries : (entries overlay : List (Value × Value)) → List (Value × Value)
  | entries, [] => entries
  | entries, (key, value) :: overlay =>
      let merged (held : Option Value) : Value :=
        match held with
        | some held => merge held value
        | none => value
      mergeEntries (alter entries key merged) overlay

end

/-- Lay values over each other in order. -/
def mergeAll (values : List Value) : Value :=
  values.foldl merge null

end Value
end Yaml
end InstanceScripts
