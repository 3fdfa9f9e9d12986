import InstanceScripts.Json.Basic

/-!
# Scripts in metadata

Attributes declare a script of a type under two keys: one holds the script itself, the
other a URL to download it from.
-/

namespace InstanceScripts
namespace Script

/-- The types of scripts that every instance knows. -/
inductive WellKnown where
  | startup
  | shutdown
  deriving DecidableEq, Repr

/-- The name of a type. -/
def WellKnown.name : WellKnown → String
  | .startup => "startup"
  | .shutdown => "shutdown"

/-- How a script is declared. -/
inductive Kind where
  | inline
  | url
  deriving DecidableEq, Repr

/-- The key under which a script of a type is declared. -/
def Kind.metadataKey (kind : Kind) (scriptType : String) : String :=
  match kind with
  | .inline => scriptType ++ "-script"
  | .url => scriptType ++ "-script-url"

/-- Attributes by name. -/
abbrev Attributes := List (String × Json)

/-- The attributes of a scope in a metadata tree. -/
def scopeAttributes (tree : Json) (scope : String) : Option Attributes :=
  (tree.member? scope).bind fun within => (within.member? "attributes").bind Json.members?

/-- The text of an attribute, if there is any. -/
def attributeText (attributes : Attributes) (name : String) : Option String :=
  ((attributes.lookup name).bind Json.text?).filter (!·.isEmpty)

/-- What attributes declare for a type of scripts. -/
def declared (attributes : Attributes) (kind : Kind) (scriptType : String) : Option String :=
  attributeText attributes (kind.metadataKey scriptType)

end Script
end InstanceScripts
