import InstanceScripts.Json.Basic
import InstanceScripts.Log

/-!
# Access tokens

The value of an `Authorization` header, made from the metadata server's answer to the
question for the service account's token.
-/

namespace InstanceScripts
namespace Token

/-- The key of the default service account's token. -/
def metadataKey : String :=
  "instance/service-accounts/default/token"

/-- The text of a member; a member that is no text counts as empty. -/
def memberText (members : List (String × Json)) (name : String) : String :=
  ((members.lookup name).bind Json.text?).getD ""

/-- The token in an answer: its type, a space and the token itself.  An empty answer
holds none, and one that is not an object is worth a warning unless it is empty. -/
def compose (answer : Json) : Option String × List Log.Line :=
  match answer with
  | .obj [] => (none, [])
  | .obj members =>
      (some (memberText members "token_type" ++ " " ++ memberText members "access_token"), [])
  | .null => (none, [])
  | .str "" => (none, [])
  | _ => (none, [.warn "Unexpected authentication token response format."])

end Token
end InstanceScripts
