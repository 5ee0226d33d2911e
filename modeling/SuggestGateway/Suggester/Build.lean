import SuggestGateway.Suggester.Registry
import SuggestGateway.Json.Display
/-!
# Building suggesters from descriptions

A description such as `{"kind": "term", "name": "fix", "text": "serch", "field": "body"}`
becomes a suggester. The checks run in a fixed order and the first failure is reported: the
kind (`term` when absent) is a text; the name is a non-empty text; the kind is registered;
then every other member, in order, names a setter of the suggester, which is called with the
member's value.
-/
namespace SuggestGateway

/-- Why a description is not a suggester. -/
inductive BuildError where
  | notObject (kind : Json.Kind)
  | kindNotText (kind : Json)
  | badName
  | unknownKind (kind : String)
  | unknownOption (key kind : String)
deriving Repr

namespace BuildError

def message : BuildError → String
  | notObject k => "'" ++ k.name ++ "' object has no attribute 'get'"
  | kindNotText k => "Unknown suggester kind: " ++ k.display
  | badName => "Suggester 'name' must be a non-empty string"
  | unknownKind k => "Unknown suggester kind: " ++ k
  | unknownOption key kind => "Unknown option '" ++ key ++ "' for " ++ kind ++ " suggester"

end BuildError

/-- The members of a description that are not `kind` or `name`. -/
def settingMembers (members : List (String × Json)) : List (String × Json) :=
  members.filter fun m => m.1 != "kind" && m.1 != "name"

/-- Call the setters named by the members, in order; the first name without a setter fails. -/
def applySettings (kind : String) : Suggester → List (String × Json) → Except BuildError Suggester
  | s, [] => .ok s
  | s, (k, v) :: rest =>
    if s.hasSetter k then applySettings kind (s.call k v) rest
    else .error (.unknownOption k kind)

/-- The suggester a description stands for, under a registry. -/
def buildSuggester (r : Registry) (payload : Json) : Except BuildError Suggester :=
  match payload with
  | .obj members =>
    match (Entries.get? members "kind").getD (.str "term") with
    | .str kind =>
      match Entries.get? members "name" with
      | some (.str name) =>
        if name.isEmpty then .error .badName
        else
          match r.create kind name with
          | .error _ => .error (.unknownKind kind)
          | .ok s => applySettings kind s (settingMembers members)
      | _ => .error .badName
    | k => .error (.kindNotText k)
  | v => .error (.notObject v.kind)

end SuggestGateway
