import SuggestGateway.Json.Value
/-!
# Validating suggest payloads

The body of a suggest call, checked in a fixed order with the first failure reported: it is
an object; `suggesters` is a non-empty list; each suggester is an object; `indices`, then
`types`, are absent or lists of non-empty texts; `routing`, then `preference`, are absent,
false or texts; `pretty`, then `debug`, are absent or booleans.
-/
namespace SuggestGateway

/-- A validated suggest payload. -/
structure SuggestParams where
  indices : List String
  types : List String
  /-- The routing, empty when the payload gives a false value. -/
  routing : String
  preference : String
  pretty : Bool
  debug : Bool
  suggesters : List Json
deriving Repr

/-- Why a payload is refused. -/
inductive ValidationError where
  | notObject
  | noSuggesters
  | suggesterNotObject
  | notNameList (field : String)
  | notText (field : String)
  | notFlag (field : String)
deriving DecidableEq, Repr

namespace ValidationError

def message : ValidationError → String
  | notObject => "Request body must be a JSON object"
  | noSuggesters => "Field 'suggesters' must be a non-empty list"
  | suggesterNotObject => "Each suggester must be an object"
  | notNameList f => "Field '" ++ f ++ "' must be a list of non-empty strings"
  | notText f => "Field '" ++ f ++ "' must be a string"
  | notFlag f => "Field '" ++ f ++ "' must be a boolean"

end ValidationError

def Json.name? : Json → Option String
  | .str s => if s.isEmpty then none else some s
  | _ => none

def nameList (members : List (String × Json)) (field : String) :
    Except ValidationError (List String) :=
  match (Entries.get? members field).getD (.arr []) with
  | .arr items =>
    match items.mapM Json.name? with
    | some names => .ok names
    | none => .error (.notNameList field)
  | _ => .error (.notNameList field)

def textField (members : List (String × Json)) (field : String) : Except ValidationError String :=
  match ((Entries.get? members field).getD .null).orElse (.str "") with
  | .str s => .ok s
  | _ => .error (.notText field)

def flagField (members : List (String × Json)) (field : String) : Except ValidationError Bool :=
  match (Entries.get? members field).getD (.bool false) with
  | .bool b => .ok b
  | _ => .error (.notFlag field)

def Json.isObject : Json → Bool
  | .obj _ => true
  | _ => false

def validatePayload : Json → Except ValidationError SuggestParams
  | .obj members => do
    let suggesters ← match Entries.get? members "suggesters" with
      | some (.arr (s :: ss)) => pure (s :: ss)
      | _ => throw .noSuggesters
    if !suggesters.all Json.isObject then throw .suggesterNotObject
    let indices ← nameList members "indices"
    let types ← nameList members "types"
    let routing ← textField members "routing"
    let preference ← textField members "preference"
    let pretty ← flagField members "pretty"
    let debug ← flagField members "debug"
    return { indices, types, routing, preference, pretty, debug, suggesters }
  | _ => .error .notObject

def SuggestParams.toJson (p : SuggestParams) : Json :=
  .obj [("indices", .arr (p.indices.map .str)), ("types", .arr (p.types.map .str)),
    ("routing", .str p.routing), ("preference", .str p.preference), ("pretty", .bool p.pretty),
    ("debug", .bool p.debug), ("suggesters", .arr p.suggesters)]

end SuggestGateway
