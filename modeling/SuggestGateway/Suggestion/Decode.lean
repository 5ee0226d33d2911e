import SuggestGateway.Suggestion.Basic
import SuggestGateway.Number.Rounding
import SuggestGateway.Json.Reader
/-!
# Decoding suggestions

A response is an object from suggester names to lists of suggestions; the member `_shards`
carries shard statistics and is skipped. Fields are read in a fixed order and the first
problem stops the decoding: of a suggestion `options`, `text`, `offset`, `length`, then its
options one by one; of an option `text`, `score`, `freq`. A missing or `null` field takes
its default, and a boolean is never a number. An integer score becomes the nearest double; one
too large for any double stops the whole decoding, apart from the other problems, which name
the suggester they arose under.
-/
namespace SuggestGateway

/-- Why a value is not a suggestion or an option. -/
inductive ShapeError where
  | suggestionNotObject
  | optionNotObject
  /-- A field holds a value of the wrong kind. -/
  | fieldType (key : String) (kind : Json.Kind)
  /-- An integer score has no double: its nearest one would be `2 ^ 1024` or more. -/
  | scoreTooLarge
deriving DecidableEq, Repr

/-- Why a response is not a result. -/
inductive DecodeError where
  | responseNotObject (kind : Json.Kind)
  | entryNotArray (name : String) (kind : Json.Kind)
  | invalidSuggestion (name : String) (cause : ShapeError)
  | scoreTooLarge
  /-- The body is not JSON text, for the reason given. -/
  | notJson (reason : String)
  /-- The body's arrays (`true`) or objects (`false`) nest deeper than a reader follows. -/
  | nestedTooDeep (array : Bool)
deriving DecidableEq, Repr

namespace ShapeError

def message : ShapeError → String
  | suggestionNotObject => "Suggestion must be a JSON object"
  | optionNotObject => "Suggestion option must be a JSON object"
  | fieldType key kind => "Field '" ++ key ++ "' has invalid type: " ++ kind.name
  | scoreTooLarge => "int too large to convert to float"

end ShapeError

namespace DecodeError

def message : DecodeError → String
  | responseNotObject kind => "Suggest response must be a JSON object, got " ++ kind.name
  | entryNotArray name kind =>
    "Suggestions for '" ++ name ++ "' must be a JSON array, got " ++ kind.name
  | invalidSuggestion name cause => "Invalid suggestion for '" ++ name ++ "': " ++ cause.message
  | scoreTooLarge => ShapeError.scoreTooLarge.message
  | notJson reason => "Suggest response is not valid JSON: " ++ reason
  | nestedTooDeep array => (ReadFailure.nestedTooDeep array).text

end DecodeError

/-- A field of an object: its default when missing or `null`, the value `take` accepts, or a
`fieldType` error naming the kind found. -/
def readField {α : Type} (members : List (String × Json)) (key : String)
    (take : Json → Option α) (default : α) : Except ShapeError α :=
  match Entries.get? members key with
  | none | some .null => .ok default
  | some v =>
    match take v with
    | some a => .ok a
    | none => .error (.fieldType key v.kind)

namespace Json

def asString? : Json → Option String
  | str s => some s
  | _ => none

def asInt? : Json → Option Int
  | int n => some n
  | _ => none

def asList? : Json → Option (List Json)
  | arr items => some items
  | _ => none

/-- A number as a score: a double as it is, an integer as its exact value. -/
inductive Score where
  | exact (n : Int)
  | double (x : Binary64)

def asScore? : Json → Option Score
  | int n => some (.exact n)
  | float x => some (.double x)
  | _ => none

/-- The double a score stands for: a double as it is, an integer as its nearest double, which
fails when the integer is too large for any. -/
def Score.toDouble : Score → Except ShapeError Binary64
  | .double x => .ok x
  | .exact n => (Binary64.ofInt? n).elim (.error .scoreTooLarge) .ok

end Json

namespace Candidate

def ofJson : Json → Except ShapeError Candidate
  | .obj members => do
    let text ← readField members "text" Json.asString? ""
    let score ← readField members "score" Json.asScore? (.double Binary64.zero)
    let score ← score.toDouble
    let freq ← readField members "freq" Json.asInt? 0
    return { text, score, freq }
  | _ => .error .optionNotObject

end Candidate

namespace Suggestion

def ofJson : Json → Except ShapeError Suggestion
  | .obj members => do
    let options ← readField members "options" Json.asList? []
    let text ← readField members "text" Json.asString? ""
    let offset ← readField members "offset" Json.asInt? 0
    let length ← readField members "length" Json.asInt? 0
    let candidates ← options.mapM Candidate.ofJson
    return { text, offset, length, candidates }
  | _ => .error .suggestionNotObject

end Suggestion

def decodeSuggestions (name : String) : Json → Except DecodeError (List Suggestion)
  | .arr items =>
    match items.mapM Suggestion.ofJson with
    | .ok ss => .ok ss
    | .error .scoreTooLarge => .error .scoreTooLarge
    | .error cause => .error (.invalidSuggestion name cause)
  | v => .error (.entryNotArray name v.kind)

/-- The member that carries shard statistics rather than suggestions. -/
def shardsKey : String := "_shards"

def decodeMembers : List (String × Json) → SuggestResult → Except DecodeError SuggestResult
  | [], acc => .ok acc
  | (name, v) :: rest, acc =>
    if name = shardsKey then decodeMembers rest acc
    else do
      let ss ← decodeSuggestions name v
      decodeMembers rest (Entries.set acc name ss)

def decodeResponse : Json → Except DecodeError SuggestResult
  | .obj members => decodeMembers members []
  | v => .error (.responseNotObject v.kind)

end SuggestGateway
