import SuggestGateway.Json.Value
/-!
# Suggestions

What a search service answers for one suggester: a list of suggestions, each a matched span of
the input text with its candidate replacements. A result maps suggester names to their
suggestions in the order the response lists them. Each type has its JSON form, the one the
gateway answers with.
-/
namespace SuggestGateway

/-- One candidate of a suggestion, with its relevance score and corpus frequency. -/
structure Candidate where
  text : String
  score : Binary64
  freq : Int
deriving DecidableEq, Repr

/-- One matched span of the input text and its candidates. -/
structure Suggestion where
  text : String
  offset : Int
  length : Int
  candidates : List Candidate
deriving DecidableEq, Repr

/-- The suggestions of a response, by suggester name, in the response's order. -/
abbrev SuggestResult := List (String × List Suggestion)

namespace Candidate

def toJson (c : Candidate) : Json :=
  .obj [("text", .str c.text), ("score", .float c.score), ("freq", .int c.freq)]

end Candidate

namespace Suggestion

/-- The JSON form: `text`, `offset`, `length`, `options`. -/
def toJson (s : Suggestion) : Json :=
  .obj [("text", .str s.text), ("offset", .int s.offset), ("length", .int s.length),
    ("options", .arr (s.candidates.map Candidate.toJson))]

end Suggestion

/-- The JSON form of a result: an object from names to lists of suggestions. -/
def SuggestResult.toJson (r : SuggestResult) : Json :=
  .obj (r.map fun e => (e.1, .arr (e.2.map Suggestion.toJson)))

end SuggestGateway
