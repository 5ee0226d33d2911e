import SuggestGateway.Json.Value
/-!
# Suggesters

A suggester is one named fragment of a suggest request: a text to suggest for and the options
of its family. A term suggester proposes corrections term by term; a completion suggester
completes a prefix against a completion field. Setters store their values as given: the
text, where `null` unsets it, and each option by name, in place when it is already set. The
completion suggester's `fuzzy` takes `true` as default fuzziness, `false` as none, and any
other value as an explicit fuzziness.
-/
namespace SuggestGateway

/-- The kinds of suggestion a search service runs. -/
inductive Family where
  | term
  | completion
deriving DecidableEq, Repr

namespace Family

def options : Family → List String
  | term => ["text", "field", "analyzer", "size", "shard_size", "suggest_mode", "sort",
      "min_word_length", "max_edits"]
  | completion => ["text", "field", "size", "fuzzy"]

def key : Family → String
  | term => "term"
  | completion => "completion"

end Family

/-- A named fragment of a suggest request. -/
structure Suggester where
  family : Family
  name : String
  /-- The text to suggest for; `null` when unset. -/
  text : Json := .null
  /-- The options set so far, in the order they were first set. -/
  options : List (String × Json) := []
deriving Repr

namespace Suggester

def empty (family : Family) (name : String) : Suggester := { family, name }

def hasSetter (s : Suggester) (setter : String) : Bool := s.family.options.contains setter

/-- Call a setter. The caller checks `hasSetter` first; a name without a setter writes an
option of that name. -/
def call (s : Suggester) (setter : String) (v : Json) : Suggester :=
  if setter = "text" then { s with text := v }
  else if s.family = .completion ∧ setter = "fuzzy" then
    match v with
    | .bool true => { s with options := Entries.set s.options "fuzzy" (.obj []) }
    | .bool false => { s with options := Entries.erase s.options "fuzzy" }
    | v => { s with options := Entries.set s.options "fuzzy" (.obj [("fuzziness", v)]) }
  else { s with options := Entries.set s.options setter v }

/-- The body: the text when it is set, then the options under the family's key. -/
def body (s : Suggester) : Json :=
  .obj ((match s.text with | .null => [] | t => [("text", t)]) ++
    [(s.family.key, .obj s.options)])

/-- The request body of a suggester: its body, or with metadata the body under the
suggester's name. -/
def requestBody (s : Suggester) (withMetadata : Bool) : Json :=
  if withMetadata then .obj [(s.name, s.body)] else s.body

end Suggester

end SuggestGateway
