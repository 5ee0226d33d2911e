import SuggestGateway.Bytes.Utf8
/-!
# HTTP messages

Requests as they reach the transport and responses as they come back. Header names compare
without regard to ASCII case; writing a header whose name is present replaces the name and
the value where the header stands.
-/
namespace SuggestGateway

abbrev Headers := List (String × String)

namespace Headers

/-- A header name in lower case, the form in which names compare. -/
def key (name : String) : String := name.toLower

def get? (hs : Headers) (name : String) : Option String :=
  (hs.find? fun h => key h.1 == key name).map (·.2)

/-- Write a header: in place of one with the same name, or at the end. -/
def set : Headers → String → String → Headers
  | [], n, v => [(n, v)]
  | (n', v') :: rest, n, v =>
    if key n' == key n then (n, v) :: rest else (n', v') :: set rest n v

/-- The headers built by writing the fields one after another. -/
def ofList (hs : List (String × String)) : Headers :=
  hs.foldl (fun acc h => set acc h.1 h.2) []

end Headers

/-- A request as it is handed to the transport. -/
structure Request where
  method : String
  url : String
  headers : Headers
  body : Option String
deriving DecidableEq, Repr

/-- A response as the transport hands it back. -/
structure Response where
  status : Int
  reason : String
  headers : Headers
  content : List UInt8
deriving DecidableEq, Repr

end SuggestGateway
