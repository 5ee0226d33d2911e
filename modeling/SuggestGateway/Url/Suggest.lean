import SuggestGateway.Url.Percent
import SuggestGateway.Json.Display
/-!
# Suggest URLs

The path and query of a suggest request. The path is `/`, the encoded index names joined by
commas, straight after them the encoded type names joined by commas, and `/_suggest`: the two
groups have no separator between them. The query holds `pretty=true` when pretty printing is
on, then the routing and the preference when they are not empty, each form-encoded; with
none of them it is empty, otherwise it starts with `?`.
-/
namespace SuggestGateway

/-- Why a name cannot be placed in a path: only texts can. -/
structure SegmentError where
  kind : Json.Kind
deriving DecidableEq, Repr

def SegmentError.message (_ : SegmentError) : String := "quote_from_bytes() expected bytes"

def Json.segment? : Json → Except SegmentError String
  | .str s => .ok (Percent.encodeSegment s)
  | v => .error ⟨v.kind⟩

def segmentGroup (names : List Json) : Except SegmentError String := do
  let parts ← names.mapM Json.segment?
  return ",".intercalate parts

/-- The path of a suggest request on the given indices and types. -/
def suggestPath (indices types : List Json) : Except SegmentError String := do
  let i ← segmentGroup indices
  let t ← segmentGroup types
  return "/" ++ i ++ t ++ "/_suggest"

/-- The parameters of a suggest request, in order: `pretty`, `routing`, `preference`, each
present only when its value is true; a value that is not text is shown as messages show it. -/
def queryParams (pretty routing preference : Json) : List (String × String) :=
  (if pretty.truthy then [("pretty", "true")] else []) ++
  (if routing.truthy then [("routing", routing.display)] else []) ++
  (if preference.truthy then [("preference", preference.display)] else [])

/-- Parameters as a query: empty without any, otherwise `?` and the form-encoded pairs joined
by `&`. -/
def renderQuery (params : List (String × String)) : String :=
  if params.isEmpty then ""
  else "?" ++ "&".intercalate (params.map fun p => Percent.encodeForm p.1 ++ "=" ++ Percent.encodeForm p.2)

def suggestQuery (pretty routing preference : Json) : String :=
  renderQuery (queryParams pretty routing preference)

end SuggestGateway
