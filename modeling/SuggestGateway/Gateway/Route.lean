import SuggestGateway.Gateway.Validate
import SuggestGateway.Suggester.Build
import SuggestGateway.Service.Execute
/-!
# The HTTP gateway

Two endpoints: `GET /api/health-check` answers that the service runs, and `POST /api/suggest`
runs suggesters. A path is matched exactly, after its query is cut off and its escapes are
decoded; a path that matches only once its runs of slashes are merged is redirected (`308`),
another path is not found, and another method on a known path is not allowed (`HEAD` and
`OPTIONS` are allowed where `GET` is, `OPTIONS` everywhere). A `HEAD` answer has no body,
and neither has a redirect.

A suggest call reads its body as JSON only when its content type is JSON; a body that is not
JSON, or is false, counts as `{}`. An invalid payload or suggester is a `400` and sends
nothing. Otherwise the request is built and executed once: a status failure answers with the
search service's status when it is at least 400 and `502` otherwise, transport and decoding
failures with `502`, and any other failure with `500` and no body.
-/
namespace SuggestGateway

/-- A call to the gateway. -/
structure HttpRequest where
  method : String
  path : String
  contentType : Option String
  body : List UInt8
deriving Repr

/-- The gateway's answer, with the requests it handed to the transport and the dumps it wrote. -/
structure HttpAnswer where
  status : Int
  /-- The JSON body, `null` when there is none. -/
  json : Json
  sent : List Request
  dumps : List String
deriving Repr

/-- The endpoints. -/
inductive Endpoint where
  | health
  | suggest
deriving DecidableEq, Repr

namespace Endpoint

def ofPath? : String → Option Endpoint
  | "/api/health-check" => some .health
  | "/api/suggest" => some .suggest
  | _ => none

def methods : Endpoint → List String
  | health => ["GET", "HEAD", "OPTIONS"]
  | suggest => ["POST", "OPTIONS"]

end Endpoint

/-- The path of a request target: before any query or fragment and after any authority, with
escapes decoded and leading slashes made one. -/
def targetPath (target : String) : String :=
  let p := target.toList.takeWhile fun c => c != '?' && c != '#'
  let p := match p with
    | '/' :: '/' :: rest => rest.dropWhile (· != '/')
    | _ => p
  let p := (Utf8.decodeText (Url.unquoteBytes p)).toList
  String.ofList ('/' :: p.dropWhile (· == '/'))

def mergeSlashes (path : String) : String :=
  let rec go : List Char → List Char
    | '/' :: '/' :: rest => go ('/' :: rest)
    | c :: rest => c :: go rest
    | [] => []
  String.ofList (go path.toList)

/-- Whether a content type is JSON: `application/json` or `application/…+json`, without case
and parameters. -/
def isJsonType (contentType : String) : Bool :=
  let mime := ((contentType.splitOn ";").headD "").trimAscii.toString.toLower
  mime == "application/json" || (mime.startsWith "application/" && mime.endsWith "+json")

/-- The Unicode form of a JSON body, by its byte order mark or the zeros among its first
bytes. -/
def detectJsonCharset (bs : List UInt8) : Charset :=
  match bs with
  | 0 :: 0 :: 0xFE :: 0xFF :: _ | 0xFF :: 0xFE :: 0 :: 0 :: _ => .utf32 none
  | 0xFE :: 0xFF :: _ | 0xFF :: 0xFE :: _ => .utf16 none
  | 0xEF :: 0xBB :: 0xBF :: _ => .utf8Sig
  | a :: b :: c :: d :: _ =>
    if a == 0 then (if b == 0 then .utf32 (some .big) else .utf16 (some .big))
    else if b == 0 then (if c != 0 || d != 0 then .utf16 (some .little) else .utf32 (some .little))
    else .utf8
  | [a, b] => if a == 0 then .utf16 (some .big) else if b == 0 then .utf16 (some .little) else .utf8
  | _ => .utf8

/-- A request body read as JSON: its value, or `none` when it is not JSON. Arrays (`true`) or
objects (`false`) nested deeper than the reader follows are an error, which stops the call. -/
def readJsonBody (bs : List UInt8) : Except Bool (Option Json) :=
  match (detectJsonCharset bs).decodeStrict? bs with
  | none => .ok none
  | some t =>
    match Json.read t with
    | .ok v => .ok (some v)
    | .error ⟨.nestedTooDeep array, _, _, _⟩ => .error array
    | .error _ => .ok none

def HttpAnswer.plain (status : Int) (json : Json) : HttpAnswer := ⟨status, json, [], []⟩

def errorBody (kind message : String) : Json :=
  .obj [("error", .str kind), ("message", .str message)]

/-- The checks of a suggest payload, in order: the payload itself, then each suggester
description; the message of the first failure. -/
def checkPayload (r : Registry) (data : Json) : Except String (SuggestParams × List Suggester) := do
  let p ← (validatePayload data).mapError ValidationError.message
  let ss ← (p.suggesters.mapM (buildSuggester r)).mapError BuildError.message
  return (p, ss)

/-- The request builder that checked parameters configure: names, routing, preference, pretty,
debug, then the suggesters in order. -/
def SuggestParams.builder (p : SuggestParams) (ss : List Suggester) : Builder :=
  let b : Builder := {}
  let b := b.addIndices (p.indices.map .str)
  let b := b.addTypes (p.types.map .str)
  let b := b.setRouting (.str p.routing)
  let b := b.setPreference (.str p.preference)
  let b := b.setPretty (.bool p.pretty)
  let b := b.setDebug (.bool p.debug)
  ss.foldl Builder.addSuggester b

/-- The status and body that answer an execution's result: the suggestions, a search error, or
`500` without a body for any other failure. -/
def resultAnswer : Except ExecuteError SuggestResult → Int × Json
  | .ok result => (200, .obj [("success", .bool true), ("suggestions", result.toJson)])
  | .error (.status e) =>
    (if 400 ≤ e.status then e.status else 502, errorBody "search_error" e.message)
  | .error (.transport m) => (502, errorBody "transport_error" (transportMessage m))
  | .error (.decode .scoreTooLarge) => (500, .null)
  | .error (.decode (.nestedTooDeep _)) => (500, .null)
  | .error (.decode e) => (502, errorBody "decode_error" e.message)
  | .error _ => (500, .null)

/-- The answer to a suggest call whose payload is `data`. -/
def suggestAnswerFor (r : Registry) (c : Client) (o : Outcome) (data : Json) : HttpAnswer :=
  match checkPayload r data with
  | .error m => .plain 400 (errorBody "invalid_parameter" m)
  | .ok (p, ss) =>
    let run := (p.builder ss).execute c o
    let (status, json) := resultAnswer run.result
    ⟨status, json, run.sent, run.dumps⟩

/-- The payload of a suggest call: its body read as JSON when its content type is JSON. -/
def HttpRequest.payload (req : HttpRequest) : Except Bool (Option Json) :=
  match req.contentType with
  | some t => if isJsonType t then readJsonBody req.body else .ok none
  | none => .ok none

/-- The data a suggest call is answered for: its JSON payload, or `{}` for a body that is not
JSON or is false. A body nested too deep to be read is an error. -/
def HttpRequest.data (req : HttpRequest) : Except Bool Json :=
  match req.payload with
  | .error array => .error array
  | .ok (some v) => .ok (v.orElse (.obj []))
  | .ok none => .ok (.obj [])

def suggestAnswer (r : Registry) (c : Client) (o : Outcome) (req : HttpRequest) : HttpAnswer :=
  match req.data with
  | .error _ => .plain 500 .null
  | .ok data => suggestAnswerFor r c o data

/-- Where the gateway sends a call, by its method and path. -/
inductive Dispatch where
  /-- No endpoint has the path, even with its runs of slashes merged. -/
  | notFound
  /-- The path names an endpoint that takes the method once its runs of slashes are merged. -/
  | redirect (e : Endpoint)
  | notAllowed
  | options (e : Endpoint)
  | serve (e : Endpoint)
deriving DecidableEq, Repr

def dispatch (req : HttpRequest) : Dispatch :=
  let method := fullUpper req.method
  let path := targetPath req.path
  match Endpoint.ofPath? path with
  | none =>
    match Endpoint.ofPath? (mergeSlashes path) with
    | some e => if e.methods.contains method then .redirect e else .notAllowed
    | none => .notFound
  | some e =>
    if !e.methods.contains method then .notAllowed
    else if method == "OPTIONS" then .options e
    else .serve e

def handle (r : Registry) (c : Client) (o : Outcome) (req : HttpRequest) : HttpAnswer :=
  let a : HttpAnswer := match dispatch req with
    | .notFound =>
      .plain 404 (errorBody "not_found"
        "Endpoint not found. Try GET /api/health-check or POST /api/suggest")
    | .redirect _ => .plain 308 .null
    | .notAllowed =>
      .plain 405 (errorBody "method_not_allowed" "Method not allowed for this endpoint")
    | .options _ => .plain 200 .null
    | .serve .health =>
      .plain 200 (.obj [("status", .str "healthy"),
        ("message", .str "Search suggest API is running")])
    | .serve .suggest => suggestAnswer r c o req
  if fullUpper req.method == "HEAD" then { a with json := .null } else a

/-- What a suggest call with a payload hands the transport does not depend on what the
transport does. -/
theorem suggestAnswerFor_sent (r : Registry) (c : Client) (o o' : Outcome) (data : Json) :
    (suggestAnswerFor r c o data).sent = (suggestAnswerFor r c o' data).sent := by
  unfold suggestAnswerFor
  simp only
  split
  · rfl
  · simp only [Builder.execute_sent]

/-- What a suggest call hands the transport does not depend on what the transport does. -/
theorem suggestAnswer_sent (r : Registry) (c : Client) (o o' : Outcome) (req : HttpRequest) :
    (suggestAnswer r c o req).sent = (suggestAnswer r c o' req).sent := by
  unfold suggestAnswer
  cases req.data with
  | error _ => rfl
  | ok data => exact suggestAnswerFor_sent r c o o' data

/-- What the gateway hands the transport for a call does not depend on what the transport
does. -/
theorem handle_sent (r : Registry) (c : Client) (o o' : Outcome) (req : HttpRequest) :
    (handle r c o req).sent = (handle r c o' req).sent := by
  unfold handle
  simp only
  cases dispatch req with
  | serve e =>
    cases e with
    | health => rfl
    | suggest => split <;> simp only [suggestAnswer_sent r c o o' req]
  | _ => rfl

end SuggestGateway
