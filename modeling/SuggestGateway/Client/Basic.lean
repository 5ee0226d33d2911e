import SuggestGateway.Client.Settings
import SuggestGateway.Url.Netloc
import SuggestGateway.Json.Writer
import SuggestGateway.Http.Content
import SuggestGateway.Bytes.Base64
import SuggestGateway.Text.Case
/-!
# The search client

A client knows the service's base URL, the token it shows and its timeout; explicit values
win over the environment's. It prepares requests: the method in upper case, the URL
prepared from the base and the path, the session headers (`Authorization` when there is a
token, then `Accept`), and for a JSON body its text, its length and its type. The prepared URL
must also pass the standard split. A body without
a length header gets `Content-Length: 0` unless the method is `GET` or `HEAD`. Credentials in
the URL become a basic `Authorization` header. A response passes its status check when the
status is 2xx; otherwise the check reports the service's own error text when the body gives
one.
-/
namespace SuggestGateway

/-- A client of the search service. -/
structure Client where
  base : String
  token : Option String
  /-- The timeout as configured: an explicit true value, or the environment's. -/
  timeout : Json
deriving Repr

def dropTrailingSlashes (s : String) : String :=
  String.ofList (s.toList.reverse.dropWhile (· == '/')).reverse

/-- Why a request cannot be prepared. -/
inductive RequestError where
  | url (e : Url.PrepareError)
  /-- A header value starts with a blank or holds a line break. -/
  | headerValue (value : String)
  /-- The body holds an infinite or NaN double, which JSON cannot carry. -/
  | nonFiniteBody
  /-- The standard split refuses the prepared URL. -/
  | split (e : Url.SplitError)
  /-- A credential in the URL has characters beyond Latin-1: the first of them, and the run
  of positions from `start` up to `stop` that they fill. -/
  | credential (c : Char) (start stop : Nat)
deriving DecidableEq, Repr

namespace RequestError

def message : RequestError → String
  | url e => e.message
  | headerValue v =>
    "Invalid leading whitespace, reserved character(s), or return character(s) in header value: " ++
      textLiteral v
  | nonFiniteBody => "Out of range float values are not JSON compliant"
  | split e => e.message
  | credential c start stop =>
    let n := c.toNat
    let shown := if n ≤ 0xffff then "\\u" ++ hexWidth 4 n else "\\U" ++ hexWidth 8 n
    if stop == start + 1 then
      "'latin-1' codec can't encode character '" ++ shown ++ "' in position " ++
        toString start ++ ": ordinal not in range(256)"
    else
      "'latin-1' codec can't encode characters in position " ++ toString start ++ "-" ++
        toString (stop - 1) ++ ": ordinal not in range(256)"

end RequestError

/-- Whether a header value is acceptable: apart from one final line feed, which the end of the
pattern lets through, empty, or starting with a non-blank and holding no line break. -/
def validHeaderValue (v : String) : Bool :=
  let cs := if v.toList.getLast? = some '\n' then v.toList.dropLast else v.toList
  match cs with
  | [] => true
  | c :: _ => !isBlank c && !cs.any fun d => d == '\r' || d == '\n'

section ExceptSteps

variable {ε ε' α β : Type}

/-- A chain of steps that succeeds went through its first step. -/
theorem bind_eq_ok {x : Except ε α} {f : α → Except ε β} {b : β} (h : x >>= f = .ok b) :
    ∃ a, x = .ok a ∧ f a = .ok b := by
  cases x with
  | error e => cases h
  | ok a => exact ⟨a, rfl, h⟩

theorem mapError_eq_ok {x : Except ε α} {f : ε → ε'} {a : α} (h : x.mapError f = .ok a) :
    x = .ok a := by
  cases x with
  | error e => cases h
  | ok a' => cases h; rfl

end ExceptSteps

namespace Client

/-- A client from explicit settings, each falling back to the environment when it is unset
or false. -/
def create (env : Environment) (baseUrl token : Option String) (timeout : Json) : Client :=
  let pick := fun (v : Option String) => v.bind fun s => if s.isEmpty then none else some s
  { base := dropTrailingSlashes ((pick baseUrl).getD env.apiRoot),
    token := (pick token).orElse fun _ => env.apiToken,
    timeout := if timeout.truthy then timeout else .float env.timeout }

/-- The timeout in whole milliseconds, for a transport that counts them; an infinite or NaN
timeout waits a day. -/
def timeoutMillis (c : Client) : Nat :=
  match c.timeout with
  | .float x => if x.isFinite then x.units * 1000 / Nat.pow 2 1074 else 86400000
  | .int n => n.toNat * 1000
  | _ => 10000

def sessionHeaders (c : Client) : Headers :=
  (match c.token with
    | some t => [("Authorization", "Bearer " ++ t)]
    | none => []) ++ [("Accept", "application/json")]

/-- The bytes of a credential as Latin-1, or the first run of characters beyond it: its first
character and the positions it spans. -/
def latin1Bytes (s : String) : Except (Char × Nat × Nat) (List UInt8) :=
  let cs := s.toList
  match cs.findIdx? (256 ≤ ·.toNat) with
  | some i =>
    let run := (cs.drop i).takeWhile (256 ≤ ·.toNat)
    .error (cs.getD i ' ', i, i + run.length)
  | none => .ok (cs.map fun c => c.toNat.toUInt8)

/-- The headers and text a body adds to a request. A `null` body adds no text, and a length of
zero unless the method is `GET` or `HEAD`; any other body adds its JSON text, its length in
bytes and its type, and one holding an infinite or NaN number is refused. -/
def prepareBody (method : String) (headers : Headers) :
    Json → Except RequestError (Headers × Option String)
  | .null =>
    pure (if method == "GET" || method == "HEAD" then headers
      else headers.set "Content-Length" "0", none)
  | b =>
    if !b.allFinite then throw .nonFiniteBody
    else
      let t := b.write
      pure (((headers.set "Content-Length" (toString (Utf8.encode t).length)).set
        "Content-Type" "application/json"), some t)

/-- A body other than `null` is prepared only when its numbers are finite, and then as its
JSON text. -/
theorem prepareBody_eq_ok {m : String} {hs hs' : Headers} {body : Json} {text : Option String}
    (h : prepareBody m hs body = .ok (hs', text)) (hb : body ≠ .null) :
    body.allFinite = true ∧ text = some body.write := by
  unfold prepareBody at h
  split at h
  · exact absurd rfl hb
  · split at h
    · cases h
    · rename_i hfinite
      obtain ⟨-, rfl⟩ := Prod.mk.inj (Except.ok.inj h)
      simpa using hfinite

/-- The headers after the credentials a URL names: a basic `Authorization` header when it
names a user or a password, which must both be Latin-1. -/
def prepareAuth (url : String) (headers : Headers) : Except RequestError Headers :=
  match Url.credentials url with
  | some (user, password) =>
    if user.isEmpty && password.isEmpty then pure headers
    else do
      let u ← (latin1Bytes user).mapError fun (c, i, j) => RequestError.credential c i j
      let p ← (latin1Bytes password).mapError fun (c, i, j) => RequestError.credential c i j
      pure (headers.set "Authorization"
        ("Basic " ++ String.ofList (Base64.encode (u ++ [58] ++ p))))
  | none => pure headers

/-- Prepare a request for `base ++ path`, with a JSON body unless it is `null`. -/
def newRequest (c : Client) (method path : String) (body : Json) : Except RequestError Request := do
  let method := fullUpper (fullUpper method)
  let url ← (Url.prepare (c.base ++ path)).mapError .url
  let headers := Headers.ofList c.sessionHeaders
  for h in headers do
    if !validHeaderValue h.2 then throw (.headerValue h.2)
  (Url.checkSplit url).mapError .split
  let (headers, text) ← prepareBody method headers body
  let headers ← prepareAuth url headers
  return { method, url, headers, body := text }

/-- A prepared request is the upper-cased method, the prepared URL, and the headers and text
that the body and the credentials give, each step having succeeded. -/
theorem newRequest_eq_ok {c : Client} {m p : String} {body : Json} {req : Request}
    (h : c.newRequest m p body = .ok req) :
    req.method = fullUpper (fullUpper m) ∧ Url.prepare (c.base ++ p) = .ok req.url ∧
      ∃ hs, prepareBody req.method (Headers.ofList c.sessionHeaders) body = .ok (hs, req.body) ∧
        prepareAuth req.url hs = .ok req.headers := by
  unfold newRequest at h
  obtain ⟨url, hurl, h⟩ := bind_eq_ok h
  obtain ⟨_, -, h⟩ := bind_eq_ok h
  obtain ⟨_, -, h⟩ := bind_eq_ok h
  obtain ⟨⟨hs, text⟩, hbody, h⟩ := bind_eq_ok h
  obtain ⟨hs', hauth, h⟩ := bind_eq_ok h
  obtain rfl := Except.ok.inj h
  exact ⟨rfl, mapError_eq_ok hurl, hs, hbody, hauth⟩

end Client

/-- A response whose status is not 2xx. -/
structure StatusError where
  status : Int
  message : String
deriving DecidableEq, Repr

/-- Why a response does not pass its check. -/
inductive CheckError where
  | status (e : StatusError)
  /-- Reading the body for the service's error text met arrays (`true`) or objects (`false`)
  nested deeper than a reader follows. -/
  | nestedTooDeep (array : Bool)
deriving DecidableEq, Repr

/-- The text a failed status is reported with: the service's `error` member when the body is a
JSON object with a true one (of an object error, its true `reason`, else its true `type`),
and `Search API error: <status>` otherwise; or the nesting that stops the reading of the
body. -/
def statusMessage (r : Response) : Except Bool String :=
  let generic := "Search API error: " ++ toString r.status
  match r.json with
  | .ok (.obj members) =>
    match Entries.get? members "error" with
    | some e =>
      if !e.truthy then .ok generic
      else
        match e with
        | .obj _ => .ok ((e.getD "reason" .null).orElse ((e.getD "type" .null).orElse
            (.str generic))).display
        | _ => .ok e.display
    | none => .ok generic
  | .ok _ => .ok generic
  | .error e =>
    match e.nesting? with
    | some array => .error array
    | none => .ok generic

def checkResponse (r : Response) : Except CheckError Unit :=
  if 200 ≤ r.status && r.status < 300 then .ok ()
  else
    match statusMessage r with
    | .ok m => .error (.status ⟨r.status, m⟩)
    | .error array => .error (.nestedTooDeep array)

end SuggestGateway
