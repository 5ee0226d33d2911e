import SuggestGateway.Url.Host
import SuggestGateway.Text.Blank
import SuggestGateway.Text.Alnum
/-!
# Preparing request URLs

The URL a request is sent to, from the URL it was made with. Leading blanks go. A URL with a
colon whose scheme is not `http…` is sent as it is. Any other is split into scheme, user
information, host, port, path, query and fragment; the host and port must be well formed, the
port at most 65535, and the URL needs a scheme and a host. For the schemes `http` and `https`
the host is normalized (see `Url.normalizeHost`), `.` and `..` segments are removed from the
path as RFC 3986 section 5.2.4 says, and characters that may not stand in a part are
percent-encoded. For other schemes a host with characters beyond ASCII is mapped and encoded
as an internationalized name. The URL is then put together again, with `/` for an empty path,
and quoted once more: escapes of unreserved characters are decoded, and every character that
is neither reserved nor unreserved is escaped.
-/
namespace SuggestGateway

namespace Url

/-- Why a URL cannot be prepared. -/
inductive PrepareError where
  | missingScheme (url : String)
  | missingHost (url : String)
  /-- The host starts with `*` or `.`, or is not a valid internationalized name. -/
  | invalidLabel
  | unparsable (url : String)
  /-- The host and port do not have the form of a host and a port. -/
  | badHostPort (hostPort : String)
  | host (e : HostError)
deriving DecidableEq, Repr

def PrepareError.message : PrepareError → String
  | .missingScheme url =>
    "Invalid URL " ++ textLiteral url ++ ": No scheme supplied. Perhaps you meant https://" ++
      url ++ "?"
  | .missingHost url => "Invalid URL " ++ textLiteral url ++ ": No host supplied"
  | .invalidLabel => "URL has an invalid label."
  | .unparsable url => "Failed to parse: " ++ url
  | .badHostPort hp => "Failed to parse: " ++ textLiteral hp ++ " is not a valid host or port"
  | .host e => "Failed to parse: " ++ e.message

/-- The parts of a URL. -/
structure Parts where
  scheme : Option String
  authority : Option String
  path : String
  query : Option String
  fragment : Option String
deriving DecidableEq, Repr

def isAsciiLetter (c : Char) : Bool := ('a' ≤ c && c ≤ 'z') || ('A' ≤ c && c ≤ 'Z')

def isAsciiDigit (c : Char) : Bool := '0' ≤ c && c ≤ '9'

/-- The scheme at the front of a URL, and the rest after its colon. -/
def splitScheme (cs : List Char) (more : Char → Bool) : Option (String × List Char) :=
  match cs with
  | c :: rest =>
    if isAsciiLetter c then
      let body := rest.takeWhile fun d => isAsciiLetter d || isAsciiDigit d || more d
      match rest.drop body.length with
      | ':' :: after => some (String.ofList (c :: body), after)
      | _ => none
    else none
  | [] => none

/-- Split a URL into its parts. A URL that does not start with a scheme or a slash is read as
an authority. -/
def split (url : String) : Parts :=
  let cs := url.toList
  let cs := if (splitScheme cs (fun d => d == '+' || d == '-')).isSome || cs.head? == some '/'
    then cs else '/' :: '/' :: cs
  let (scheme, rest) := match splitScheme cs (fun d => d == '+' || d == '-' || d == '.') with
    | some (s, r) => (some s, r)
    | none => (none, cs)
  let (authority, rest) : Option String × List Char := match rest with
    | '/' :: '/' :: r =>
      let a := r.takeWhile fun c => c != '\\' && c != '/' && c != '?' && c != '#'
      (some (String.ofList a), r.drop a.length)
    | r => (none, r)
  let path := rest.takeWhile fun c => c != '?' && c != '#'
  let rest := rest.drop path.length
  let (query, rest) : Option String × List Char := match rest with
    | '?' :: r =>
      let q := r.takeWhile (· != '#')
      (some (String.ofList q), r.drop q.length)
    | r => (none, r)
  let fragment := match rest with
    | '#' :: r => some (String.ofList r)
    | _ => none
  { scheme, authority, path := String.ofList path, query, fragment }

/-- The port text after a colon, as the port it names: empty for none, otherwise digits whose
value, leading zeros aside, has at most five digits. -/
def readPort (cs : List Char) : Option (Option Nat) :=
  if cs.isEmpty then some none
  else if !cs.all isAsciiDigit then none
  else
    let significant := cs.dropWhile (· == '0')
    if 5 < significant.length then none
    else some (some (significant.foldl (fun n d => 10 * n + (d.toNat - '0'.toNat)) 0))

/-- The host and port of the part of an authority after its user information: a well-formed
host, then nothing or a colon and a port. -/
def splitHostPort (hostPort : List Char) : Option (List Char × Option Nat) :=
  let host := match hostPort with
    | '[' :: _ => hostPort.take ((hostPort.takeWhile (· != ']')).length + 1)
    | _ => hostPort.takeWhile (· != ':')
  if !isWellFormedHost host then none
  else
    match hostPort.drop host.length with
    | [] => some (host, none)
    | ':' :: p => (readPort p).map fun port => (host, port)
    | _ => none

/-- User information and the rest of an authority: the user information is what stands
before the last `@`, and an empty one is none. -/
def splitUserinfo (a : String) : Option String × List Char :=
  let cs := a.toList
  match (cs.zipIdx.filter (·.1 == '@')).getLast? with
  | some (_, i) => (if i = 0 then none else some (String.ofList (cs.take i)), cs.drop (i + 1))
  | none => (none, cs)

/-- The path without `.` and `..` segments, as RFC 3986 section 5.2.4 removes them. -/
def removeDotSegments (path : String) : String :=
  let cs := path.toList
  let segments := (cs.splitOn '/').map String.ofList
  let output := segments.foldl (fun out s =>
    if s == "." then out
    else if s == ".." then out.dropLast
    else out ++ [s]) []
  let output := if cs.head? == some '/' && (output.head?.map (!·.isEmpty)).getD true
    then "" :: output else output
  let output := if "/.".toList.isSuffixOf cs || "/..".toList.isSuffixOf cs then output ++ [""]
    else output
  "/".intercalate output

/-- The characters that may stand in user information. -/
def isUserinfoChar (c : Char) : Bool :=
  Percent.isUnreserved c || "!$&'()*+,;=:".toList.contains c

def isPathChar (c : Char) : Bool := isUserinfoChar c || c == '@' || c == '/'

/-- The characters that may stand in a query or fragment. -/
def isQueryChar (c : Char) : Bool := isPathChar c || c == '?'

/-- Upper-case the hex digits of the escapes of a text, counting the escapes. -/
def upperEscapes : List Char → List Char × Nat
  | '%' :: a :: b :: rest =>
    if (Percent.hexValue? a).isSome && (Percent.hexValue? b).isSome then
      let (r, n) := upperEscapes rest
      ('%' :: a.toUpper :: b.toUpper :: r, n + 1)
    else
      let (r, n) := upperEscapes (a :: b :: rest)
      ('%' :: r, n)
  | c :: rest =>
    let (r, n) := upperEscapes rest
    (c :: r, n)
  | [] => ([], 0)

/-- A part with the characters it may not hold escaped. Its `%` signs stay when every one of
them starts an escape, and are escaped otherwise. -/
def encodeInvalid (allowed : Char → Bool) (s : String) : String :=
  let (cs, escapes) := upperEscapes s.toList
  let keepPercent := escapes == cs.count '%'
  String.ofList (cs.flatMap fun c =>
    if (keepPercent && c == '%') || (c.toNat < 128 && allowed c) then [c]
    else (Utf8.encodeChar c).flatMap Percent.escapeByte)

/-- The characters a prepared URL keeps besides the unreserved ones. -/
def reservedChars : List Char := "!#$%&'()*+,/:;=?@[]~".toList

/-- Decode the escapes of unreserved characters; `none` when an escape is two letters or
numbers that do not both read as hex digits. Digits of any script read as their values. -/
def decodeUnreserved : List Char → Option (List Char)
  | '%' :: a :: b :: rest =>
    if isAlnumChar a && isAlnumChar b then
      match hexDigitValue? a, hexDigitValue? b with
      | some x, some y =>
        let c := Char.ofNat (16 * x + y)
        if Percent.isUnreserved c then (decodeUnreserved rest).map (c :: ·)
        else (decodeUnreserved rest).map (['%', a, b] ++ ·)
      | _, _ => none
    else (decodeUnreserved (a :: b :: rest)).map ('%' :: ·)
  | c :: rest => (decodeUnreserved rest).map (c :: ·)
  | [] => some []

/-- The bytes of a text whose `%XX` escapes stand for bytes; a `%` that starts no escape
stands for itself. -/
def unquoteBytes : List Char → List UInt8
  | '%' :: a :: b :: rest =>
    match Percent.hexValue? a, Percent.hexValue? b with
    | some x, some y => (16 * x + y).toUInt8 :: unquoteBytes rest
    | _, _ => 37 :: unquoteBytes (a :: b :: rest)
  | c :: rest => Utf8.encodeChar c ++ unquoteBytes rest
  | [] => []

/-- Quote a whole URL once more: decoded unreserved escapes, and every character that is not
reserved or unreserved escaped. When an escape is malformed, `%` is escaped too. -/
def requote (url : String) : String :=
  match decodeUnreserved url.toList with
  | some cs => Percent.encode reservedChars (String.ofList cs)
  | none => Percent.encode (reservedChars.erase '%') url

/-- The parts of an authority: user information, host and port. -/
structure Authority where
  userinfo : Option String
  host : String
  port : Option Nat

/-- Split an authority into its parts, refusing a host and port of the wrong form and a port
beyond 65535. -/
def readAuthority (url : String) (a : String) : Except PrepareError Authority := do
  let (userinfo, hostPort) := splitUserinfo a
  match splitHostPort hostPort with
  | none => throw (.badHostPort (String.ofList hostPort))
  | some (host, port) =>
    if (port.getD 0) > 65535 then throw (.unparsable url)
    return ⟨userinfo, String.ofList host, port⟩

def asciiLower (s : String) : String := String.ofList (s.toList.map Char.toLower)

/-- The user information, host and port of an authority; none for a URL without one or with
an empty one. `url` names the URL in errors. -/
def authorityParts (url : String) : Option String → Except PrepareError (Option Authority)
  | some a => if a.isEmpty then pure none else some <$> readAuthority url a
  | none => pure none

/-- The host as it is prepared: normalized when `normalize` is set and it is not empty. -/
def normalizedHost (normalize : Bool) : Option Authority → Except PrepareError (Option String)
  | some a =>
    if normalize && !a.host.isEmpty then some <$> (normalizeHost a.host).mapError .host
    else pure (some a.host)
  | none => pure none

def requireScheme (url : String) : Option String → Except PrepareError String
  | some s => pure s
  | none => throw (.missingScheme url)

/-- The host, which a URL must have and which must not be empty. -/
def requireHost (url : String) : Option String → Except PrepareError String
  | some h => if h.isEmpty then throw (.missingHost url) else pure h
  | none => throw (.missingHost url)

/-- An ASCII host as it is, refused when it starts with `*` or `.`; any other encoded as an
internationalized name. -/
def encodeHost (host : String) : Except PrepareError String :=
  if host.toList.all (·.toNat < 128) then
    if host.toList.head? == some '*' || host.toList.head? == some '.' then throw .invalidLabel
    else pure host
  else
    match Idna.encodeMapped? host.toList with
    | some h => pure h
    | none => throw .invalidLabel

/-- The scheme and network location of a prepared URL, from the scheme and authority it was
split into: the authority must be well formed, and the URL needs a scheme and a host. With
`normalize` the host is normalized and the user information escaped. `url` names the URL in
errors. -/
def prepareOrigin (url : String) (normalize : Bool) (scheme authority : Option String) :
    Except PrepareError (String × String) := do
  let parts ← authorityParts url authority
  let host ← normalizedHost normalize parts
  let scheme ← requireScheme url (scheme.map asciiLower)
  let host ← requireHost url host
  let host ← encodeHost host
  let auth := if normalize then (parts.bind (·.userinfo)).map (encodeInvalid isUserinfoChar)
    else parts.bind (·.userinfo)
  let port := parts.bind (·.port)
  let netloc := (match auth with | some a => a ++ "@" | none => "") ++ host ++
    (match port with | some n => if n == 0 then "" else ":" ++ toString n | none => "")
  return (scheme, netloc)

/-- The path, query and fragment of a prepared URL. With `normalize` the path loses its dot
segments and each part has the characters it may not hold escaped. An empty path is `/`. -/
def prepareTail (normalize : Bool) (p : Parts) : String :=
  let path := if normalize && !p.path.isEmpty
    then encodeInvalid isPathChar (removeDotSegments p.path) else p.path
  let query := if normalize then p.query.map (encodeInvalid isQueryChar) else p.query
  let fragment := if normalize then p.fragment.map (encodeInvalid isQueryChar) else p.fragment
  (if path.isEmpty then "/" else path) ++
    (match query with | some q => if q.isEmpty then "" else "?" ++ q | none => "") ++
    (match fragment with | some f => if f.isEmpty then "" else "#" ++ f | none => "")

def prepare (url : String) : Except PrepareError String := do
  let url := stripStart url
  if url.toList.contains ':' && !"http".toList.isPrefixOf (fullLower url).toList then return url
  let p := split url
  let normalize := match p.scheme with
    | none => true
    | some s => asciiLower s == "http" || asciiLower s == "https"
  let (scheme, netloc) ← prepareOrigin url normalize p.scheme p.authority
  return requote (scheme ++ "://" ++ netloc ++ prepareTail normalize p)

end Url

end SuggestGateway
