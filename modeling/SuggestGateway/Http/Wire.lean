import SuggestGateway.Http.Message
import SuggestGateway.Url.Prepare
/-!
# HTTP/1.1 on the wire

A prepared request becomes the bytes of one HTTP/1.1 exchange that closes the connection
after the answer, and the bytes that come back become a response. The request line carries
the URL's path and query; `Host` names the URL's host, with the port when it is not the
scheme's default. Header lines are Latin-1 text.

An answer is read as a status line, header lines up to the first empty line, and a body:
a chunked body when `Transfer-Encoding` is `chunked`, exactly `Content-Length` bytes when a
length is given, and otherwise everything up to the end of the connection. Interim `100`
answers are skipped. A header that repeats is kept once, at its first place, with the values
joined by `", "`. Each reader takes only what it needs and hands back the rest, so a chunked
body can be checked against the bytes that follow it.
-/
namespace SuggestGateway

namespace Wire

def crlf : List UInt8 := [13, 10]

/-- Text as Latin-1 bytes; a character beyond Latin-1 is sent as `?`. -/
def latin1 (s : String) : List UInt8 :=
  s.toList.map fun c => if c.toNat < 256 then c.toNat.toUInt8 else 63

def ofLatin1 (bs : List UInt8) : String := String.ofList (bs.map fun b => Char.ofNat b.toNat)

/-- Where a request goes: whether the connection is secured, the host to reach (without
brackets), its port, the value of the `Host` header and the request target. -/
structure Destination where
  secure : Bool
  host : String
  port : Nat
  hostHeader : String
  target : String
deriving DecidableEq, Repr

/-- The destination of a prepared URL, or the reason there is none. -/
def Destination.ofUrl (url : String) : Except String Destination := do
  let parts := Url.split url
  let scheme := (parts.scheme.getD "").toLower
  let secure ← match scheme with
    | "http" => pure false
    | "https" => pure true
    | s => throw ("No connection adapters were found for " ++ textLiteral (s ++ "://"))
  let authority := parts.authority.getD ""
  let (_, hostPort) := Url.splitUserinfo authority
  let (host, port) ← match Url.splitHostPort hostPort with
    | some (h, p) => pure (String.ofList h, p)
    | none => throw ("Failed to parse: " ++ url)
  if host.isEmpty then throw ("Invalid URL " ++ textLiteral url ++ ": No host supplied")
  let bare := match host.toList with
    | '[' :: rest => String.ofList (rest.takeWhile (· != ']'))
    | _ => host
  let standard := if secure then 443 else 80
  let number := port.getD standard
  let hostHeader := if number == standard then host else host ++ ":" ++ toString number
  let path := if parts.path.isEmpty then "/" else parts.path
  let target := match parts.query with
    | some q => path ++ "?" ++ q
    | none => path
  return { secure, host := bare, port := number, hostHeader, target }

/-- The text of a failure to reach a destination with a request target, for the given cause. -/
def Destination.failure (d : Destination) (cause : String) : String :=
  (if d.secure then "HTTPSConnectionPool" else "HTTPConnectionPool") ++ "(host=" ++
    textLiteral d.host ++ ", port=" ++ toString d.port ++ "): Max retries exceeded with url: " ++
    d.target ++ " (Caused by " ++ cause ++ ")"

/-- The bytes of a request to a destination: the request line, `Host`, the request's own
headers, `Connection: close`, an empty line and the body as UTF-8. -/
def encodeRequest (r : Request) (d : Destination) : List UInt8 :=
  let line := fun (s : String) => latin1 s ++ crlf
  let headers := [("Host", d.hostHeader)] ++ r.headers ++ [("Connection", "close")]
  line (r.method ++ " " ++ d.target ++ " HTTP/1.1") ++
    (headers.flatMap fun (n, v) => line (n ++ ": " ++ v)) ++ crlf ++
    (match r.body with
      | some t => Utf8.encode t
      | none => [])

/-- Why an answer could not be read. -/
inductive ReadError where
  /-- The connection ended before the status line and headers were complete. -/
  | incompleteHead
  /-- The status line is not of the form `HTTP/x.y nnn reason`. -/
  | badStatusLine (line : String)
  | badChunkSize (line : String)
  /-- The body ended before the announced number of bytes. -/
  | incompleteBody (got expected : Nat)
deriving DecidableEq, Repr

namespace ReadError

def message : ReadError → String
  | incompleteHead => "('Connection aborted.', RemoteDisconnected('Remote end closed connection without response'))"
  | badStatusLine l => "('Connection aborted.', BadStatusLine(" ++ textLiteral l ++ "))"
  | badChunkSize l =>
    "('Connection broken: InvalidChunkLength(got length " ++ textLiteral l ++
      ", 0 bytes read)', InvalidChunkLength(got length " ++ textLiteral l ++ ", 0 bytes read))"
  | incompleteBody got more =>
    let shown := "IncompleteRead(" ++ toString got ++ " bytes read, " ++ toString more ++
      " more expected)"
    "('Connection broken: " ++ shown ++ "', " ++ shown ++ ")"

end ReadError

/-- The bytes before the first line break, and those after it; `none` when there is none.
A bare line feed ends a line too, and a carriage return before it is dropped. -/
def takeLine (bs : List UInt8) : Option (List UInt8 × List UInt8) :=
  match bs.findIdx? (· == 10) with
  | some i =>
    let line := bs.take i
    let line := if line.getLast? == some 13 then line.dropLast else line
    some (line, bs.drop (i + 1))
  | none => none

theorem takeLine_length {bs line rest : List UInt8} (h : takeLine bs = some (line, rest)) :
    rest.length < bs.length := by
  unfold takeLine at h
  split at h
  · rename_i i hi
    simp only [Option.some.injEq, Prod.mk.injEq] at h
    rw [← h.2, List.length_drop]
    have := (List.findIdx?_eq_some_iff_getElem.mp hi).1
    omega
  · simp at h

/-- The header lines up to the first empty line, and the bytes after it. -/
def readHeaderLines (bs : List UInt8) : Option (List String × List UInt8) :=
  match h : takeLine bs with
  | none => none
  | some (line, rest) =>
    if line.isEmpty then some ([], rest)
    else
      have := takeLine_length h
      (readHeaderLines rest).map fun (lines, after) => (ofLatin1 line :: lines, after)
termination_by bs.length

/-- Add a header read from the wire: a repeated name keeps its first place and spelling,
and its values are joined with `", "`. -/
def addHeader : Headers → String → String → Headers
  | [], name, value => [(name, value)]
  | (n, v) :: rest, name, value =>
    if Headers.key n == Headers.key name then (n, v ++ ", " ++ value) :: rest
    else (n, v) :: addHeader rest name value

/-- The headers of the header lines: name before the first colon, value stripped of blanks
and tabs. Lines without a colon are skipped. -/
def parseHeaders (lines : List String) : Headers :=
  lines.foldl (fun hs line =>
    match line.toList.findIdx? (· == ':') with
    | some i =>
      let cs := line.toList
      let trim := fun (xs : List Char) =>
        ((xs.dropWhile (fun c => c == ' ' || c == '\t')).reverse.dropWhile
          (fun c => c == ' ' || c == '\t')).reverse
      addHeader hs (String.ofList (trim (cs.take i))) (String.ofList (trim (cs.drop (i + 1))))
    | none => hs) []

def parseStatusLine (line : String) : Except ReadError (Int × String) :=
  let cs := line.toList
  let version := cs.takeWhile (· != ' ')
  let rest := (cs.drop version.length).dropWhile (· == ' ')
  let code := rest.takeWhile (· != ' ')
  let reason := (rest.drop code.length).dropWhile (· == ' ')
  if !(String.ofList version).startsWith "HTTP/" || code.length != 3 ||
      !code.all (fun c => '0' ≤ c && c ≤ '9') then .error (.badStatusLine line)
  else
    let n := code.foldl (fun n d => 10 * n + (d.toNat - '0'.toNat)) 0
    if n < 100 then .error (.badStatusLine line)
    else .ok (n, String.ofList reason)

/-- The value of hexadecimal digits, up to the first `;` and without surrounding blanks. -/
def chunkSize? (line : List UInt8) : Option Nat :=
  let size := (line.takeWhile (· != 59)).filter fun b => b != 32 && b != 9
  if size.isEmpty then none
  else size.foldlM (fun n b =>
    let c := Char.ofNat b.toNat
    (Percent.hexValue? c).map fun d => 16 * n + d) 0

/-- The payload of a chunked body, and the bytes after its closing empty line; each chunk
takes at least its size line, so the bytes bound the recursion. -/
def readChunked (bs : List UInt8) (acc : List UInt8) : Except ReadError (List UInt8 × List UInt8) :=
  match h : takeLine bs with
  | none => .error (.incompleteBody acc.length 0)
  | some (line, rest) =>
    match chunkSize? line with
    | none => .error (.badChunkSize (ofLatin1 line))
    | some 0 =>
      match readHeaderLines rest with
      | some (_, after) => .ok (acc, after)
      | none => .ok (acc, [])
    | some n =>
      if rest.length < n then .error (.incompleteBody (acc.length + rest.length) (n - rest.length))
      else
        have := takeLine_length h
        let next := (rest.drop n)
        let next := match takeLine next with
          | some ([], after) => after
          | _ => next
        if next.length < bs.length then readChunked next (acc ++ rest.take n)
        else .error (.badChunkSize (ofLatin1 line))
termination_by bs.length

def decodeResponse (bs : List UInt8) : Except ReadError Response :=
  go bs bs.length
where
  go (bs : List UInt8) : Nat → Except ReadError Response
    | 0 => .error .incompleteHead
    | fuel + 1 =>
      match takeLine bs with
      | none => .error .incompleteHead
      | some (statusLine, rest) => do
        let (status, reason) ← parseStatusLine (ofLatin1 statusLine)
        let (lines, body) ← match readHeaderLines rest with
          | some r => pure r
          | none => throw .incompleteHead
        let headers := parseHeaders lines
        if status == 100 then go body fuel
        else
          let chunked := (Headers.get? headers "Transfer-Encoding").map (·.toLower) ==
            some "chunked"
          let content ← if status == 204 || status == 304 || status < 200 then pure []
            else if chunked then (·.1) <$> readChunked body []
            else match (Headers.get? headers "Content-Length").bind (·.trimAscii.toString.toNat?) with
              | some n =>
                if body.length < n then throw (.incompleteBody body.length (n - body.length))
                else pure (body.take n)
              | none => pure body
          return { status, reason, headers, content }

end Wire

end SuggestGateway
