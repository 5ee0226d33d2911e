import SuggestGateway.Http.Message
import SuggestGateway.Bytes.CodecName
import SuggestGateway.Text.Blank
import SuggestGateway.Text.Case
import SuggestGateway.Json.Reader
import SuggestGateway.Detection.Search
/-!
# Response content

How a response's bytes become text and a JSON value. The codec comes from the `Content-Type`
header: its `charset` parameter, else ISO-8859-1 for a type that mentions `text`, else UTF-8
for one that mentions `application/json`, else none. Text is decoded with that codec,
problems replaced; a name that stands for no text codec decodes as UTF-8. Content without a
codec is decoded with the code it is most likely in, and as UTF-8 when no code fits. Reading JSON without a codec, or with an empty name, first tries the Unicode
form the first four bytes show, and only if that fails to decode falls back to the text.
-/
namespace SuggestGateway

/-- A text with the characters `drop` holds removed from both ends. -/
def trimBy (drop : Char → Bool) (s : String) : String :=
  String.ofList ((s.toList.dropWhile drop).reverse.dropWhile drop).reverse

/-- The parameters of a header value such as `text/html; charset=utf-8`: the part before the
first `;`, stripped of blanks, and each later part that is not blank, stripped and split at
its first `=`. Names are in lower case; quotes and spaces are trimmed from both ends of names
and values, but not from a part without `=`, which names a parameter without a value. -/
def parseParams (value : String) : String × List (String × Option String) :=
  let trim := trimBy fun c => c == '"' || c == '\'' || c == ' '
  let parts := (value.toList.splitOn ';').map String.ofList
  let params := parts.tail.filterMap fun p =>
    let p := strip p
    if p.isEmpty then none
    else match p.toList.span (· != '=') with
      | (k, _ :: v) => some (fullLower (trim (String.ofList k)), some (trim (String.ofList v)))
      | _ => some (fullLower p, none)
  (strip (parts.headD ""), params)

/-- The character set name a response's headers declare or imply. The last `charset`
parameter wins, with quotes trimmed from its ends. -/
def Headers.charsetName? (hs : Headers) : Option String :=
  match hs.get? "content-type" with
  | none => none
  | some v =>
    if v.isEmpty then none
    else
      let (mime, params) := parseParams v
      match params.reverse.find? (·.1 == "charset") with
      | some (_, some cs) => some (trimBy (fun c => c == '"' || c == '\'') cs)
      | _ =>
        if mime.contains "text" then some "ISO-8859-1"
        else if mime.contains "application/json" then some "utf-8"
        else none

/-- Why a response's content is not a JSON value. -/
inductive ContentError where
  /-- The codec asked for by the name fails on the content. -/
  | codec (name : String) (failure : CodecFailure)
  | malformed (e : ReadError)
deriving DecidableEq, Repr

namespace ContentError

def message : ContentError → String
  | codec name f => f.message name
  | malformed e => e.message

/-- The arrays and objects of the text nest deeper than the reader follows: `some true` for an
array, `some false` for an object. Such a failure stops a program rather than marking the
content as malformed. -/
def nesting? : ContentError → Option Bool
  | malformed ⟨.nestedTooDeep array, _, _, _⟩ => some array
  | _ => none

end ContentError

/-- The Unicode form that the first bytes of a JSON text show: by a byte order mark, or by
where the zero bytes of its first characters stand. -/
def guessJsonCharset (bs : List UInt8) : Option Charset :=
  let s := bs.take 4
  let zeros := s.count 0
  if s == [0xFF, 0xFE, 0, 0] || s == [0, 0, 0xFE, 0xFF] then some (.utf32 none)
  else if s.take 3 == [0xEF, 0xBB, 0xBF] then some .utf8Sig
  else if s.take 2 == [0xFF, 0xFE] || s.take 2 == [0xFE, 0xFF] then some (.utf16 none)
  else if zeros == 0 then some .utf8
  else if zeros == 2 then
    match s with
    | [0, _, 0, _] => some (.utf16 (some .big))
    | [_, 0, _, 0] => some (.utf16 (some .little))
    | _ => none
  else if zeros == 3 then
    match s with
    | [0, 0, 0, _] => some (.utf32 (some .big))
    | [_, 0, 0, 0] => some (.utf32 (some .little))
    | _ => none
  else none

namespace Response

def charsetName? (r : Response) : Option String := r.headers.charsetName?

/-- The content as text: empty without content, decoded with the response's codec
otherwise. -/
def text (r : Response) : Except ContentError String :=
  if r.content.isEmpty then .ok ""
  else
    match r.charsetName?.orElse fun _ => detectCode r.content with
    | none => .ok (Charset.utf8.decode r.content)
    | some name =>
      if name.contains '\x00' then .error (.codec name .nullInName)
      else
        match Codec.ofName? name with
        | some c => (c.decode r.content).mapError (.codec name)
        | none => .ok (Charset.utf8.decode r.content)

def json (r : Response) : Except ContentError Json := do
  let unnamed := match r.charsetName? with
    | none => true
    | some n => n.isEmpty
  let guessed : Option String :=
    if unnamed && 3 < r.content.length then
      (guessJsonCharset r.content).bind fun cs => cs.decodeStrict? r.content
    else none
  match guessed with
  | some t => (Json.read t).mapError .malformed
  | none =>
    let t ← r.text
    (Json.read t).mapError .malformed

end Response

end SuggestGateway
