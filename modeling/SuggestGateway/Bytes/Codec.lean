import SuggestGateway.Bytes.Charset
import SuggestGateway.Bytes.SingleByte
import SuggestGateway.Bytes.Utf7
import SuggestGateway.Bytes.Escape
import SuggestGateway.Url.Punycode
import SuggestGateway.Bytes.Iso2022
import SuggestGateway.Bytes.Hz
/-!
# Text codecs

The codecs that turn a response's bytes into text, each decoding with its problems replaced by
U+FFFD. Besides the Unicode forms and the single-byte code pages there are UTF-7, the two
backslash escape forms, Punycode, and the multibyte and seven-bit codes of East Asian scripts.
Two codecs cannot decode this way at all: the one for internationalized host names refuses to
replace, and the undefined codec refuses everything.
Their refusals, and Punycode's refusal of a byte beyond ASCII after its last hyphen, are
failures that name the codec as it was asked for.
-/
namespace SuggestGateway

/-- A codec for text. -/
inductive Codec where
  | unicode (c : Charset)
  /-- A code page of one character per byte, by its name. -/
  | singleByte (name : String)
  | utf7
  /-- Backslash escapes as in string literals. -/
  | escapes
  /-- Backslash escapes of `\u` and `\U` only. -/
  | rawEscapes
  | punycode
  /-- Internationalized host names, which decode only strictly. -/
  | hostNames
  | undefined
  /-- A multibyte code of East Asian scripts, by its name. -/
  | multibyte (name : String)
  /-- A seven-bit code of the ISO 2022 family, by its name. -/
  | iso2022 (name : String)
  /-- The seven-bit code of simplified Chinese. -/
  | hz
deriving DecidableEq, Repr

/-- Why a codec fails on a text. -/
inductive CodecFailure where
  /-- The codec does not replace what it cannot decode. -/
  | noReplacing
  | undefinedCodec
  /-- The bytes cannot be read; the text says how. -/
  | unreadable (message : String)
  /-- The codec's name holds a null character. -/
  | nullInName
deriving DecidableEq, Repr

/-- What a failure says, for the codec asked for by `name`. -/
def CodecFailure.message (name : String) : CodecFailure → String
  | .noReplacing =>
    "decoding with '" ++ name ++ "' codec failed (UnicodeError: Unsupported error handling replace)"
  | .undefinedCodec => "decoding with '" ++ name ++ "' codec failed (UnicodeError: undefined encoding)"
  | .unreadable m => m
  | .nullInName => "embedded null character"

namespace Codec

/-- Decode bytes, replacing what cannot be read. Character names of `\N` escapes are not
known, so such an escape reads as U+FFFD. -/
def decode : Codec → List UInt8 → Except CodecFailure String
  | unicode c, bs => .ok (c.decode bs)
  | singleByte name, bs =>
    match singleByteTable? name with
    | some table => .ok (String.ofList (bs.map fun b => table.getD b.toNat '�'))
    | none => .ok (String.ofList (bs.map fun _ => '�'))
  | utf7, bs => .ok (Utf7.decode bs)
  | escapes, bs => .ok (String.ofList (Escape.decodeFull (fun _ => none) bs))
  | rawEscapes, bs => .ok (String.ofList (Escape.decodeRaw bs))
  | punycode, bs =>
    match Punycode.decodeBytes false bs with
    | .ok cs => .ok (String.ofList cs)
    | .error m => .error (.unreadable m)
  | hostNames, bs => if bs.isEmpty then .ok "" else .error .noReplacing
  | undefined, bs => if bs.isEmpty then .ok "" else .error .undefinedCodec
  | multibyte name, bs =>
    match multibyteCode? name with
    | some m => .ok (m.decode bs)
    | none => .ok (String.ofList (bs.map fun _ => '�'))
  | iso2022 name, bs =>
    match iso2022Code? name with
    | some code => .ok (code.decode bs)
    | none => .ok (String.ofList (bs.map fun _ => '�'))
  | hz, bs => .ok (Hz.decode bs)

/-- Whether a character stands for a problem: the decoders of the East Asian codes and the
code pages never produce U+FFFD otherwise. -/
def markProblem (c : Char) : Option Char := if c == '�' then none else some c

/-- Decode bytes, marking each problem with `none`. The codecs that do not decode by
replacing mark a failure as a single problem. -/
def marked : Codec → List UInt8 → List (Option Char)
  | unicode c, bs => c.decodeMarked bs
  | singleByte name, bs =>
    match singleByteTable? name with
    | some table => bs.map fun b => markProblem (table.getD b.toNat '�')
    | none => bs.map fun _ => none
  | utf7, bs => Utf7.decodeMarked bs
  | multibyte name, bs =>
    match multibyteCode? name with
    | some m => (m.decode bs).toList.map markProblem
    | none => bs.map fun _ => none
  | iso2022 name, bs =>
    match iso2022Code? name with
    | some code => (code.decode bs).toList.map markProblem
    | none => bs.map fun _ => none
  | hz, bs => (Hz.decode bs).toList.map markProblem
  | c, bs =>
    match c.decode bs with
    | .ok s => s.toList.map some
    | .error _ => [none]

def decodeStrict? (c : Codec) (bs : List UInt8) : Option (List Char) := (c.marked bs).mapM id

def decodeIgnoring (c : Codec) (bs : List UInt8) : List Char := (c.marked bs).filterMap id

/-- Whether the codec reads characters of more than one byte: the Unicode forms other than
ASCII and Latin-1, and the East Asian codes. -/
def isMultiByte : Codec → Bool
  | unicode .latin1 => false
  | unicode .ascii => false
  | unicode _ => true
  | utf7 => true
  | multibyte _ => true
  | iso2022 _ => true
  | hz => true
  | _ => false

end Codec

end SuggestGateway
