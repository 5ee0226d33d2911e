import SuggestGateway.Bytes.Utf8
/-!
# Percent-encoding

A text becomes URL-safe by writing each byte of its UTF-8 form that is not an unreserved
character (`A–Z a–z 0–9 _ . - ~`) or one of the given safe characters as `%XX`, with
upper-case hex. The form encoding writes a space as `+` instead. Decoding reverses both: it
reads `%XX` escapes as bytes, and the bytes as UTF-8.
-/
namespace SuggestGateway

namespace Percent

def isUnreserved (c : Char) : Bool :=
  ('A' ≤ c && c ≤ 'Z') || ('a' ≤ c && c ≤ 'z') || ('0' ≤ c && c ≤ '9') ||
    c == '_' || c == '.' || c == '-' || c == '~'

def hexDigit (n : Nat) : Char :=
  if n < 10 then Char.ofNat ('0'.toNat + n) else Char.ofNat ('A'.toNat + n - 10)

def escapeByte (b : UInt8) : List Char :=
  ['%', hexDigit (b.toNat / 16), hexDigit (b.toNat % 16)]

/-- A character as it stands in an encoded text: itself when it is unreserved or safe, the
escapes of its UTF-8 bytes otherwise. -/
def encodeChar (safe : List Char) (c : Char) : List Char :=
  if isUnreserved c || safe.contains c then [c]
  else (Utf8.encodeChar c).flatMap escapeByte

/-- A text with every character but the unreserved and the `safe` ones escaped. -/
def encode (safe : List Char) (s : String) : String :=
  String.ofList (s.toList.flatMap (encodeChar safe))

/-- A path segment: nothing but the unreserved characters stays. -/
def encodeSegment (s : String) : String := encode [] s

/-- A form value: a space becomes `+`, every other character as in a path segment. -/
def encodeForm (s : String) : String :=
  String.ofList (s.toList.flatMap fun c => if c == ' ' then ['+'] else encodeChar [] c)

def hexValue? (c : Char) : Option Nat :=
  if '0' ≤ c && c ≤ '9' then some (c.toNat - '0'.toNat)
  else if 'a' ≤ c && c ≤ 'f' then some (c.toNat - 'a'.toNat + 10)
  else if 'A' ≤ c && c ≤ 'F' then some (c.toNat - 'A'.toNat + 10)
  else none

/-- The bytes of a text whose `%XX` escapes stand for bytes; other characters stand for their
own UTF-8 bytes. `none` when a `%` starts no escape. -/
def decodeBytes : List Char → Option (List UInt8)
  | [] => some []
  | '%' :: a :: b :: rest =>
    match hexValue? a, hexValue? b with
    | some x, some y => (decodeBytes rest).map (UInt8.ofNat (16 * x + y) :: ·)
    | _, _ => none
  | '%' :: _ => none
  | c :: rest => (decodeBytes rest).map (Utf8.encodeChar c ++ ·)

/-- The text an encoded text stands for, if its bytes are UTF-8. -/
def decode (s : String) : Option String :=
  (decodeBytes s.toList).bind fun bs => (Utf8.decodeStrict? bs).map String.ofList

/-- A form value decoded: `+` is a space, then escapes as in `decode`. -/
def decodeForm (s : String) : Option String :=
  decode (String.ofList (s.toList.map fun c => if c == '+' then ' ' else c))

end Percent

end SuggestGateway
