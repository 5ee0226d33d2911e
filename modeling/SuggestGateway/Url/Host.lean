import SuggestGateway.Url.Percent
import SuggestGateway.Url.Idna
import SuggestGateway.Text.Case
import SuggestGateway.Json.Display
/-!
# Hosts of URLs

The host of an `http` or `https` URL is brought into the form it is sent in.

An address in brackets is an IPv6 address as RFC 3986 writes it, possibly with a zone after
`%` (or `%25`): the address is lower-cased and the zone kept as it is, written after a single
`%`, with its escapes in upper case.

Any other host may not hold controls, spaces or the delete character, raw or as escapes.
Escapes of unreserved characters are decoded. A host that reads as an IPv4 address in any of
the forms the C library accepts (one to four numbers, each decimal, octal after `0` or
hexadecimal after `0x`) is kept as it is. Otherwise each label is lower-cased, and a label
with characters beyond ASCII is written in its IDNA form; the escapes that remain are written
in upper case.
-/
namespace SuggestGateway

namespace Url

/-- Why a host is refused. -/
inductive HostError where
  /-- The host holds a control, space or delete character. -/
  | invalidCharacter (host : String) (c : Char)
  /-- The host holds an escape of a control or delete character, as written. -/
  | controlEscape (host : String) (escape : String)
  /-- A label is not a valid internationalized label. -/
  | invalidLabel (name : String)
deriving DecidableEq, Repr

def HostError.message : HostError → String
  | .invalidCharacter host c =>
    "Host " ++ textLiteral host ++ " contains invalid character " ++ textLiteral c.toString
  | .controlEscape host e =>
    "Host " ++ textLiteral host ++ " contains invalid percent-encoded control character '" ++ e ++
      "'"
  | .invalidLabel name => "Name '" ++ name ++ "' is not a valid IDNA label"

def isHexChar (c : Char) : Bool := (Percent.hexValue? c).isSome

def isHexGroup (cs : List Char) : Bool := 1 ≤ cs.length && cs.length ≤ 4 && cs.all isHexChar

/-- Four dotted numbers of one to three digits, of any value. -/
def isDottedQuad (cs : List Char) : Bool :=
  let parts := cs.splitOn '.'
  parts.length == 4 && parts.all fun p => 1 ≤ p.length && p.length ≤ 3 && p.all Char.isDigit

/-- How many 16-bit groups a list of groups stands for, when it is well formed: hex groups,
and the last one possibly a dotted quad worth two. -/
def groupUnits (groups : List (List Char)) : Option Nat :=
  match groups.reverse with
  | [] => some 0
  | last :: before =>
    if !before.all isHexGroup then none
    else if isHexGroup last then some groups.length
    else if isDottedQuad last then some (groups.length + 1)
    else none

def doubleColon? (cs : List Char) : Option Nat :=
  (List.range cs.length).find? fun i => cs[i]? == some ':' && cs[i + 1]? == some ':'

/-- Whether a text is an IPv6 address as RFC 3986 writes it. -/
def isIPv6Literal (cs : List Char) : Bool :=
  match doubleColon? cs with
  | some i =>
    let before := cs.take i
    let after := cs.drop (i + 2)
    let beforeGroups := if before.isEmpty then [] else before.splitOn ':'
    let afterGroups := if after.isEmpty then [] else after.splitOn ':'
    beforeGroups.all isHexGroup &&
      match groupUnits afterGroups with
      | some n => beforeGroups.length + n ≤ 7
      | none => false
  | none => groupUnits (cs.splitOn ':') == some 8

/-- Whether a zone is `%` followed by unreserved characters and escapes, at least one. -/
def isZone (cs : List Char) : Bool :=
  match cs with
  | '%' :: rest =>
    let rec ok : List Char → Bool
      | [] => true
      | '%' :: a :: b :: more => isHexChar a && isHexChar b && ok more
      | c :: more => Percent.isUnreserved c && ok more
    !rest.isEmpty && ok rest
  | _ => false

/-- Whether a host is an IPv6 address in brackets, with or without a zone. -/
def isBracketedAddress (cs : List Char) : Bool :=
  match cs with
  | '[' :: rest =>
    rest.getLast? == some ']' &&
      let inner := rest.dropLast
      let address := inner.takeWhile (· != '%')
      let zone := inner.drop address.length
      isIPv6Literal address && (zone.isEmpty || isZone zone)
  | _ => false

/-- Whether a host may stand before the port: characters other than brackets, `%`, `:`, `/`,
`?` and `#`, and escapes `%XX`. -/
def isRegisteredName : List Char → Bool
  | [] => true
  | '%' :: a :: b :: rest => isHexChar a && isHexChar b && isRegisteredName rest
  | c :: rest => !"[]%:/?#".toList.contains c && isRegisteredName rest

/-- Whether a host is well formed: a name of allowed characters and escapes, or an IPv6
address in brackets. -/
def isWellFormedHost (cs : List Char) : Bool := isRegisteredName cs || isBracketedAddress cs

def upperCaseEscapes : List Char → List Char
  | '%' :: a :: b :: rest =>
    if isHexChar a && isHexChar b then '%' :: a.toUpper :: b.toUpper :: upperCaseEscapes rest
    else '%' :: upperCaseEscapes (a :: b :: rest)
  | c :: rest => c :: upperCaseEscapes rest
  | [] => []

/-- A bracketed address with its address part lower-cased and its zone written after one
`%`: a zone written `%25…` loses the `25`, unless it is just `%25`. -/
def normalizeBracketed (cs : List Char) : String :=
  let inner := (cs.drop 1).dropLast
  let address := inner.takeWhile (· != '%')
  let zone := inner.drop address.length
  if zone.isEmpty then String.ofList (cs.map Char.toLower)
  else
    let zoneId := match zone with
      | '%' :: '2' :: '5' :: rest => if rest.isEmpty then ['2', '5'] else rest
      | _ => zone.drop 1
    String.ofList ('[' :: address.map Char.toLower ++ '%' :: upperCaseEscapes zoneId ++ [']'])

/-- Whether a character may not stand in a host: a control, the space or delete. -/
def isForbiddenInHost (c : Char) : Bool := c.toNat ≤ 0x20 || c.toNat == 0x7F

/-- The first escape of a control or delete character, as written. -/
def controlEscape? : List Char → Option String
  | '%' :: a :: b :: rest =>
    match Percent.hexValue? a, Percent.hexValue? b with
    | some x, some y =>
      let n := 16 * x + y
      if n < 0x20 || n == 0x7F then some (String.ofList ['%', a, b]) else controlEscape? rest
    | _, _ => controlEscape? (a :: b :: rest)
  | _ :: rest => controlEscape? rest
  | [] => none

/-- Decode the escapes of unreserved characters, keeping the others. -/
def decodeUnreservedEscapes : List Char → List Char
  | '%' :: a :: b :: rest =>
    match Percent.hexValue? a, Percent.hexValue? b with
    | some x, some y =>
      let c := Char.ofNat (16 * x + y)
      if Percent.isUnreserved c then c :: decodeUnreservedEscapes rest
      else '%' :: a :: b :: decodeUnreservedEscapes rest
    | _, _ => '%' :: decodeUnreservedEscapes (a :: b :: rest)
  | c :: rest => c :: decodeUnreservedEscapes rest
  | [] => []

/-- The value of a number as the C library reads one part of an IPv4 address: `0x` then hex
digits, `0` then octal digits, or decimal digits; with the characters after it. A `0x` without
hex digits after it reads as `0`. -/
def readAddressNumber (cs : List Char) : Option (Nat × List Char) :=
  match cs with
  | '0' :: x :: rest =>
    if (x == 'x' || x == 'X') && (rest.head?.map isHexChar).getD false then
      let ds := rest.takeWhile isHexChar
      some (ds.foldl (fun n d => 16 * n + (Percent.hexValue? d).getD 0) 0, rest.drop ds.length)
    else if x == 'x' || x == 'X' then some (0, x :: rest)
    else
      let ds := (x :: rest).takeWhile Char.isDigit
      if ds.any (fun d => d == '8' || d == '9') then none
      else some (ds.foldl (fun n d => 8 * n + (d.toNat - '0'.toNat)) 0, (x :: rest).drop ds.length)
  | c :: _ =>
    if c.isDigit then
      let ds := cs.takeWhile Char.isDigit
      some (ds.foldl (fun n d => 10 * n + (d.toNat - '0'.toNat)) 0, cs.drop ds.length)
    else none
  | [] => none

/-- The numbers of an IPv4 address in the C library's forms, up to four, separated by dots. -/
def addressNumbers (cs : List Char) (fuel : Nat) : Option (List Nat) :=
  match fuel with
  | 0 => none
  | fuel + 1 => do
    let (n, rest) ← readAddressNumber cs
    match rest with
    | [] => some [n]
    | '.' :: more => (addressNumbers more fuel).map (n :: ·)
    | _ => none

/-- Whether a host reads as an IPv4 address in the C library's forms: one to four numbers,
the last filling the bytes the others leave. -/
def isNumericAddress (cs : List Char) : Bool :=
  match addressNumbers cs 4 with
  | some ns =>
    let lead := ns.dropLast
    let last := ns.getLastD 0
    lead.all (· ≤ 255) && last < Nat.pow 256 (4 - lead.length)
  | none => false

/-- The host of an `http` or `https` URL in the form it is sent in. -/
def normalizeHost (host : String) : Except HostError String :=
  let cs := host.toList
  if isBracketedAddress cs then .ok (normalizeBracketed cs)
  else
    match cs.find? isForbiddenInHost with
    | some c => .error (.invalidCharacter host c)
    | none =>
      match controlEscape? cs with
      | some e => .error (.controlEscape host e)
      | none =>
        let decoded := decodeUnreservedEscapes cs
        if isNumericAddress decoded then .ok (String.ofList decoded)
        else do
          let labels ← (decoded.splitOn '.').mapM fun label =>
            if label.all (·.toNat < 128) then .ok (label.map Char.toLower)
            else match Idna.encodeStrict? (fullLower (String.ofList label)).toList with
              | some e => .ok e.toList
              | none => .error (.invalidLabel (String.ofList label))
          return String.ofList (upperCaseEscapes (List.intercalate ['.'] labels))

end Url

end SuggestGateway
