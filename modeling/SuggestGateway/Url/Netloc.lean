import SuggestGateway.Url.Prepare
/-!
# Network locations

How the standard URL split reads the network location of a URL, and the credentials it
finds there. Before splitting, leading controls and spaces go and every tab, carriage return
and line feed is removed. The network location follows `//` up to the first `/`, `?` or `#`.
It is refused when it has an opening bracket without a closing one or the other way round,
when the text between its first brackets is neither an IPv6 address (possibly with a zone
after `%`) nor a future address `v<hex>.<text>`, or is an IPv4 address, and when it holds a
character whose compatibility form contains `/`, `?`, `#`, `@` or `:`.

The credentials are the user name and password in the user information before the last `@`,
split at the first `:`, each percent-decoded; without a password there are none.
-/
namespace SuggestGateway

namespace Url

/-- Why the standard split refuses a URL. -/
inductive SplitError where
  | unbalancedBrackets
  | bracketedIPv4
  | notAnAddress (text : String)
  | invalidFuture
  | compatibilityDelimiter (netloc : String)
deriving DecidableEq, Repr

def SplitError.message : SplitError → String
  | .unbalancedBrackets => "Invalid IPv6 URL"
  | .bracketedIPv4 => "An IPv4 address cannot be in brackets"
  | .notAnAddress t => textLiteral t ++ " does not appear to be an IPv4 or IPv6 address"
  | .invalidFuture => "IPvFuture address is invalid"
  | .compatibilityDelimiter n =>
    "netloc '" ++ n ++ "' contains invalid characters under NFKC normalization"

/-- Whether a text is an IPv4 address as the standard library reads one: four decimal
numbers of at most three ASCII digits, each at most 255, without leading zeros. -/
def isStandardIPv4 (cs : List Char) : Bool :=
  let parts := cs.splitOn '.'
  parts.length == 4 && parts.all fun p =>
    !p.isEmpty && p.length ≤ 3 && p.all isAsciiDigit && (p == ['0'] || p.head? != some '0') &&
      p.foldl (fun n d => 10 * n + (d.toNat - '0'.toNat)) 0 ≤ 255

/-- Whether a text is an IPv6 address as the standard library reads one: up to eight groups
of at most four hex digits separated by colons, one `::` standing for at least one group of
zeros, an IPv4 address allowed in place of the last two groups, and a non-empty zone after
`%` without a further `%`. -/
def isStandardIPv6 (cs : List Char) : Bool :=
  let address := cs.takeWhile (· != '%')
  let zone := cs.drop address.length
  let zoneOk := match zone with
    | [] => true
    | _ :: z => !z.isEmpty && !z.contains '%'
  let parts := address.splitOn ':'
  let hexPart (p : List Char) : Bool := p.length ≤ 4 && !p.isEmpty && p.all isHexChar
  let parts? : Option (List (List Char)) :=
    match parts.getLast? with
    | some last =>
      if last.contains '.' then
        if isStandardIPv4 last then some (parts.dropLast ++ [['0'], ['0']]) else none
      else some parts
    | none => none
  zoneOk && !cs.contains '/' && !address.isEmpty && 3 ≤ parts.length &&
    match parts? with
    | none => false
    | some parts =>
      if parts.length > 9 then false
      else
        let inner := (parts.drop 1).dropLast
        let empties := (inner.zipIdx.filter (·.1.isEmpty)).map (·.2 + 1)
        match empties with
        | [] =>
          parts.length == 8 && parts.all hexPart
        | [skip] =>
          let hi := if (parts.headD []).isEmpty then skip - 1 else skip
          let lo := if (parts.getLastD []).isEmpty then parts.length - skip - 2
            else parts.length - skip - 1
          let leadOk := !(parts.headD []).isEmpty || skip == 1
          let trailOk := !(parts.getLastD []).isEmpty || skip == parts.length - 2
          leadOk && trailOk && hi + lo < 8 &&
            ((parts.take skip).drop (if (parts.headD []).isEmpty then 1 else 0)).all hexPart &&
            ((parts.drop (skip + 1)).take lo).all hexPart
        | _ => false

/-- Whether a bracketed host is acceptable to the standard split, or why not. -/
def checkBracketed (host : List Char) : Except SplitError Unit :=
  match host with
  | 'v' :: rest =>
    let digits := rest.takeWhile isHexChar
    match rest.drop digits.length with
    | '.' :: tail =>
      if !digits.isEmpty && !tail.isEmpty && !tail.contains '\n' then .ok ()
      else .error .invalidFuture
    | _ => .error .invalidFuture
  | _ =>
    if isStandardIPv4 host then .error .bracketedIPv4
    else if isStandardIPv6 host then .ok ()
    else .error (.notAnAddress (String.ofList host))

/-- The characters whose compatibility form holds `/`, `?`, `#`, `@` or `:`. -/
def compatibilityDelimiters : List Nat :=
  [0x2047, 0x2048, 0x2049, 0x2100, 0x2101, 0x2105, 0x2106, 0x2A74, 0xFE13, 0xFE16, 0xFE55,
    0xFE56, 0xFE5F, 0xFE6B, 0xFF03, 0xFF0F, 0xFF1A, 0xFF1F, 0xFF20]

/-- A URL as the standard split reads it: without leading controls and spaces, and without
tabs and line breaks. -/
def splitForm (url : String) : List Char :=
  (url.toList.dropWhile (·.toNat ≤ 0x20)).filter fun c => c != '\t' && c != '\r' && c != '\n'

/-- The network location of a URL as the standard split reads it, if it has one. -/
def netlocOf (url : String) : Option (List Char) :=
  let cs := splitForm url
  let rest := match splitScheme cs (fun d => d == '+' || d == '-' || d == '.') with
    | some (_, r) => r
    | none => cs
  match rest with
  | '/' :: '/' :: r => some (r.takeWhile fun c => c != '/' && c != '?' && c != '#')
  | _ => none

def checkSplit (url : String) : Except SplitError Unit :=
  match netlocOf url with
  | none => .ok ()
  | some netloc =>
    let opens := netloc.contains '['
    let closes := netloc.contains ']'
    if opens != closes then .error .unbalancedBrackets
    else do
      if opens then
        let inside := (netloc.dropWhile (· != '[')).drop 1
        checkBracketed (inside.takeWhile (· != ']'))
      if netloc.any fun c => compatibilityDelimiters.contains c.toNat then
        throw (.compatibilityDelimiter (String.ofList netloc))

/-- The user name and password of a URL, percent-decoded, when it gives a password. -/
def credentials (url : String) : Option (String × String) :=
  match netlocOf url with
  | none => none
  | some netloc =>
    match (netloc.zipIdx.filter (·.1 == '@')).getLast? with
    | some (_, i) =>
      let userinfo := netloc.take i
      let user := userinfo.takeWhile (· != ':')
      if user.length == userinfo.length then none
      else
        let password := userinfo.drop (user.length + 1)
        some (Utf8.decodeText (unquoteBytes user), Utf8.decodeText (unquoteBytes password))
    | none => none

end Url

end SuggestGateway
