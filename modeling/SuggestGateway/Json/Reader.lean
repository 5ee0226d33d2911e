import SuggestGateway.Json.Value
import SuggestGateway.Number.Rounding
/-!
# Reading JSON text

A reader for JSON text that also takes the tokens `NaN`, `Infinity` and `-Infinity`. A
number with a fraction or an exponent is a double, rounded to nearest; any other number is an
exact integer, up to 4300 digits. Arrays and objects stand at most 988 deep, one inside
another. A repeated member keeps its first place and its last value. A failure names the
first offending character by its index, line and column; blanks are space, tab, line feed and
carriage return only, and text must not start with a byte order mark.
-/
namespace SuggestGateway

/-- Why a text is not a JSON value. -/
inductive ReadFailure where
  | expectingValue
  | expectingPropertyName
  | expectingColon
  | expectingComma
  | extraData
  | unterminatedString
  | controlCharacter
  | invalidEscape
  | invalidUnicodeEscape
  | byteOrderMark
  /-- An integer with more digits than a reader converts. -/
  | integerTooLong (digits : Nat)
  /-- An array (`true`) or object (`false`) opens deeper than `nestingLimit`. -/
  | nestedTooDeep (array : Bool)
deriving DecidableEq, Repr

def integerDigitLimit : Nat := 4300

/-- The most arrays and objects that may stand one inside another. -/
def nestingLimit : Nat := 988

namespace ReadFailure

def text : ReadFailure → String
  | expectingValue => "Expecting value"
  | expectingPropertyName => "Expecting property name enclosed in double quotes"
  | expectingColon => "Expecting ':' delimiter"
  | expectingComma => "Expecting ',' delimiter"
  | extraData => "Extra data"
  | unterminatedString => "Unterminated string starting at"
  | controlCharacter => "Invalid control character at"
  | invalidEscape => "Invalid \\escape"
  | invalidUnicodeEscape => "Invalid \\uXXXX escape"
  | byteOrderMark => "Unexpected UTF-8 BOM (decode using utf-8-sig)"
  | integerTooLong n =>
    "Exceeds the limit (" ++ toString integerDigitLimit ++
      " digits) for integer string conversion: value has " ++ toString n ++
      " digits; use sys.set_int_max_str_digits() to increase the limit"
  | nestedTooDeep array =>
    "maximum recursion depth exceeded while decoding a JSON " ++
      (if array then "array" else "object") ++ " from a unicode string"

end ReadFailure

/-- A failure at a character index of the text, with its line and column (from 1). -/
structure ReadError where
  failure : ReadFailure
  position : Nat
  line : Nat
  column : Nat
deriving DecidableEq, Repr

namespace ReadError

def locate (cs : List Char) (failure : ReadFailure) (p : Nat) : ReadError :=
  let before := cs.take p
  let lastBreak := (before.zipIdx.filter (·.1 == '\n')).getLast?.map (·.2)
  { failure, position := p, line := before.count '\n' + 1,
    column := match lastBreak with | some i => p - i | none => p + 1 }

/-- The text of a failure. An overlong integer and too deep a nesting name no position. -/
def message (e : ReadError) : String :=
  match e.failure with
  | .integerTooLong _ => e.failure.text
  | .nestedTooDeep _ => e.failure.text
  | f => f.text ++ ": line " ++ toString e.line ++ " column " ++ toString e.column ++
      " (char " ++ toString e.position ++ ")"

end ReadError

namespace Reader

/-- A step of reading: a result with the rest of the text and its index, or a failure at an
index. -/
abbrev Step (α : Type) := Except (ReadFailure × Nat) (α × List Char × Nat)

def isBlank (c : Char) : Bool := c == ' ' || c == '\t' || c == '\n' || c == '\r'

def skipBlank : List Char → Nat → List Char × Nat
  | c :: cs, p => if isBlank c then skipBlank cs (p + 1) else (c :: cs, p)
  | [], p => ([], p)

def isDigit (c : Char) : Bool := '0' ≤ c && c ≤ '9'

def hexDigit? (c : Char) : Option Nat :=
  if '0' ≤ c && c ≤ '9' then some (c.toNat - '0'.toNat)
  else if 'a' ≤ c && c ≤ 'f' then some (c.toNat - 'a'.toNat + 10)
  else if 'A' ≤ c && c ≤ 'F' then some (c.toNat - 'A'.toNat + 10)
  else none

def hex4? (a b c d : Char) : Option Nat := do
  let a ← hexDigit? a
  let b ← hexDigit? b
  let c ← hexDigit? c
  let d ← hexDigit? d
  return ((a * 16 + b) * 16 + c) * 16 + d

def isHighSurrogate (n : Nat) : Bool := 0xD800 ≤ n && n ≤ 0xDBFF

def isLowSurrogate (n : Nat) : Bool := 0xDC00 ≤ n && n ≤ 0xDFFF

/-- The character of a code point; a surrogate that no partner joined becomes U+FFFD, the
one character a string cannot hold in its place. -/
def codePoint (n : Nat) : Char :=
  if 0xD800 ≤ n && n ≤ 0xDFFF then '\uFFFD' else Char.ofNat n

/-- The one-character escapes and what they stand for. -/
def simpleEscape? : Char → Option Char
  | '"' => some '"'
  | '\\' => some '\\'
  | '/' => some '/'
  | 'b' => some '\x08'
  | 'f' => some '\x0c'
  | 'n' => some '\n'
  | 'r' => some '\r'
  | 't' => some '\t'
  | _ => none

/-- The characters of a string up to its closing quote, read from index `p`; `begin` is the
index of the opening quote. A `\u` escape needs four hex digits and a character after them;
a high surrogate joins a low one that follows as a second escape. -/
def stringBody (begin : Nat) (cs : List Char) (p : Nat) (acc : List Char) : Step String :=
  match cs with
  | [] => .error (.unterminatedString, begin)
  | '"' :: rest => .ok (String.ofList acc.reverse, rest, p + 1)
  | '\\' :: rest =>
    match rest with
    | [] => .error (.unterminatedString, begin)
    | 'u' :: a :: b :: c :: d :: more =>
      match hex4? a b c d with
      | none => .error (.invalidUnicodeEscape, p + 1)
      | some n =>
        match more with
        | [] => .error (.invalidUnicodeEscape, p + 1)
        | '\\' :: 'u' :: e :: f :: g :: h :: y :: ys =>
          if isHighSurrogate n then
            match hex4? e f g h with
            | none => .error (.invalidUnicodeEscape, p + 7)
            | some m =>
              if isLowSurrogate m then
                stringBody begin (y :: ys) (p + 12)
                  (Char.ofNat (0x10000 + (n - 0xD800) * 0x400 + (m - 0xDC00)) :: acc)
              else stringBody begin ('\\' :: 'u' :: e :: f :: g :: h :: y :: ys) (p + 6)
                (codePoint n :: acc)
          else stringBody begin ('\\' :: 'u' :: e :: f :: g :: h :: y :: ys) (p + 6)
            (codePoint n :: acc)
        | x :: xs => stringBody begin (x :: xs) (p + 6) (codePoint n :: acc)
    | 'u' :: _ => .error (.invalidUnicodeEscape, p + 1)
    | e :: more =>
      match simpleEscape? e with
      | some c => stringBody begin more (p + 2) (c :: acc)
      | none => .error (.invalidEscape, p)
  | c :: rest =>
    if c.toNat ≤ 0x1f then .error (.controlCharacter, p)
    else stringBody begin rest (p + 1) (c :: acc)
termination_by cs.length
decreasing_by all_goals (simp_all only [List.length_cons]; omega)

def digitsPrefix (cs : List Char) : List Char := cs.takeWhile isDigit

def digitsValue (ds : List Char) : Nat :=
  ds.foldl (fun n d => 10 * n + (d.toNat - '0'.toNat)) 0

/-- A number starting at index `p`: an optional minus, `0` or digits not starting with `0`,
then an optional fraction (a point and digits) and exponent (`e` or `E`, a sign, digits). A
fraction or exponent without digits is left unread. -/
def number (cs : List Char) (p : Nat) : Step Json :=
  let (negative, body) := match cs with
    | '-' :: r => (true, r)
    | r => (false, r)
  let whole : Option (List Char) := match body with
    | '0' :: _ => some ['0']
    | d :: _ => if isDigit d && d != '0' then some (digitsPrefix body) else none
    | [] => none
  match whole with
  | none => .error (.expectingValue, p)
  | some whole =>
    let afterWhole := body.drop whole.length
    let fraction : List Char := match afterWhole with
      | '.' :: r => digitsPrefix r
      | _ => []
    let afterFraction := if fraction.isEmpty then afterWhole
      else afterWhole.drop (fraction.length + 1)
    let exponent : Option (Bool × List Char × Nat) := match afterFraction with
      | e :: r =>
        if e == 'e' || e == 'E' then
          let (expNeg, signLen, r') := match r with
            | '-' :: r' => (true, 1, r')
            | '+' :: r' => (false, 1, r')
            | r' => (false, 0, r')
          let ds := digitsPrefix r'
          if ds.isEmpty then none else some (expNeg, ds, 1 + signLen + ds.length)
        else none
      | [] => none
    let signLen := if negative then 1 else 0
    let used := signLen + whole.length + (if fraction.isEmpty then 0 else fraction.length + 1)
    match exponent with
    | none =>
      if fraction.isEmpty then
        if integerDigitLimit < whole.length then .error (.integerTooLong whole.length, p)
        else
          let n : Int := digitsValue whole
          .ok (.int (if negative then -n else n), afterFraction, p + used)
      else
        .ok (.float (Binary64.ofDecimal negative (digitsValue (whole ++ fraction))
          (-(fraction.length : Int))), afterFraction, p + used)
    | some (expNeg, ds, len) =>
      let e : Int := digitsValue ds
      let e := if expNeg then -e else e
      .ok (.float (Binary64.ofDecimal negative (digitsValue (whole ++ fraction))
        (e - fraction.length)), afterFraction.drop len, p + used + len)

mutual

/-- A value at index `p`, inside `depth` arrays and objects. The fuel bounds the nesting and the
number of items. -/
def value : Nat → Nat → List Char → Nat → Step Json
  | 0, _, _, p => .error (.expectingValue, p)
  | fuel + 1, depth, cs, p =>
    match cs with
    | '"' :: rest =>
      match stringBody p rest (p + 1) [] with
      | .ok (s, r, q) => .ok (.str s, r, q)
      | .error e => .error e
    | '{' :: rest =>
      if nestingLimit ≤ depth then .error (.nestedTooDeep false, p)
      else
        let (r, q) := skipBlank rest (p + 1)
        match r with
        | '}' :: r' => .ok (.obj [], r', q + 1)
        | _ => members fuel (depth + 1) r q []
    | '[' :: rest =>
      if nestingLimit ≤ depth then .error (.nestedTooDeep true, p)
      else
        let (r, q) := skipBlank rest (p + 1)
        match r with
        | ']' :: r' => .ok (.arr [], r', q + 1)
        | _ => items fuel (depth + 1) r q []
    | 'n' :: 'u' :: 'l' :: 'l' :: rest => .ok (.null, rest, p + 4)
    | 't' :: 'r' :: 'u' :: 'e' :: rest => .ok (.bool true, rest, p + 4)
    | 'f' :: 'a' :: 'l' :: 's' :: 'e' :: rest => .ok (.bool false, rest, p + 5)
    | 'N' :: 'a' :: 'N' :: rest => .ok (.float Binary64.nan, rest, p + 3)
    | 'I' :: 'n' :: 'f' :: 'i' :: 'n' :: 'i' :: 't' :: 'y' :: rest =>
      .ok (.float (Binary64.infinity false), rest, p + 8)
    | '-' :: 'I' :: 'n' :: 'f' :: 'i' :: 'n' :: 'i' :: 't' :: 'y' :: rest =>
      .ok (.float (Binary64.infinity true), rest, p + 9)
    | _ => number cs p

/-- The items of an array from index `p`, after its bracket or a comma and the blanks. -/
def items : Nat → Nat → List Char → Nat → List Json → Step Json
  | 0, _, _, p, _ => .error (.expectingValue, p)
  | fuel + 1, depth, cs, p, acc =>
    match value fuel depth cs p with
    | .error e => .error e
    | .ok (v, r, q) =>
      let (r, q) := skipBlank r q
      match r with
      | ']' :: r' => .ok (.arr (v :: acc).reverse, r', q + 1)
      | ',' :: r' =>
        let (r'', q') := skipBlank r' (q + 1)
        items fuel depth r'' q' (v :: acc)
      | _ => .error (.expectingComma, q)

/-- The members of an object from index `p`, after its brace or a comma and the blanks. -/
def members : Nat → Nat → List Char → Nat → List (String × Json) → Step Json
  | 0, _, _, p, _ => .error (.expectingValue, p)
  | fuel + 1, depth, cs, p, acc =>
    match cs with
    | '"' :: rest =>
      match stringBody p rest (p + 1) [] with
      | .error e => .error e
      | .ok (k, r, q) =>
        let (r, q) := skipBlank r q
        match r with
        | ':' :: r' =>
          let (r'', q') := skipBlank r' (q + 1)
          match value fuel depth r'' q' with
          | .error e => .error e
          | .ok (v, r, q) =>
            let (r, q) := skipBlank r q
            let acc := Entries.set acc k v
            match r with
            | '}' :: r' => .ok (.obj acc, r', q + 1)
            | ',' :: r' =>
              let (r'', q') := skipBlank r' (q + 1)
              members fuel depth r'' q' acc
            | _ => .error (.expectingComma, q)
        | _ => .error (.expectingColon, q)
    | _ => .error (.expectingPropertyName, p)

end

end Reader

/-- Read a whole text as one JSON value, with blanks around it. -/
def Json.read (s : String) : Except ReadError Json :=
  let cs := s.toList
  let fail := fun (f : ReadFailure) (p : Nat) => Except.error (ReadError.locate cs f p)
  match cs with
  | '\uFEFF' :: _ => fail .byteOrderMark 0
  | _ =>
    let (r, p) := Reader.skipBlank cs 0
    match Reader.value (2 * cs.length + 2) 0 r p with
    | .error (f, q) => fail f q
    | .ok (v, r, q) =>
      let (r, q) := Reader.skipBlank r q
      if r.isEmpty then .ok v else fail .extraData q

end SuggestGateway
