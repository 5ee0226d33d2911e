import SuggestGateway.Number.Rounding
import SuggestGateway.Text.Blank
import SuggestGateway.Text.Digit
/-!
# Number literals in settings

How a setting such as a timeout reads a double from text, and an option such as a port an
integer. Blanks of any script count as
spaces and decimal digits of any script as ASCII digits; any other non-ASCII character makes
the text unreadable. ASCII blanks may stand around the literal. The literal is a sign, then
digits with an optional point (at least one digit in all) and an optional exponent, or one of
`inf`, `infinity` and `nan` in any case. An underscore may stand only between two digits.
-/
namespace SuggestGateway

namespace Literal

def isAsciiBlank (c : Char) : Bool :=
  c == ' ' || c == '\t' || c == '\n' || c == '\x0b' || c == '\x0c' || c == '\r'

/-- Non-ASCII blanks as spaces and non-ASCII digits as ASCII digits, or `none` when another
non-ASCII character stands in the text. -/
def asciiForm : List Char → Option (List Char)
  | [] => some []
  | c :: rest =>
    let c' : Option Char :=
      if c.toNat < 127 then some c
      else if isBlank c then some ' '
      else (digitValue? c).map fun d => Char.ofNat ('0'.toNat + d)
    match c' with
    | some c' => (asciiForm rest).map (c' :: ·)
    | none => none

def isDigit (c : Char) : Bool := '0' ≤ c && c ≤ '9'

/-- The text without its underscores, if each of them stands between two digits. -/
def dropUnderscores : Option Char → List Char → Option (List Char)
  | some '_', [] => none
  | _, [] => some []
  | prev, '_' :: rest =>
    if prev.any isDigit then dropUnderscores (some '_') rest else none
  | prev, c :: rest =>
    if prev == some '_' && !isDigit c then none
    else (dropUnderscores (some c) rest).map (c :: ·)

/-- An optional sign: whether it is a minus, and the rest. -/
def sign : List Char → Bool × List Char
  | '-' :: rest => (true, rest)
  | '+' :: rest => (false, rest)
  | cs => (false, cs)

def digitsValue (ds : List Char) : Nat :=
  ds.foldl (fun n d => 10 * n + (d.toNat - '0'.toNat)) 0

def special? (cs : List Char) : Option Binary64 :=
  let (negative, rest) := sign cs
  let w := String.ofList (rest.map Char.toLower)
  if w == "inf" || w == "infinity" then some (Binary64.infinity negative)
  else if w == "nan" then some (if negative then Binary64.nan.neg else Binary64.nan)
  else none

/-- A decimal literal: sign, digits and point, exponent. -/
def decimal? (cs : List Char) : Option Binary64 :=
  let (negative, rest) := sign cs
  let whole := rest.takeWhile isDigit
  let rest := rest.drop whole.length
  let (fraction, rest) : List Char × List Char := match rest with
    | '.' :: r => (r.takeWhile isDigit, r.drop (r.takeWhile isDigit).length)
    | r => ([], r)
  if whole.isEmpty && fraction.isEmpty then none
  else
    let exponent : Option Int := match rest with
      | [] => some 0
      | e :: r =>
        if e == 'e' || e == 'E' then
          let (expNeg, ds) := sign r
          if !ds.isEmpty && ds.all isDigit then
            some (if expNeg then -(digitsValue ds : Int) else digitsValue ds)
          else none
        else none
    exponent.map fun e =>
      Binary64.ofDecimal negative (digitsValue (whole ++ fraction)) (e - fraction.length)

end Literal

/-- The double a setting's text spells, if it spells one. -/
def Binary64.ofLiteral? (s : String) : Option Binary64 := do
  let cs ← Literal.asciiForm s.toList
  let cs := ((cs.dropWhile Literal.isAsciiBlank).reverse.dropWhile Literal.isAsciiBlank).reverse
  let cs ← Literal.dropUnderscores none cs
  match Literal.special? cs with
  | some x => some x
  | none => Literal.decimal? cs

/-- The integer a text spells in base ten, if it spells one: blanks around it, an optional
sign, and digits with single underscores between them; leading zeros are allowed. -/
def Literal.int? (s : String) : Option Int := do
  let cs ← Literal.asciiForm s.toList
  let cs := ((cs.dropWhile Literal.isAsciiBlank).reverse.dropWhile Literal.isAsciiBlank).reverse
  let (negative, rest) := Literal.sign cs
  let ds ← Literal.dropUnderscores none rest
  if ds.isEmpty || !ds.all Literal.isDigit then none
  else
    let n : Int := Literal.digitsValue ds
    some (if negative then -n else n)

end SuggestGateway
