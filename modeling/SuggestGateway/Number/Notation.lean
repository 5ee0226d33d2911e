import SuggestGateway.Number.Shortest
/-!
# Writing doubles

A double is written as its shortest decimal. Decimal points close to the digits are written
in place, with `.0` after a whole number; the others take an exponent with a sign and at
least two digits. The texts of infinity and NaN differ between the places that write
doubles, so they are fields of a `Notation`.
-/
namespace SuggestGateway

/-- How a double is spelt. -/
structure Notation where
  /-- The least point position (see `Decimal.pointPosition`) written without an exponent. -/
  positionalFrom : Int
  /-- The greatest point position written without an exponent. -/
  positionalTo : Int
  exponentWidth : Nat
  /-- The text of an infinity, after a `-` when it is negative. -/
  infinity : String
  nan : String

namespace Notation

/-- Doubles as messages and displayed values spell them: `1e-05`, `0.0001`, `1e+16`,
`1000000000000000.0`, `inf`, `nan`. -/
def display : Notation := ⟨-3, 16, 2, "inf", "nan"⟩

/-- Doubles as JSON text spells them; the non-finite ones take the reader's tokens. -/
def json : Notation := { display with infinity := "Infinity", nan := "NaN" }

end Notation

def padDigits (width n : Nat) : String :=
  let s := toString n
  String.ofList (List.replicate (width - s.length) '0') ++ s

namespace Decimal

/-- The digits and point of a decimal without trailing zeros. -/
def render (f : Notation) (d : Decimal) : String :=
  let s := toString d.digits
  let p := d.pointPosition
  if f.positionalFrom ≤ p ∧ p ≤ f.positionalTo then
    if p ≤ 0 then "0." ++ String.ofList (List.replicate (-p).toNat '0') ++ s
    else if s.length ≤ p.toNat then
      s ++ String.ofList (List.replicate (p.toNat - s.length) '0') ++ ".0"
    else (s.take p.toNat).toString ++ "." ++ (s.drop p.toNat).toString
  else
    let first := (s.take 1).toString
    let rest := (s.drop 1).toString
    let mantissa := if rest.isEmpty then first else first ++ "." ++ rest
    let e := p - 1
    mantissa ++ "e" ++ (if e < 0 then "-" else "+") ++ padDigits f.exponentWidth e.natAbs

end Decimal

namespace Binary64

def render (f : Notation) (x : Binary64) : String :=
  if x.isNaN then f.nan
  else
    let sign := if x.negative then "-" else ""
    if x.isInfinite then sign ++ f.infinity
    else if x.isZero then sign ++ "0.0"
    else sign ++ x.shortest.render f

end Binary64

end SuggestGateway
