import SuggestGateway.Number.Rounding
/-!
# Shortest decimals

The shortest decimal that reads back as a given double. A finite double owns an interval of
reals that round to it (ends included when its significand is even); the decimal is found on
the first grid of `1, 2, …, 17` significant digits that has a point in that interval, and of
the two grid points around the double the nearer one is taken, a tie going to the even one.
All of it is exact arithmetic on magnitudes in half-units of `2 ^ (-1075)`.
-/
namespace SuggestGateway

/-- The number `digits * 10 ^ exponent`. -/
structure Decimal where
  digits : Nat
  exponent : Int
deriving DecidableEq, Repr

namespace Decimal

/-- The same number with the trailing zeros of its digits moved into the exponent. -/
def trim (d : Decimal) : Decimal :=
  if h : d.digits ≠ 0 ∧ d.digits % 10 = 0 then
    trim ⟨d.digits / 10, d.exponent + 1⟩
  else d
termination_by d.digits
decreasing_by omega

/-- The position of the decimal point after the first digit is counted: `d` is
`0.d₁d₂… * 10 ^ pointPosition`. -/
def pointPosition (d : Decimal) : Int := decimalLength d.digits + d.exponent

end Decimal

def floorLog10 (a b : Nat) : Int :=
  let e : Int := (decimalLength a : Int) - decimalLength b
  let reaches := if 0 ≤ e then b * Nat.pow 10 e.toNat ≤ a else b ≤ a * Nat.pow 10 (-e).toNat
  if reaches then e else e - 1

namespace Binary64

/-- The reals that round to a finite nonzero double, in half-units: the interval runs from
the first to the second number. Its lower half-gap halves at a power of two, where the
doubles below are twice as dense. -/
def roundingInterval (x : Binary64) : Nat × Nat :=
  let u := 2 * x.units
  let g := Nat.pow 2 x.shift
  let below := if x.fraction.val = 0 ∧ 1 < x.exponent.val then g / 2 else g
  (u - below, u + g)

/-- The grid point of `n` significant digits at or below `x`, where `e` is `⌊log₁₀ x⌋`. -/
def floorOnGrid (x : Binary64) (e : Int) (n : Nat) : Decimal :=
  let k : Int := e + 1 - n
  ⟨2 * x.units * Nat.pow 10 (-k).toNat / (Nat.pow 10 k.toNat * Nat.pow 2 1075), k⟩

/-- The point of the grid of `n` significant digits that names `x` best, if the grid has a
point in its rounding interval. `e` is `⌊log₁₀ x⌋`. -/
def nearestOnGrid (x : Binary64) (e : Int) (n : Nat) : Option Decimal :=
  let k : Int := e + 1 - n
  let up := Nat.pow 10 (-k).toNat
  let step := Nat.pow 10 k.toNat * Nat.pow 2 1075
  let value := 2 * x.units * up
  let (lo, hi) := x.roundingInterval
  let closed := x.significand % 2 = 0
  let inside (v : Nat) : Bool :=
    if closed then lo * up ≤ v && v ≤ hi * up else lo * up < v && v < hi * up
  let c := value / step
  match inside (c * step), inside ((c + 1) * step) with
  | true, true =>
    let below := value - c * step
    let above := (c + 1) * step - value
    if below < above then some ⟨c, k⟩
    else if above < below then some ⟨c + 1, k⟩
    else if c % 2 = 0 then some ⟨c, k⟩ else some ⟨c + 1, k⟩
  | true, false => some ⟨c, k⟩
  | false, true => some ⟨c + 1, k⟩
  | false, false => none

/-- The first grid from `n` digits on with a point for `x`; seventeen digits always have one. -/
def searchGrids (x : Binary64) (e : Int) : Nat → Nat → Decimal
  | 0, n => x.floorOnGrid e n
  | fuel + 1, n =>
    match x.nearestOnGrid e n with
    | some d => d
    | none => searchGrids x e fuel (n + 1)

/-- The shortest decimal that reads back as the finite double `x`, without trailing zeros;
zero is `0`. The sign is not part of it. -/
def shortest (x : Binary64) : Decimal :=
  if x.units = 0 then ⟨0, 0⟩
  else (x.searchGrids (floorLog10 x.units (Nat.pow 2 1074)) 17 1).trim

end Binary64

end SuggestGateway
