import SuggestGateway.Number.Binary64
/-!
# Rounding a rational to a double

A positive rational `num / den` becomes the double nearest to it, a tie going to the even
significand. The magnitude is measured in units of `2 ^ (-1074)`; the significand keeps at
most 53 bits, so the shift is the least one that leaves no more. A value whose rounding
reaches `2 ^ 1024` has no finite double: `roundUnits` answers `none`, and the callers decide
between infinity (reading a decimal) and an error (converting an integer).
-/
namespace SuggestGateway

/-- `n / d` rounded to the nearest whole number, a tie going to the even one. -/
def divRoundEven (n d : Nat) : Nat :=
  let q := n / d
  let r := n % d
  if 2 * r < d then q
  else if d < 2 * r then q + 1
  else if q % 2 = 0 then q else q + 1

/-- The number of decimal digits of `n`; zero has one. -/
def decimalLength (n : Nat) : Nat :=
  if n < 10 then 1 else decimalLength (n / 10) + 1
termination_by n
decreasing_by omega

namespace Binary64

/-- The magnitude `num / den` units as a rounded significand and shift, or `none` when the
rounded value is `2 ^ 1024` or more. -/
def roundUnits (num den : Nat) : Option (Nat × Nat) :=
  let q := num / den
  let p := if q < Nat.pow 2 53 then 0 else Nat.log2 q - 52
  let s := divRoundEven num (den * Nat.pow 2 p)
  let (s, p) := if s = Nat.pow 2 53 then (Nat.pow 2 52, p + 1) else (s, p)
  if p ≤ 2045 then some (s, p) else none

/-- The double nearest to `±(a / b)`, or `none` when it would be infinite. -/
def ofRatio? (negative : Bool) (a b : Nat) : Option Binary64 :=
  (roundUnits (a * Nat.pow 2 1074) b).map fun (s, p) => make negative s p

/-- The double nearest to an integer, or `none` when the integer is too large for any. -/
def ofInt? (n : Int) : Option Binary64 :=
  ofRatio? (decide (n < 0)) n.natAbs 1

/-- The double nearest to `±(digits * 10 ^ exp)`; too large a magnitude gives an infinity.
Magnitudes of `10 ^ 310` and more are infinite and those below `10 ^ (-330)` round to zero,
which spares the powers of ten that a long exponent would ask for. -/
def ofDecimal (negative : Bool) (digits : Nat) (exp : Int) : Binary64 :=
  if digits = 0 then signedZero negative
  else
    let top := exp + decimalLength digits
    if 310 < top then infinity negative
    else if top < -330 then signedZero negative
    else
      let r := if 0 ≤ exp then ofRatio? negative (digits * Nat.pow 10 exp.toNat) 1
        else ofRatio? negative digits (Nat.pow 10 (-exp).toNat)
      r.getD (infinity negative)

end Binary64

end SuggestGateway
