import SuggestGateway.Number.Rounding
/-!
# Arithmetic on non-negative doubles

The quotients, sums and differences that a computation in doubles produces, for values that are
never negative: each exact result is rounded to the nearest double, a tie going to the even
significand, as IEEE 754 arithmetic does it. Values are compared by their units of
`2 ^ (-1074)`, which is exact. Rounding to a number of decimal places rounds the exact value of
the double, a tie going to the even last digit, and then takes the double nearest to that
decimal.
-/
namespace SuggestGateway

namespace Binary64

/-- The double nearest to `u` units of `2 ^ (-1074)`; too large a value is infinite. -/
def ofUnits (u : Nat) : Binary64 :=
  ((roundUnits u 1).map fun (s, p) => make false s p).getD (infinity false)

/-- The double nearest to `a / b`; zero when `b` is zero, which no caller divides by. -/
def quotient (a b : Nat) : Binary64 :=
  if b = 0 then zero else (ofRatio? false a b).getD (infinity false)

def add (x y : Binary64) : Binary64 := ofUnits (x.units + y.units)

def distance (x y : Binary64) : Binary64 :=
  ofUnits (max x.units y.units - min x.units y.units)

def divCount (x : Binary64) (n : Nat) : Binary64 :=
  if n = 0 then zero else (ofRatio? false x.units (n * Nat.pow 2 1074)).getD (infinity false)

def mulCount (n : Nat) (x : Binary64) : Binary64 := ofUnits (n * x.units)

def floor (x : Binary64) : Nat := x.units / Nat.pow 2 1074

def sum (xs : List Binary64) : Binary64 := xs.foldl add zero

def roundPlaces (x : Binary64) (places : Nat) : Binary64 :=
  let scale := Nat.pow 10 places
  quotient (divRoundEven (x.units * scale) (Nat.pow 2 1074)) scale

def lt (x y : Binary64) : Bool := x.units < y.units

def le (x y : Binary64) : Bool := x.units ≤ y.units

def countLt (n : Nat) (x : Binary64) : Bool := n * Nat.pow 2 1074 < x.units

end Binary64

end SuggestGateway
