/-!
# Binary64 values

An IEEE 754 double held by its three fields: sign, biased exponent and fraction. A finite
double is a whole number of *units* of `2 ^ (-1074)`, namely `significand * 2 ^ shift`, so
comparing doubles, or a double with a rational, stays in `Nat`. `make` packs a significand
and a shift back into fields; `Valid` says when it does so faithfully.
-/
namespace SuggestGateway

/-- An IEEE 754 binary64 value, field by field. -/
structure Binary64 where
  negative : Bool
  /-- The biased exponent: `0` for zeros and subnormals, `2047` for infinities and NaN. -/
  exponent : Fin 2048
  fraction : Fin (Nat.pow 2 52)
deriving DecidableEq, Repr

namespace Binary64

def zero : Binary64 := ⟨false, 0, 0⟩

def signedZero (negative : Bool) : Binary64 := ⟨negative, 0, 0⟩

def infinity (negative : Bool) : Binary64 := ⟨negative, 2047, 0⟩

/-- The quiet NaN that a reader produces for a NaN token. -/
def nan : Binary64 := ⟨false, 2047, ⟨Nat.pow 2 51, by decide⟩⟩

def isFinite (x : Binary64) : Bool := x.exponent.val != 2047

def isNaN (x : Binary64) : Bool := x.exponent.val == 2047 && x.fraction.val != 0

def isInfinite (x : Binary64) : Bool := x.exponent.val == 2047 && x.fraction.val == 0

def isZero (x : Binary64) : Bool := x.exponent.val == 0 && x.fraction.val == 0

/-- The significand with its hidden bit: below `2 ^ 52` exactly for zeros and subnormals. -/
def significand (x : Binary64) : Nat :=
  if x.exponent.val = 0 then x.fraction.val else x.fraction.val + Nat.pow 2 52

/-- How far the significand is shifted: the value's unit is `2 ^ (shift - 1074)`. -/
def shift (x : Binary64) : Nat :=
  if x.exponent.val = 0 then 0 else x.exponent.val - 1

/-- The magnitude of a finite double in units of `2 ^ (-1074)`. -/
def units (x : Binary64) : Nat := x.significand * Nat.pow 2 x.shift

/-- A significand and shift that `make` packs faithfully: at most 53 bits, a full 53 unless
the shift is zero, and a shift that leaves the exponent below the infinities. -/
structure Valid (sig shift : Nat) : Prop where
  lt : sig < Nat.pow 2 53
  normal : Nat.pow 2 52 ≤ sig ∨ shift = 0
  le : shift ≤ 2045

/-- The finite double `sig * 2 ^ shift` units with the given sign. -/
def make (negative : Bool) (sig shift : Nat) : Binary64 :=
  if sig < Nat.pow 2 52 then
    ⟨negative, 0, ⟨sig % Nat.pow 2 52, Nat.mod_lt _ (by decide)⟩⟩
  else
    ⟨negative, ⟨(shift + 1) % 2048, Nat.mod_lt _ (by decide)⟩,
      ⟨(sig - Nat.pow 2 52) % Nat.pow 2 52, Nat.mod_lt _ (by decide)⟩⟩

def neg (x : Binary64) : Binary64 := { x with negative := !x.negative }

/-- Whether the value is at most zero, as an ordered comparison does it: NaN is not. -/
def isNonPositive (x : Binary64) : Bool :=
  !x.isNaN && (x.isZero || x.negative)

end Binary64

end SuggestGateway
