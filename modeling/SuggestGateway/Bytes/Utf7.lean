/-!
# UTF-7

Decoding UTF-7 (RFC 2152), each problem marked or replaced by U+FFFD. ASCII bytes other than `+`
stand for themselves. A `+` opens a run of modified base-64 digits that spell UTF-16 code
units, sixteen bits each, and the first byte that is no such digit closes it; a closing `-`
is dropped, any other closing byte is read again outside the run. `+-` is a plus sign.

Problems: a byte beyond ASCII outside a run; a `+` followed by a byte that can neither open a
run nor be `-` (both bytes go); a run closed with six or more unused bits, or with fewer but
not all zero (the closing byte goes too); and a run left open at the end with unused bits of
that kind or a waiting high surrogate. A high surrogate whose partner does not follow stands
alone; as a character cannot hold a surrogate, U+FFFD stands for it.
-/
namespace SuggestGateway

namespace Utf7

/-- The value of a digit of the base-64 alphabet, `A`–`Z`, `a`–`z`, `0`–`9`, `+` and `/`. -/
def digitValue? (b : UInt8) : Option Nat :=
  let n := b.toNat
  if 65 ≤ n && n ≤ 90 then some (n - 65)
  else if 97 ≤ n && n ≤ 122 then some (n - 97 + 26)
  else if 48 ≤ n && n ≤ 57 then some (n - 48 + 52)
  else if n == 43 then some 62
  else if n == 47 then some 63
  else none

/-- The bits of a run not yet spent: their value, their count, and a high surrogate waiting
for its partner. -/
structure Pending where
  bits : Nat
  count : Nat
  high : Option Nat
deriving DecidableEq, Repr

/-- Where the decoder stands: outside a run, or inside one. -/
inductive Mode where
  | direct
  | shifted (p : Pending)
deriving DecidableEq, Repr

/-- The measure of a mode: a run must be left before its closing byte is read again. -/
def Mode.rank : Mode → Nat
  | .direct => 0
  | .shifted _ => 1

/-- A run that ends here is malformed: it leaves six bits or more, or nonzero bits. -/
def Pending.malformed (p : Pending) : Bool := 6 ≤ p.count || (0 < p.count && p.bits != 0)

def isHighSurrogate (n : Nat) : Bool := 0xD800 ≤ n && n ≤ 0xDBFF

def isLowSurrogate (n : Nat) : Bool := 0xDC00 ≤ n && n ≤ 0xDFFF

/-- The character of a code unit that is not a surrogate, U+FFFD for a lone surrogate. -/
def unitChar (n : Nat) : Char :=
  if 0xD800 ≤ n && n ≤ 0xDFFF then '�' else Char.ofNat n

/-- Take in one code unit: a high surrogate waits, a low one completes a waiting high one. A
lone surrogate is no problem of the bytes; U+FFFD stands for it. -/
def Pending.takeUnit (high : Option Nat) (unit : Nat) : List (Option Char) × Option Nat :=
  match high with
  | some h =>
    if isLowSurrogate unit then
      ([some (Char.ofNat (0x10000 + (h - 0xD800) * 0x400 + (unit - 0xDC00)))], none)
    else if isHighSurrogate unit then ([some '�'], some unit)
    else ([some '�', some (unitChar unit)], none)
  | none => if isHighSurrogate unit then ([], some unit) else ([some (unitChar unit)], none)

/-- Decode from a mode to the end of the bytes, marking each problem with `none`. -/
def decodeFrom (mode : Mode) (bs : List UInt8) : List (Option Char) :=
  match mode, bs with
  | .direct, [] => []
  | .shifted p, [] => if p.high.isSome || p.malformed then [none] else []
  | .direct, b :: rest =>
    if b == 43 then
      match rest with
      | 45 :: more => some '+' :: decodeFrom .direct more
      | c :: more =>
        if (digitValue? c).isNone then none :: decodeFrom .direct more
        else decodeFrom (.shifted ⟨0, 0, none⟩) (c :: more)
      | [] => decodeFrom (.shifted ⟨0, 0, none⟩) []
    else if b.toNat < 128 then some (Char.ofNat b.toNat) :: decodeFrom .direct rest
    else none :: decodeFrom .direct rest
  | .shifted p, b :: rest =>
    match digitValue? b with
    | some v =>
      let bits := p.bits * 64 + v
      let count := p.count + 6
      if count < 16 then decodeFrom (.shifted ⟨bits, count, p.high⟩) rest
      else
        let left := count - 16
        let (out, high) := Pending.takeUnit p.high (bits / Nat.pow 2 left)
        out ++ decodeFrom (.shifted ⟨bits % Nat.pow 2 left, left, high⟩) rest
    | none =>
      if p.malformed then none :: decodeFrom .direct rest
      else
        let lone := if p.high.isSome && b.toNat < 128 && b != 43 then [some '�'] else []
        if b == 45 then lone ++ decodeFrom .direct rest
        else lone ++ decodeFrom .direct (b :: rest)
termination_by (bs.length, mode.rank)
decreasing_by
  all_goals first
    | exact Prod.Lex.right _ Nat.zero_lt_one
    | exact Prod.Lex.left _ _ (Nat.lt_succ_self _)
    | exact Prod.Lex.left _ _ (Nat.lt_succ_of_lt (Nat.lt_succ_self _))

def decodeMarked (bs : List UInt8) : List (Option Char) := decodeFrom .direct bs

def decode (bs : List UInt8) : String := String.ofList ((decodeMarked bs).map (·.getD '�'))

end Utf7

end SuggestGateway
