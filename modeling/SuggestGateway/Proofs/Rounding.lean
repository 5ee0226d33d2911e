import SuggestGateway.Number.Rounding
import Mathlib.Data.Nat.Dist
import Mathlib.Tactic.Ring
/-!
# Rounding to the nearest double

`roundUnits num den` rounds the magnitude `num / den`, counted in units of `2 ^ (-1074)`, to a
significand and a shift. It picks the shift at which the quotient keeps at most 53 bits,
rounds the quotient there to the nearest whole number with ties to even, and carries a
significand that reached `2 ^ 53` into the next binade. The main results:

* `roundUnits_nearest`: the result is a valid significand and shift whose value is nearest to
  `num / den` among all finite doubles, a tie going to an even significand;
* `roundUnits_eq_none_iff`: there is no result exactly from the midpoint between the largest
  double and `2 ^ 1024` on;
* for integers, `ofInt?_eq_none_iff`, `ofInt?_nearest` and `ofInt?_exact`: an integer has a
  double exactly below `2 ^ 1024 - 2 ^ 970`, that double is the nearest one with the sign
  taken into account (`IsNearest`), and it is exact up to `2 ^ 53`.

Distances are `Nat.dist` on magnitudes, scaled by `den` so that they stay whole.
-/
namespace SuggestGateway

section DivRoundEven

variable {n d : Nat}

theorem multiple_cases (q k d : Nat) :
    k * d + d ≤ q * d ∨ k = q ∨ k = q + 1 ∨ q * d + 2 * d ≤ k * d := by
  rcases Nat.lt_trichotomy k q with hlt | rfl | hgt
  · left
    have h := Nat.mul_le_mul_right d (show k + 1 ≤ q by omega)
    rwa [Nat.succ_mul] at h
  · right; left; rfl
  · rcases Nat.eq_or_lt_of_le (show q + 1 ≤ k by omega) with heq | hlt
    · right; right; left; exact heq.symm
    · right; right; right
      have h := Nat.mul_le_mul_right d (show q + 2 ≤ k by omega)
      rwa [Nat.add_mul] at h

theorem divRoundEven_cases (n d : Nat) :
    (divRoundEven n d = n / d ∧ (2 * (n % d) < d ∨ 2 * (n % d) = d ∧ n / d % 2 = 0)) ∨
      (divRoundEven n d = n / d + 1 ∧ (d < 2 * (n % d) ∨ 2 * (n % d) = d ∧ n / d % 2 = 1)) := by
  unfold divRoundEven
  dsimp only
  split_ifs <;> omega

/-- Rounding a quotient to the nearest whole number: no multiple of `d` is nearer to `n`
than the rounded quotient's, and one as near is that multiple again or the rounded quotient
is even. -/
theorem divRoundEven_nearest (hd : 0 < d) (k : Nat) :
    Nat.dist (divRoundEven n d * d) n ≤ Nat.dist (k * d) n ∧
      (Nat.dist (divRoundEven n d * d) n = Nat.dist (k * d) n →
        k = divRoundEven n d ∨ divRoundEven n d % 2 = 0) := by
  have hround := divRoundEven_cases n d
  have hn : n / d * d + n % d = n := by rw [Nat.mul_comm]; exact Nat.div_add_mod n d
  have hr := Nat.mod_lt n hd
  have hk := multiple_cases (n / d) k d
  have hsucc : (n / d + 1) * d = n / d * d + d := Nat.succ_mul _ _
  generalize divRoundEven n d = m at *
  generalize n / d = q at *
  generalize n % d = r at *
  subst hn
  unfold Nat.dist
  rcases hround with ⟨rfl, hhalf⟩ | ⟨rfl, hhalf⟩ <;>
    rcases hk with hk | rfl | rfl | hk <;> omega

end DivRoundEven

namespace Binary64

/-! ### The shift and the carry of `roundUnits` -/

/-- The shift at which `roundUnits` rounds a quotient: none while it has at most 53 bits,
else its bits beyond 53. -/
def roundingShift (q : Nat) : Nat := if q < 2 ^ 53 then 0 else Nat.log2 q - 52

/-- A significand rounded at a shift, carried into the next binade when rounding reached
`2 ^ 53`, and refused past the largest shift. -/
def settle (s p : Nat) : Option (Nat × Nat) :=
  let (s, p) := if s = 2 ^ 53 then (2 ^ 52, p + 1) else (s, p)
  if p ≤ 2045 then some (s, p) else none

theorem roundUnits_eq_settle (num den : Nat) :
    roundUnits num den =
      settle (divRoundEven num (den * 2 ^ roundingShift (num / den))) (roundingShift (num / den)) :=
  rfl

variable {num den : Nat}

theorem roundingShift_binade (num : Nat) (hden : 0 < den) :
    num < 2 ^ 53 * (den * 2 ^ roundingShift (num / den)) ∧
      (roundingShift (num / den) = 0 ∨ 2 ^ 52 * (den * 2 ^ roundingShift (num / den)) ≤ num) := by
  unfold roundingShift
  split
  · rename_i hsmall
    have h : num < 2 ^ 53 * den := (Nat.div_lt_iff_lt_mul hden).mp hsmall
    exact ⟨by rwa [Nat.pow_zero, Nat.mul_one], Or.inl rfl⟩
  · rename_i hlarge
    have hq : num / den ≠ 0 := by omega
    have hlog : 53 ≤ Nat.log2 (num / den) := (Nat.le_log2 hq).mpr (by omega)
    have hupper : num < 2 ^ (Nat.log2 (num / den) + 1) * den :=
      (Nat.div_lt_iff_lt_mul hden).mp Nat.lt_log2_self
    have hlower : 2 ^ Nat.log2 (num / den) * den ≤ num :=
      (Nat.le_div_iff_mul_le hden).mp (Nat.log2_self_le hq)
    have htop : 2 ^ (Nat.log2 (num / den) + 1) = 2 ^ 53 * 2 ^ (Nat.log2 (num / den) - 52) := by
      rw [← Nat.pow_add]; congr 1; omega
    have hbottom : 2 ^ Nat.log2 (num / den) = 2 ^ 52 * 2 ^ (Nat.log2 (num / den) - 52) := by
      rw [← Nat.pow_add]; congr 1; omega
    refine ⟨?_, Or.inr ?_⟩
    · rw [htop] at hupper
      calc num < 2 ^ 53 * 2 ^ (Nat.log2 (num / den) - 52) * den := hupper
        _ = _ := by ring
    · rw [hbottom] at hlower
      calc _ = 2 ^ 52 * 2 ^ (Nat.log2 (num / den) - 52) * den := by ring
        _ ≤ num := hlower

theorem settle_eq_some {s p s' p' : Nat} (h : settle s p = some (s', p')) :
    s' * 2 ^ p' = s * 2 ^ p ∧ p' ≤ 2045 ∧ (s % 2 = 0 → s' % 2 = 0) ∧
      (s ≤ 2 ^ 53 → (2 ^ 52 ≤ s ∨ p = 0) → Valid s' p') := by
  unfold settle at h
  by_cases hs : s = 2 ^ 53
  · simp only [hs, if_true] at h
    split at h
    · obtain ⟨rfl, rfl⟩ := Prod.mk.inj (Option.some.inj h)
      rename_i hp
      subst hs
      exact ⟨by ring, hp, fun _ => by decide, fun _ _ => ⟨by decide, Or.inl (Nat.le_refl _), hp⟩⟩
    · cases h
  · simp only [hs, if_false] at h
    split at h
    · obtain ⟨rfl, rfl⟩ := Prod.mk.inj (Option.some.inj h)
      rename_i hp
      exact ⟨rfl, hp, id, fun hle hnormal => ⟨Nat.lt_of_le_of_ne hle hs, hnormal, hp⟩⟩
    · cases h

theorem settle_eq_none {s p : Nat} : settle s p = none ↔ 2045 < p ∨ (s = 2 ^ 53 ∧ p = 2045) := by
  unfold settle
  by_cases hs : s = 2 ^ 53
  · simp only [hs, if_true, true_and]
    split <;> simp <;> omega
  · simp only [hs, if_false, false_and, or_false]
    split <;> simp <;> omega

/-! ### Nearest and too large -/

/-- `s * 2 ^ p` units is a magnitude nearest to `num / den` units among the finite doubles',
a tie going to an even significand. -/
def NearestUnits (num den s p : Nat) : Prop :=
  ∀ s' p', Valid s' p' →
    Nat.dist (s * 2 ^ p * den) num ≤ Nat.dist (s' * 2 ^ p' * den) num ∧
      (Nat.dist (s * 2 ^ p * den) num = Nat.dist (s' * 2 ^ p' * den) num →
        s * 2 ^ p = s' * 2 ^ p' ∨ s % 2 = 0)

theorem divRoundEven_binade (num : Nat) (hden : 0 < den) :
    divRoundEven num (den * 2 ^ roundingShift (num / den)) ≤ 2 ^ 53 ∧
      (roundingShift (num / den) = 0 ∨
        2 ^ 52 ≤ divRoundEven num (den * 2 ^ roundingShift (num / den))) := by
  obtain ⟨hupper, hlower⟩ := roundingShift_binade num hden
  generalize roundingShift (num / den) = p at *
  have hD : 0 < den * 2 ^ p := Nat.mul_pos hden (Nat.two_pow_pos p)
  generalize den * 2 ^ p = D at *
  have hnear := fun k => (divRoundEven_nearest (n := num) hD k).1
  constructor
  · have h := hnear (2 ^ 53)
    unfold Nat.dist at h
    exact Nat.le_of_mul_le_mul_right (by omega) hD
  · refine hlower.imp id fun hlow => ?_
    have h := hnear (2 ^ 52)
    unfold Nat.dist at h
    exact Nat.le_of_mul_le_mul_right (by omega) hD

/-- A rounded magnitude is valid and nearest to `num / den` units, a tie going to an even
significand. -/
theorem roundUnits_nearest (hden : 0 < den) {s p : Nat} (h : roundUnits num den = some (s, p)) :
    Valid s p ∧ NearestUnits num den s p := by
  rw [roundUnits_eq_settle] at h
  obtain ⟨hle, hfull⟩ := divRoundEven_binade num hden
  obtain ⟨hupper, hlower⟩ := roundingShift_binade num hden
  obtain ⟨hvalue, -, heven, hvalid⟩ := settle_eq_some h
  refine ⟨hvalid hle (hfull.symm.imp id id), fun s' p' hv => ?_⟩
  generalize roundingShift (num / den) = p0 at *
  have hD : 0 < den * 2 ^ p0 := Nat.mul_pos hden (Nat.two_pow_pos p0)
  have hnear := fun k => divRoundEven_nearest (n := num) hD k
  generalize divRoundEven num (den * 2 ^ p0) = s0 at *
  have hx : s * 2 ^ p * den = s0 * (den * 2 ^ p0) := by rw [hvalue]; ring
  rw [hx]
  rcases Nat.lt_or_ge p' p0 with hfine | hcoarse
  · have hlow := hlower.resolve_left (by omega)
    have hsmall : s' * 2 ^ p' * den < 2 ^ 52 * (den * 2 ^ p0) := by
      have hs' : s' * 2 ^ p' < 2 ^ 53 * 2 ^ p' := Nat.mul_lt_mul_of_pos_right hv.lt (Nat.two_pow_pos p')
      have hp : 2 ^ 53 * 2 ^ p' ≤ 2 ^ 52 * 2 ^ p0 := by
        rw [← Nat.pow_add, ← Nat.pow_add]; exact pow_le_pow_right₀ (by decide) (by omega)
      calc s' * 2 ^ p' * den < 2 ^ 52 * 2 ^ p0 * den :=
            Nat.mul_lt_mul_of_pos_right (Nat.lt_of_lt_of_le hs' hp) hden
        _ = 2 ^ 52 * (den * 2 ^ p0) := by ring
    have h52 := (hnear (2 ^ 52)).1
    unfold Nat.dist at h52 ⊢
    omega
  · have hy : s' * 2 ^ p' * den = s' * 2 ^ (p' - p0) * (den * 2 ^ p0) := by
      rw [show p' = (p' - p0) + p0 by omega, Nat.pow_add]; simp only [Nat.add_sub_cancel]; ring
    rw [hy]
    obtain ⟨hdist, htie⟩ := hnear (s' * 2 ^ (p' - p0))
    refine ⟨hdist, fun heq => (htie heq).imp (fun hk => ?_) heven⟩
    rw [hvalue, ← hk, Nat.mul_assoc, ← Nat.pow_add, Nat.sub_add_cancel hcoarse]

theorem roundUnits_eq_none_iff (hden : 0 < den) :
    roundUnits num den = none ↔ (2 ^ 54 - 1) * 2 ^ 2044 * den ≤ num := by
  rw [roundUnits_eq_settle, settle_eq_none]
  obtain ⟨hle, -⟩ := divRoundEven_binade num hden
  obtain ⟨hupper, hlower⟩ := roundingShift_binade num hden
  generalize roundingShift (num / den) = p at *
  have hD : 0 < den * 2 ^ p := Nat.mul_pos hden (Nat.two_pow_pos p)
  have hnear := fun k => divRoundEven_nearest (n := num) hD k
  generalize divRoundEven num (den * 2 ^ p) = s at *
  have hmid : (2 ^ 54 - 1) * 2 ^ 2044 * den = (2 ^ 54 - 1) * (den * 2 ^ 2044) := by omega
  rw [hmid]
  constructor
  · rintro (hp | ⟨rfl, rfl⟩)
    · have hwide : den * 2 ^ 2046 ≤ den * 2 ^ p :=
        Nat.mul_le_mul_left den (pow_le_pow_right₀ (by decide) hp)
      have hfour : den * 2 ^ 2046 = 4 * (den * 2 ^ 2044) := by omega
      have hlow := hlower.resolve_left (by omega)
      omega
    · have htwo : den * 2 ^ 2045 = 2 * (den * 2 ^ 2044) := by omega
      have h := (hnear (2 ^ 53 - 1)).1
      unfold Nat.dist at h
      omega
  · intro hbig
    by_contra hfits
    have hp : p ≤ 2045 := by omega
    rcases Nat.lt_or_ge p 2045 with hlow | htop
    · have hnarrow : den * 2 ^ p ≤ den * 2 ^ 2044 :=
        Nat.mul_le_mul_left den (pow_le_pow_right₀ (by decide) (by omega))
      omega
    · obtain rfl : p = 2045 := by omega
      have htwo : den * 2 ^ 2045 = 2 * (den * 2 ^ 2044) := by omega
      have hs : s ≤ 2 ^ 53 - 1 := by omega
      have hsD : s * (den * 2 ^ 2045) ≤ (2 ^ 53 - 1) * (den * 2 ^ 2045) := Nat.mul_le_mul_right _ hs
      obtain ⟨hdist, htie⟩ := hnear (2 ^ 53)
      unfold Nat.dist at hdist htie
      have hfloor : (2 ^ 53 - 1) * (den * 2 ^ 2045) ≤ s * (den * 2 ^ 2045) := by omega
      obtain rfl : s = 2 ^ 53 - 1 := Nat.le_antisymm hs (Nat.le_of_mul_le_mul_right hfloor hD)
      rcases htie (by omega) with hk | heven <;> omega

/-! ### Finite doubles -/

/-- The value of a finite double in units of `2 ^ (-1074)`, with its sign. -/
def signedUnits (x : Binary64) : Int := if x.negative then -(x.units : Int) else x.units

/-- `x` is a double nearest to `t` units, a tie going to an even significand: the rounding
of IEEE 754 to nearest, ties to even, among the finite doubles. -/
def IsNearest (x : Binary64) (t : Int) : Prop :=
  x.isFinite ∧ ∀ y : Binary64, y.isFinite →
    (x.signedUnits - t).natAbs ≤ (y.signedUnits - t).natAbs ∧
      ((x.signedUnits - t).natAbs = (y.signedUnits - t).natAbs →
        x.signedUnits = y.signedUnits ∨ x.significand % 2 = 0)

theorem units_eq (x : Binary64) : x.units = x.significand * 2 ^ x.shift := rfl

theorem valid_of_isFinite {x : Binary64} (hx : x.isFinite) : Valid x.significand x.shift := by
  have he := x.exponent.isLt
  have hf := x.fraction.isLt
  have hfin : x.exponent.val ≠ 2047 := by simpa [isFinite] using hx
  unfold significand shift
  split
  · exact ⟨by show x.fraction.val < 2 ^ 53; simp only [Nat.pow_eq] at hf; omega, Or.inr rfl,
      by omega⟩
  · exact ⟨by show x.fraction.val + 2 ^ 52 < 2 ^ 53; simp only [Nat.pow_eq] at hf; omega,
      Or.inl (Nat.le_add_left _ _), by omega⟩

section Make

variable {negative : Bool} {s p : Nat}

theorem make_negative : (make negative s p).negative = negative := by
  unfold make; split <;> rfl

theorem make_significand (h : Valid s p) : (make negative s p).significand = s := by
  have hlt := h.lt
  simp only [Nat.pow_eq] at hlt
  unfold make significand
  split
  · simp only [Fin.val_zero, if_true]
    exact Nat.mod_eq_of_lt ‹_›
  · rename_i hfull
    have hexp : (p + 1) % 2048 ≠ 0 := by have := h.le; omega
    simp only [hexp, if_false]
    simp only [Nat.pow_eq] at hfull ⊢
    omega

theorem make_units (h : Valid s p) : (make negative s p).units = s * 2 ^ p := by
  unfold units
  rw [make_significand h]
  congr 1
  unfold make shift
  split
  · rename_i hsub
    have hp : p = 0 := h.normal.resolve_left (Nat.not_le.mpr hsub)
    simp [hp]
  · have hexp : (p + 1) % 2048 ≠ 0 := by have := h.le; omega
    simp only [hexp, if_false, Nat.pow_eq]
    congr 1
    have := h.le
    omega

theorem make_isFinite (h : Valid s p) : (make negative s p).isFinite := by
  have := h.le
  unfold make isFinite
  split
  · simp
  · simp
    omega

theorem make_signedUnits (h : Valid s p) :
    (make negative s p).signedUnits = if negative then -((s * 2 ^ p : Nat) : Int) else (s * 2 ^ p : Nat) := by
  rw [signedUnits, make_negative, make_units h]

end Make

theorem isNearest_of_magnitude {x : Binary64} {t : Int} (hx : x.isFinite)
    (hsign : x.negative = decide (t < 0))
    (hmag : ∀ y : Binary64, y.isFinite →
      Nat.dist x.units t.natAbs ≤ Nat.dist y.units t.natAbs ∧
        (Nat.dist x.units t.natAbs = Nat.dist y.units t.natAbs →
          x.units = y.units ∨ x.significand % 2 = 0)) :
    x.IsNearest t := by
  refine ⟨hx, fun y hy => ?_⟩
  obtain ⟨hle, htie⟩ := hmag y hy
  have hzero := (hmag zero (by decide)).1
  have hz : zero.units = 0 := by decide
  rw [hz] at hzero
  unfold Nat.dist at hle htie hzero
  have ht : x.negative = true ↔ t < 0 := by rw [hsign, decide_eq_true_iff]
  unfold signedUnits
  cases hxn : x.negative <;> cases hyn : y.negative <;>
    simp only [hxn, Bool.false_eq_true, false_iff, true_iff, not_lt, ↓reduceIte] at ht ⊢ <;> omega

theorem exists_valid_of_lt (m : Nat) (hm : m < 2 ^ 53) {p : Nat} (hp : p ≤ 2045) :
    ∃ s q, Valid s q ∧ s * 2 ^ q = m * 2 ^ p := by
  induction p generalizing m with
  | zero => exact ⟨m, 0, ⟨hm, Or.inr rfl, Nat.zero_le _⟩, rfl⟩
  | succ p ih =>
    by_cases hfull : 2 ^ 52 ≤ m
    · exact ⟨m, p + 1, ⟨hm, Or.inl hfull, hp⟩, rfl⟩
    · obtain ⟨s, q, hv, hval⟩ := ih (2 * m) (by omega) (by omega)
      exact ⟨s, q, hv, by rw [hval, Nat.pow_succ]; ring⟩

/-! ### Integers -/

theorem ofInt?_eq_none_iff (n : Int) : ofInt? n = none ↔ 2 ^ 1024 - 2 ^ 970 ≤ n.natAbs := by
  unfold ofInt? ofRatio?
  rw [Option.map_eq_none_iff, roundUnits_eq_none_iff Nat.one_pos]
  simp only [Nat.pow_eq]
  omega

/-- The double of an integer is the one nearest to it, a tie going to an even significand. -/
theorem ofInt?_nearest {n : Int} {x : Binary64} (h : ofInt? n = some x) :
    x.IsNearest (n * 2 ^ 1074) := by
  unfold ofInt? ofRatio? at h
  obtain ⟨⟨s, p⟩, hround, rfl⟩ := Option.map_eq_some_iff.mp h
  obtain ⟨hvalid, hnear⟩ := roundUnits_nearest Nat.one_pos hround
  apply isNearest_of_magnitude (make_isFinite hvalid)
  · rw [make_negative]
    simp only [decide_eq_decide]
    omega
  · intro y hy
    have hy' := hnear y.significand y.shift (valid_of_isFinite hy)
    have ht : (n * 2 ^ 1074).natAbs = n.natAbs * Nat.pow 2 1074 := by
      simp only [Nat.pow_eq]
      omega
    rw [ht, make_units hvalid, make_significand hvalid, units_eq y]
    simpa only [Nat.mul_one] using hy'

theorem exists_valid (m p : Nat) (hm : m ≤ 2 ^ 53) (hp : p < 2045) :
    ∃ s q, Valid s q ∧ s * 2 ^ q = m * 2 ^ p := by
  by_cases htop : m = 2 ^ 53
  · subst htop
    exact ⟨2 ^ 52, p + 1, ⟨by decide, Or.inl (Nat.le_refl _), hp⟩, by rw [Nat.pow_succ]; ring⟩
  · exact exists_valid_of_lt m (by omega) (by omega)

/-- An integer of at most 54 bits, `2 ^ 53` included, has a double of its exact value. -/
theorem ofInt?_exact {n : Int} (h : n.natAbs ≤ 2 ^ 53) :
    ∃ x, ofInt? n = some x ∧ x.signedUnits = n * 2 ^ 1074 := by
  obtain ⟨x, hx⟩ : ∃ x, ofInt? n = some x :=
    Option.ne_none_iff_exists'.mp (by rw [Ne, ofInt?_eq_none_iff]; omega)
  refine ⟨x, hx, ?_⟩
  obtain ⟨s, q, hv, hval⟩ := exists_valid n.natAbs 1074 h (by decide)
  have hy : (make (decide (n < 0)) s q).signedUnits = n * 2 ^ 1074 := by
    rw [make_signedUnits hv]
    split <;> rename_i hneg <;> simp only [decide_eq_true_eq] at hneg <;> omega
  have hle := ((ofInt?_nearest hx).2 (make (decide (n < 0)) s q) (make_isFinite hv)).1
  rw [hy, Int.sub_self, Int.natAbs_zero] at hle
  omega

end Binary64

end SuggestGateway
