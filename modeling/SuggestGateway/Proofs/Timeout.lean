import SuggestGateway.Client.Basic
/-!
# The configured timeout

The timeout comes from the `SEARCH_API_TIMEOUT` setting. An unset or empty setting, a text that
spells no double, and a double at most zero all give the default of ten seconds; any other
reading is the timeout. That is wider than "above zero" (`isPositive`: not negative, not NaN,
and with a magnitude, `isPositive_iff`): a comparison with NaN is false, so the test "at most
zero" lets a setting that reads as NaN through, and NaN becomes the timeout. Every other setting
gives a timeout above zero, which is the reading when the reading is above zero and the default
otherwise (`timeout_positive_unless_reads_nan`); the setting `nan` gives NaN
(`timeout_of_nan_setting`).
-/
namespace SuggestGateway

namespace Binary64

/-- Whether the value is greater than zero, as an ordered comparison does it: NaN is not. -/
def isPositive (x : Binary64) : Bool := !x.isNaN && !x.isZero && !x.negative

theorem units_pos_iff (x : Binary64) : 0 < x.units ↔ x.isZero = false := by
  have hpow : 0 < Nat.pow 2 x.shift := Nat.two_pow_pos x.shift
  simp only [units, significand, isZero, Nat.mul_pos_iff_of_pos_right hpow]
  split
  · rename_i hsub
    simp [hsub, Nat.pos_iff_ne_zero]
  · rename_i hnormal
    have hbit : 0 < x.fraction.val + Nat.pow 2 52 := Nat.add_pos_right _ (Nat.two_pow_pos 52)
    simp [hnormal, hbit]

theorem isPositive_iff (x : Binary64) :
    x.isPositive = true ↔ x.negative = false ∧ x.isNaN = false ∧ 0 < x.units := by
  rw [units_pos_iff]
  unfold isPositive
  cases x.isNaN <;> cases x.isZero <;> cases x.negative <;> decide

theorem isNonPositive_eq_false_iff (x : Binary64) :
    x.isNonPositive = false ↔ x.isPositive = true ∨ x.isNaN = true := by
  simp only [isNonPositive, isPositive]
  cases x.isNaN <;> cases x.isZero <;> cases x.negative <;> decide

theorem isPositive_of_isNonPositive {x : Binary64} (h : x.isNonPositive = true) :
    x.isPositive = false := by
  revert h
  simp only [isNonPositive, isPositive]
  cases x.isNaN <;> cases x.isZero <;> cases x.negative <;> decide

end Binary64

namespace Environment

/-- The double the timeout setting spells, when the setting is there, not empty, and readable. -/
def timeoutReading? (env : Environment) : Option Binary64 :=
  (env.setting? "SEARCH_API_TIMEOUT").bind Binary64.ofLiteral?

/-- The timeout that only readings above zero give: the reading itself when it is above zero,
and the default otherwise. -/
def positiveTimeout : Option Binary64 → Binary64
  | some x => if x.isPositive then x else defaultTimeout
  | none => defaultTimeout

theorem defaultTimeout_eq : defaultTimeout = ⟨false, 1026, ⟨Nat.pow 2 50, by decide⟩⟩ := by
  have hlength : decimalLength 10 = 2 := by simp [decimalLength]
  simp only [defaultTimeout, Binary64.ofDecimal, hlength]
  decide +kernel

theorem defaultTimeout_isPositive : defaultTimeout.isPositive = true := by
  rw [defaultTimeout_eq]
  decide

theorem timeout_of_no_reading {env : Environment} (h : env.timeoutReading? = none) :
    env.timeout = defaultTimeout := by
  unfold timeoutReading? at h
  unfold timeout
  cases hs : env.setting? "SEARCH_API_TIMEOUT" with
  | none => rfl
  | some raw =>
    rw [hs, Option.bind_some] at h
    simp only [h]

/-- A reading is the timeout unless it is at most zero. -/
theorem timeout_of_reading {env : Environment} {x : Binary64} (h : env.timeoutReading? = some x) :
    env.timeout = if x.isNonPositive then defaultTimeout else x := by
  obtain ⟨raw, hs, hx⟩ := Option.bind_eq_some_iff.mp h
  simp only [timeout, hs, hx]

end Environment

/-- Every environment gives a client without a timeout of its own the environment's timeout,
and that timeout is above zero and follows the rule "the reading when it is above zero, ten
seconds otherwise", unless the setting reads as NaN: then the timeout is that NaN. -/
theorem timeout_positive_unless_reads_nan (env : Environment) (base token : Option String) :
    (Client.create env base token .null).timeout = .float env.timeout ∧
    ((env.timeout.isPositive = true ∧ env.timeout = Environment.positiveTimeout env.timeoutReading?) ∨
      (env.timeoutReading? = some env.timeout ∧ env.timeout.isNaN = true)) := by
  refine ⟨rfl, ?_⟩
  cases hr : env.timeoutReading? with
  | none =>
    left
    rw [Environment.timeout_of_no_reading hr]
    exact ⟨Environment.defaultTimeout_isPositive, rfl⟩
  | some x =>
    rw [Environment.timeout_of_reading hr]
    cases hx : x.isNonPositive with
    | true =>
      left
      simp [Environment.positiveTimeout, Binary64.isPositive_of_isNonPositive hx,
        Environment.defaultTimeout_isPositive]
    | false =>
      rcases (Binary64.isNonPositive_eq_false_iff x).mp hx with hpos | hnan
      · left
        simp [Environment.positiveTimeout, hpos]
      · right
        simp [hnan]

/-- The setting `nan` makes the timeout NaN, which is not above zero and not the default. -/
theorem timeout_of_nan_setting :
    Environment.timeout [("SEARCH_API_TIMEOUT", "nan")] = Binary64.nan ∧
      Binary64.nan.isPositive = false ∧ Binary64.nan ≠ Environment.defaultTimeout := by
  rw [Environment.defaultTimeout_eq]
  decide

end SuggestGateway
