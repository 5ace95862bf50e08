/-
# Base.Binary64 -- rounding a rational to the nearest double

A double with 53 significant bits, ties to the even significand.  Exponents are
unbounded: nothing that uses this module comes near overflow or subnormals.
-/
import Mathlib

namespace Atrium.Base.Binary64

set_option autoImplicit false

/-- The nearest integer, the even one of two. -/
def roundEven (x : ℚ) : Int :=
  let low := ⌊x⌋
  let rest := x - low
  if rest < 1 / 2 then low
  else if 1 / 2 < rest then low + 1
  else if low % 2 = 0 then low
  else low + 1

/-- The exponent `e` with `2 ^ 52 ≤ |x| / 2 ^ e < 2 ^ 53`, for `x` not zero. -/
def exponent (x : ℚ) : Int :=
  let guess : Int := Nat.log2 x.num.natAbs - Nat.log2 x.den - 52
  if |x| < 2 ^ 52 * (2 : ℚ) ^ guess then guess - 1 else guess

/-- The double nearest to `x`. -/
def round (x : ℚ) : ℚ :=
  if x = 0 then 0 else roundEven (x / 2 ^ exponent x) * 2 ^ exponent x

theorem roundEven_nonneg {x : ℚ} (nonneg : 0 ≤ x) : 0 ≤ roundEven x := by
  have low : 0 ≤ ⌊x⌋ := Int.floor_nonneg.mpr nonneg
  unfold roundEven
  grind

theorem round_nonneg {x : ℚ} (nonneg : 0 ≤ x) : 0 ≤ round x := by
  unfold round
  split
  · exact le_refl 0
  · have scale : (0 : ℚ) ≤ 2 ^ exponent x := zpow_nonneg (by norm_num) _
    have significand : (0 : ℚ) ≤ roundEven (x / 2 ^ exponent x) := by
      exact_mod_cast roundEven_nonneg (div_nonneg nonneg scale)
    exact mul_nonneg significand scale

theorem roundEven_int (n : Int) : roundEven n = n := by
  simp [roundEven]

theorem floor_le_roundEven (x : ℚ) : ⌊x⌋ ≤ roundEven x := by
  unfold roundEven
  grind

theorem roundEven_nonpos {x : ℚ} (nonpos : x ≤ 0) : roundEven x ≤ 0 := by
  have low : ⌊x⌋ ≤ 0 := Int.floor_nonpos nonpos
  by_cases zero : ⌊x⌋ = 0
  · have same : x = 0 := by
      have below := Int.floor_le x
      rw [zero] at below
      exact le_antisymm nonpos (by exact_mod_cast below)
    rw [same]
    exact (roundEven_int 0).le
  · unfold roundEven
    grind

theorem round_nonpos {x : ℚ} (nonpos : x ≤ 0) : round x ≤ 0 := by
  unfold round
  split
  · exact le_refl 0
  · have scale : (0 : ℚ) < 2 ^ exponent x := zpow_pos (by norm_num) _
    have significand : (roundEven (x / 2 ^ exponent x) : ℚ) ≤ 0 := by
      exact_mod_cast roundEven_nonpos (div_nonpos_of_nonpos_of_nonneg nonpos scale.le)
    exact mul_nonpos_of_nonpos_of_nonneg significand scale.le

/-! ## Integers -/

theorem two_pow_log2_le {n : Int} (nonzero : n ≠ 0) : (2 : ℚ) ^ (n.natAbs.log2 : Int) ≤ |(n : ℚ)| := by
  have low : 2 ^ n.natAbs.log2 ≤ n.natAbs := Nat.log2_self_le (Int.natAbs_ne_zero.mpr nonzero)
  have cast : ((n.natAbs : Nat) : ℚ) = |(n : ℚ)| := by
    rw [Nat.cast_natAbs, Int.cast_abs]
  rw [← cast, zpow_natCast]
  exact_mod_cast low

theorem exponent_int {n : Int} (nonzero : n ≠ 0) : exponent n = n.natAbs.log2 - 52 := by
  have low := two_pow_log2_le nonzero
  have scale : (2 : ℚ) ^ (52 : Nat) * 2 ^ ((n.natAbs.log2 : Int) - 52) =
      2 ^ (n.natAbs.log2 : Int) := by
    rw [← zpow_natCast (2 : ℚ) 52, ← zpow_add₀ (by norm_num)]
    congr 1
    omega
  have one : Nat.log2 1 = 0 := by decide
  simp only [exponent, Rat.num_intCast, Rat.den_intCast, one, Nat.cast_zero, sub_zero, scale]
  rw [if_neg (not_lt.mpr low)]

/-- An integer that its exponent divides is a double. -/
theorem round_int_of_scaled {n m : Int} (nonzero : n ≠ 0)
    (scaled : (n : ℚ) = m * 2 ^ exponent n) : round n = n := by
  have scale : (2 : ℚ) ^ exponent n ≠ 0 := zpow_ne_zero _ (by norm_num)
  have quotient : (n : ℚ) / 2 ^ exponent n = m := by
    rw [div_eq_iff scale]
    exact scaled
  rw [round, if_neg (by exact_mod_cast nonzero), quotient, roundEven_int]
  exact scaled.symm

/-- **Integers up to `2 ^ 53` are doubles.** -/
theorem round_int {n : Int} (small : |n| ≤ 2 ^ 53) : round n = n := by
  by_cases nonzero : n = 0
  · simp [nonzero, round]
  have exponent := exponent_int nonzero
  have bound : n.natAbs ≤ 2 ^ 53 := by
    rw [Int.abs_eq_natAbs] at small
    omega
  by_cases wide : n.natAbs.log2 ≤ 52
  · refine round_int_of_scaled (m := n * 2 ^ (52 - n.natAbs.log2)) nonzero ?_
    rw [exponent, Int.cast_mul, Int.cast_pow, Int.cast_ofNat, mul_assoc,
      ← zpow_natCast (2 : ℚ) (52 - _), ← zpow_add₀ (by norm_num)]
    have cancel : ((52 - n.natAbs.log2 : Nat) : Int) + ((n.natAbs.log2 : Int) - 52) = 0 := by omega
    rw [cancel, zpow_zero, mul_one]
  · -- Only `2 ^ 53` itself has 54 bits, and it is even.
    have least : 2 ^ 53 ≤ n.natAbs := (Nat.le_log2 (by omega)).mp (by omega)
    have most : n.natAbs.log2 = 53 := by
      rw [show n.natAbs = 2 ^ 53 by omega]
      exact Nat.log2_two_pow
    refine round_int_of_scaled (m := n / 2) nonzero ?_
    rw [exponent, most]
    norm_num
    have even : n = n / 2 * 2 := by omega
    exact_mod_cast even

/-- A larger integer does not come back below `2 ^ 53`. -/
theorem le_round_int {n : Int} (large : 2 ^ 53 ≤ n) : 2 ^ 53 ≤ round n := by
  have nonzero : n ≠ 0 := by omega
  have bits : 53 ≤ n.natAbs.log2 := (Nat.le_log2 (by omega)).mpr (by omega)
  have scale : (0 : ℚ) < 2 ^ exponent n := zpow_pos (by norm_num) _
  have low := two_pow_log2_le nonzero
  rw [abs_of_pos (by exact_mod_cast (by omega : 0 < n))] at low
  have split : (2 : ℚ) ^ (n.natAbs.log2 : Int) = 2 ^ 52 * 2 ^ exponent n := by
    rw [exponent_int nonzero, ← zpow_natCast (2 : ℚ) 52, ← zpow_add₀ (by norm_num)]
    congr 1
    omega
  have significand : (2 ^ 52 : Int) ≤ roundEven (n / 2 ^ exponent n) := by
    refine le_trans (Int.le_floor.mpr ?_) (floor_le_roundEven _)
    have cast : ((2 ^ 52 : Int) : ℚ) = 2 ^ 52 := by norm_num
    rw [le_div_iff₀ scale, cast, ← split]
    exact low
  rw [round, if_neg (by exact_mod_cast nonzero)]
  calc (2 : ℚ) ^ 53 = 2 ^ ((53 : Nat) : Int) := by rw [zpow_natCast]
    _ ≤ 2 ^ (n.natAbs.log2 : Int) := zpow_le_zpow_right₀ (by norm_num) (by omega)
    _ = 2 ^ 52 * 2 ^ exponent n := split
    _ ≤ roundEven (n / 2 ^ exponent n) * 2 ^ exponent n := by
        refine mul_le_mul_of_nonneg_right ?_ scale.le
        exact_mod_cast significand

example : round (1 / 10) = 3602879701896397 / 36028797018963968 := by decide +kernel

end Atrium.Base.Binary64
