import BoardSmoke.Number.Seconds
import BoardSmoke.Proofs.Number.Rounding
import Mathlib.Algebra.Order.Field.Power

namespace BoardSmoke

namespace Decimal

def size (decimal : Decimal) : Rat := decimal.significand * (10 : Rat) ^ decimal.exponent

def value (decimal : Decimal) : Rat := if decimal.negative then -decimal.size else decimal.size

theorem size_nonneg (decimal : Decimal) : 0 ≤ decimal.size := by
  unfold size
  positivity

theorem toDigits_bounds {n : Nat} (hn : n ≠ 0) :
    10 ^ ((Nat.toDigits 10 n).length - 1) ≤ n ∧ n < 10 ^ (Nat.toDigits 10 n).length := by
  have hsome : 0 < (Nat.toDigits 10 n).length := Nat.length_toDigits_pos
  refine ⟨?_, (Nat.length_toDigits_le_iff (by decide) hsome).mp le_rfl⟩
  rcases Nat.eq_zero_or_pos ((Nat.toDigits 10 n).length - 1) with hone | hmore
  · rw [hone]
    exact Nat.pos_of_ne_zero hn
  · by_contra hlt
    have hle := (Nat.length_toDigits_le_iff (by decide) hmore).mpr (Nat.lt_of_not_le hlt)
    omega

-- The power of ten that a number is below, and at least a tenth of.
def magnitude (decimal : Decimal) : Int :=
  decimal.exponent + (Nat.toDigits 10 decimal.significand).length

theorem size_bounds {decimal : Decimal} (h : decimal.significand ≠ 0) :
    (10 : Rat) ^ (decimal.magnitude - 1) ≤ decimal.size ∧
      decimal.size < (10 : Rat) ^ decimal.magnitude := by
  obtain ⟨hlow, hhigh⟩ := toDigits_bounds h
  have hsome : 0 < (Nat.toDigits 10 decimal.significand).length := Nat.length_toDigits_pos
  have hten : (0 : Rat) < 10 ^ decimal.exponent := by positivity
  have hshift : decimal.magnitude - 1 =
      (((Nat.toDigits 10 decimal.significand).length - 1 : Nat) : Int) + decimal.exponent := by
    rw [magnitude]
    omega
  constructor
  · rw [hshift, zpow_add₀ (by norm_num), zpow_natCast, size]
    gcongr
    exact_mod_cast hlow
  · rw [magnitude, add_comm, zpow_add₀ (by norm_num), zpow_natCast, size]
    gcongr
    exact_mod_cast hhigh

theorem two_pow_le_ten_pow {exponent : Nat} (h : exponent ≤ 1200) :
    (2 : Rat) ^ exponent ≤ 10 ^ (400 : Int) :=
  calc (2 : Rat) ^ exponent
      ≤ 2 ^ (3 * 400) := pow_le_pow_right₀ (by norm_num) h
    _ = (2 ^ 3) ^ 400 := pow_mul 2 3 400
    _ ≤ 10 ^ 400 := by
        gcongr
        norm_num
    _ = 10 ^ (400 : Int) := (zpow_natCast 10 400).symm

-- What is below all powers of ten that are in reach is nothing.
theorem rounds_zero {decimal : Decimal} (h : decimal.significand = 0 ∨ decimal.magnitude < -reach) :
    Binary64.Rounds (decimal.size * Binary64.stepsPerUnit) 0 := by
  refine Binary64.Rounds.zero (mul_nonneg decimal.size_nonneg (Nat.cast_nonneg _)) ?_
  by_cases hzero : decimal.significand = 0
  · rw [size, hzero, Nat.cast_zero, zero_mul, zero_mul]
    norm_num
  have hmagnitude : decimal.magnitude ≤ -401 := by
    have hlt := h.resolve_left hzero
    rw [reach] at hlt
    omega
  obtain ⟨exponent, hexponent⟩ : ∃ exponent, exponent = 1074 := ⟨_, rfl⟩
  rw [Binary64.stepsPerUnit_eq hexponent, Nat.cast_pow]
  calc decimal.size * ((2 : Nat) : Rat) ^ exponent
      ≤ (10 : Rat) ^ (-401 : Int) * 10 ^ (400 : Int) := by
        gcongr
        · exact (size_bounds hzero).2.le.trans (zpow_le_zpow_right₀ (by norm_num) hmagnitude)
        · exact two_pow_le_ten_pow (by omega)
    _ = (10 : Rat) ^ (-1 : Int) := by
        rw [← zpow_add₀ (by norm_num)]
        norm_num
    _ ≤ 1 / 2 := by norm_num

theorem limit_le {decimal : Decimal} {steps : Nat} (hzero : decimal.significand ≠ 0)
    (h : reach < decimal.magnitude)
    (hsteps : Binary64.Rounds (decimal.size * Binary64.stepsPerUnit) steps) :
    Binary64.limit ≤ steps := by
  have hmagnitude : (400 : Int) ≤ decimal.magnitude - 1 := by
    rw [reach] at h
    omega
  obtain ⟨top, htop⟩ : ∃ top, top = 1024 := ⟨_, rfl⟩
  obtain ⟨exponent, hexponent⟩ : ∃ exponent, exponent = 1074 := ⟨_, rfl⟩
  have hsize : (2 : Rat) ^ top ≤ decimal.size :=
    calc (2 : Rat) ^ top
        ≤ 10 ^ (400 : Int) := two_pow_le_ten_pow (by omega)
      _ ≤ 10 ^ (decimal.magnitude - 1) := zpow_le_zpow_right₀ (by norm_num) hmagnitude
      _ ≤ decimal.size := (size_bounds hzero).1
  have hvalue : Binary64.limit = 2 ^ (top + exponent) := by
    rw [Binary64.limit_eq htop, Binary64.stepsPerUnit_eq hexponent, Nat.pow_add]
  rw [hvalue]
  refine (Binary64.Rounds.two_pow _).le hsteps ?_
  rw [← hvalue, Binary64.limit_eq htop, Nat.cast_mul, Nat.cast_pow, Nat.cast_ofNat]
  exact mul_le_mul_of_nonneg_right hsize (Nat.cast_nonneg _)

-- The steps are those that the exact size is rounded to, if there is a value that large.
theorem steps?_eq_some_iff {decimal : Decimal} {steps : Nat} :
    decimal.steps? = some steps ↔
      Binary64.Rounds (decimal.size * Binary64.stepsPerUnit) steps ∧ steps < Binary64.limit := by
  unfold steps?
  simp only [Nat.pow_eq]
  split
  · rename_i h
    have hrounds := rounds_zero h
    constructor
    · rintro ⟨⟩
      exact ⟨hrounds, Binary64.limit_pos⟩
    · intro h
      rw [hrounds.unique h.1]
  rename_i hsmall
  split
  · rename_i h
    constructor
    · intro h
      cases h
    · intro hsteps
      exact absurd hsteps.2 (Nat.not_lt.mpr (limit_le (fun hzero => hsmall (.inl hzero)) h hsteps.1))
  split
  · rename_i hexponent
    have hsize : ((decimal.significand * 10 ^ decimal.exponent.toNat : Nat) : Rat) / (1 : Nat) =
        decimal.size := by
      obtain ⟨exponent, hexponent⟩ := Int.eq_ofNat_of_zero_le hexponent
      rw [size, hexponent, Int.toNat_natCast, zpow_natCast]
      push_cast
      rw [div_one]
    rw [Binary64.ofQuotient?_eq_some_iff Nat.one_pos, hsize]
  · rename_i hexponent
    have hsize : (decimal.significand : Rat) / (10 ^ (-decimal.exponent).toNat : Nat) =
        decimal.size := by
      have hnonneg : 0 ≤ -decimal.exponent := by omega
      obtain ⟨exponent, hexponent⟩ := Int.eq_ofNat_of_zero_le hnonneg
      rw [size, hexponent, Int.toNat_natCast, div_eq_mul_inv, ← neg_neg decimal.exponent, hexponent,
        zpow_neg, zpow_natCast]
      push_cast
      rfl
    rw [Binary64.ofQuotient?_eq_some_iff (Nat.pow_pos (by decide)), hsize]

theorem abs_value (decimal : Decimal) : |decimal.value| = decimal.size := by
  unfold value
  split
  · rw [abs_neg, abs_of_nonneg decimal.size_nonneg]
  · exact abs_of_nonneg decimal.size_nonneg

theorem value_eq_neg_size {number : Decimal} (hnegative : number.negative = true) :
    number.value = -number.size := by rw [value, if_pos hnegative]

theorem value_eq_size {number : Decimal} (hpositive : number.negative = false) :
    number.value = number.size := by
  rw [value, hpositive]
  exact if_neg Bool.false_ne_true

-- Numbers from zero on are in the order of their sizes, whatever sign zero has.
theorem size_le_size {number other : Decimal} (hpositive : number.negative = false)
    (h : number.value ≤ other.value) : number.size ≤ other.size := by
  rw [← value_eq_size hpositive, ← other.abs_value]
  exact h.trans (le_abs_self _)

-- A number is not negative after rounding exactly if it is at most half a step below zero.
theorem zero_of_negative_iff {number : Decimal} {steps : Nat}
    (h : Binary64.Rounds (number.size * Binary64.stepsPerUnit) steps) :
    (number.negative = true → steps = 0) ↔ -(1 / 2) ≤ number.value * Binary64.stepsPerUnit := by
  have hsize : 0 ≤ number.size * (Binary64.stepsPerUnit : Rat) :=
    mul_nonneg number.size_nonneg (Nat.cast_nonneg _)
  cases hnegative : number.negative with
  | true =>
      rw [value_eq_neg_size hnegative, neg_mul, neg_le_neg_iff, ← h.eq_zero_iff hsize]
      exact forall_prop_of_true rfl
  | false =>
      rw [value_eq_size hnegative]
      exact iff_of_true nofun (by linarith)

end Decimal

end BoardSmoke
