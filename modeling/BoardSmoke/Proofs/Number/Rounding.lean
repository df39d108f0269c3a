import BoardSmoke.Number.Rounding
import Mathlib.Algebra.Order.Floor.Semifield
import Mathlib.Data.Nat.Log
import Mathlib.Data.Rat.Floor
import Mathlib.Tactic.GCongr
import Mathlib.Tactic.Linarith
import Mathlib.Tactic.NormNum
import Mathlib.Tactic.Positivity
import Mathlib.Tactic.Ring

namespace BoardSmoke

-- No natural number is nearer to `x` than `n`, and a tie goes to the even neighbour.
structure Nearest (x : Rat) (n : Nat) : Prop where
  close : |x - n| ≤ 1 / 2
  even : |x - n| = 1 / 2 → n % 2 = 0

namespace Nearest

variable {x y : Rat} {n m : Nat}

theorem of_abs_lt (h : |x - n| < 1 / 2) : Nearest x n :=
  ⟨h.le, fun htie => absurd htie h.ne⟩

theorem natCast (n : Nat) : Nearest n n :=
  of_abs_lt (by rw [sub_self, abs_zero]; norm_num)

theorem le (hx : Nearest x n) (hy : Nearest y m) (h : x ≤ y) : n ≤ m := by
  by_contra hlt
  have hstep : (m : Rat) + 1 ≤ n := by exact_mod_cast Nat.lt_of_not_le hlt
  have hlow := (abs_le.mp hx.close).1
  have hhigh := (abs_le.mp hy.close).2
  -- Both values are half-way between the same two numbers.
  have hx_tie : x - n = -(1 / 2) := by linarith
  have hy_tie : y - m = 1 / 2 := by linarith
  have hn := hx.even (by rw [hx_tie]; norm_num)
  have hm := hy.even (by rw [hy_tie]; norm_num)
  have hnext : n = m + 1 := by
    have hcast : (n : Rat) = m + 1 := by linarith
    exact_mod_cast hcast
  omega

theorem unique (hn : Nearest x n) (hm : Nearest x m) : n = m :=
  Nat.le_antisymm (hn.le hm le_rfl) (hm.le hn le_rfl)

theorem le_of_le (hx : Nearest x n) (h : x ≤ m) : n ≤ m := hx.le (natCast m) h

theorem ge_of_ge (hx : Nearest x n) (h : m ≤ x) : m ≤ n := (natCast m).le hx h

theorem eq_of_abs_lt (hx : Nearest x n) (h : |x - m| < 1 / 2) : n = m := hx.unique (of_abs_lt h)

end Nearest

theorem roundHalfEven_nearest {den : Nat} (hden : 0 < den) (num : Nat) :
    Nearest (num / den) (roundHalfEven num den) := by
  have hpos : (0 : Rat) < den := by exact_mod_cast hden
  have hsplit : (num : Rat) / den = (num / den : Nat) + (num % den : Nat) / den := by
    rw [div_eq_iff hpos.ne', add_mul, div_mul_cancel₀ _ hpos.ne']
    exact_mod_cast (Nat.div_add_mod' num den).symm
  have hrest : (0 : Rat) ≤ (num % den : Nat) / den := by positivity
  rw [hsplit]
  unfold roundHalfEven
  dsimp only
  generalize num / den = low
  have hlt : num % den < den := Nat.mod_lt num hden
  generalize num % den = rest at hrest hlt ⊢
  have hlt_one : (rest : Rat) / den < 1 := (div_lt_one hpos).mpr (by exact_mod_cast hlt)
  have hbelow : (rest : Rat) / den < 1 / 2 ↔ 2 * rest < den := by
    rw [div_lt_div_iff₀ hpos two_pos]
    norm_cast
    omega
  have habove : 1 / 2 < (rest : Rat) / den ↔ den < 2 * rest := by
    rw [div_lt_div_iff₀ two_pos hpos]
    norm_cast
    omega
  generalize (rest : Rat) / den = part at hrest hlt_one hbelow habove ⊢
  split
  · rename_i hlow
    have hpart := hbelow.mpr hlow
    exact Nearest.of_abs_lt (abs_lt.mpr ⟨by linarith, by linarith⟩)
  rename_i hlow
  have hpart : 1 / 2 ≤ part := not_lt.mp (mt hbelow.mp hlow)
  split
  · rename_i hhigh
    have hpart := habove.mpr hhigh
    exact Nearest.of_abs_lt (by push_cast; exact abs_lt.mpr ⟨by linarith, by linarith⟩)
  rename_i hhigh
  obtain rfl : part = 1 / 2 := le_antisymm (not_lt.mp (mt habove.mp hhigh)) hpart
  split
  · rename_i heven
    exact ⟨by rw [add_sub_cancel_left]; norm_num, fun _ => heven⟩
  · rename_i hodd
    refine ⟨?_, fun _ => by omega⟩
    push_cast
    exact abs_le.mpr ⟨by linarith, by linarith⟩

namespace Binary64

-- The exponents are variables here, as these powers are too large to work out.
theorem stepsPerUnit_eq {exponent : Nat} (h : exponent = 1074) : stepsPerUnit = 2 ^ exponent := by
  unfold stepsPerUnit
  rw [← h]
  rfl

theorem limit_eq {exponent : Nat} (h : exponent = 1024) : limit = 2 ^ exponent * stepsPerUnit := by
  unfold limit
  rw [← h]
  rfl

theorem stepsPerUnit_pos : 0 < stepsPerUnit := by
  obtain ⟨exponent, hexponent⟩ : ∃ exponent, exponent = 1074 := ⟨_, rfl⟩
  rw [stepsPerUnit_eq hexponent]
  exact Nat.two_pow_pos exponent

theorem limit_pos : 0 < limit := by
  obtain ⟨exponent, hexponent⟩ : ∃ exponent, exponent = 1024 := ⟨_, rfl⟩
  rw [limit_eq hexponent]
  exact Nat.mul_pos (Nat.two_pow_pos exponent) stepsPerUnit_pos

-- How far apart the values are where they have some steps.
def spacing (steps : Nat) : Nat := 2 ^ (Nat.log2 steps + 1 - precision)

theorem spacing_pos (steps : Nat) : 0 < spacing steps := Nat.two_pow_pos _

theorem spacing_dvd {steps exponent : Nat} (h : Nat.log2 steps ≤ exponent) :
    spacing steps ∣ 2 ^ exponent :=
  Nat.pow_dvd_pow 2 (by simp only [precision]; omega)

theorem spacing_le {steps exponent : Nat} (h : steps < 2 ^ (exponent + precision)) :
    spacing steps ≤ 2 ^ exponent := by
  refine Nat.pow_le_pow_right two_pos ?_
  rcases Nat.eq_zero_or_pos steps with rfl | hpos
  · simp only [precision, Nat.log2_zero]
    omega
  · have hlog := (Nat.log2_lt hpos.ne').mpr h
    omega

-- Below a power of two, the bits that are left of the precision divide a unit.
theorem spacing_mul_le {value : Rat} {bits rest : Nat} (hbits : bits + rest = precision)
    (hnonneg : 0 ≤ value) (h : value < 2 ^ bits) :
    spacing ⌊value * stepsPerUnit⌋₊ * 2 ^ rest ≤ stepsPerUnit := by
  obtain ⟨exponent, hexponent⟩ : ∃ exponent, exponent + rest = 1074 :=
    ⟨1074 - rest, by simp only [precision] at hbits; omega⟩
  have hunit : stepsPerUnit = 2 ^ exponent * 2 ^ rest := by
    rw [stepsPerUnit_eq hexponent, Nat.pow_add]
  have hpos : (0 : Rat) < (2 ^ exponent * 2 ^ rest : Nat) := by
    exact_mod_cast Nat.mul_pos (Nat.two_pow_pos exponent) (Nat.two_pow_pos rest)
  have hfloor : ⌊value * stepsPerUnit⌋₊ < 2 ^ (exponent + precision) := by
    rw [Nat.floor_lt (mul_nonneg hnonneg (Nat.cast_nonneg _)), hunit]
    calc value * (2 ^ exponent * 2 ^ rest : Nat)
        < 2 ^ bits * (2 ^ exponent * 2 ^ rest : Nat) := mul_lt_mul_of_pos_right h hpos
      _ = (2 ^ (exponent + precision) : Nat) := by
          rw [← hbits]
          push_cast
          ring
  calc spacing ⌊value * stepsPerUnit⌋₊ * 2 ^ rest
      ≤ 2 ^ exponent * 2 ^ rest := Nat.mul_le_mul_right _ (spacing_le hfloor)
    _ = stepsPerUnit := hunit.symm

-- `x` steps are rounded to `steps`, a value of the spacing that there is at `x`.
def Rounds (x : Rat) (steps : Nat) : Prop :=
  ∃ count, Nearest (x / spacing ⌊x⌋₊) count ∧ steps = count * spacing ⌊x⌋₊

theorem roundSteps_rounds {den : Nat} (hden : 0 < den) (num : Nat) :
    Rounds (num / den * stepsPerUnit) (roundSteps num den) := by
  have hfloor : ⌊(num / den * stepsPerUnit : Rat)⌋₊ = num * stepsPerUnit / den := by
    rw [div_mul_eq_mul_div, ← Nat.cast_mul, Nat.floor_div_eq_div]
  rw [Rounds, hfloor]
  refine ⟨_, ?_, rfl⟩
  have hnearest := roundHalfEven_nearest
    (Nat.mul_pos hden (spacing_pos (num * stepsPerUnit / den))) (num * stepsPerUnit)
  rw [Nat.cast_mul, Nat.cast_mul, ← div_div, ← div_mul_eq_mul_div] at hnearest
  exact hnearest

namespace Rounds

variable {x y : Rat} {steps steps' bound : Nat}

theorem le_of_le (hx : Rounds x steps) (hvalue : spacing ⌊x⌋₊ ∣ bound) (h : x ≤ bound) :
    steps ≤ bound := by
  obtain ⟨count, hcount, rfl⟩ := hx
  obtain ⟨multiple, rfl⟩ := hvalue
  have hpos : (0 : Rat) < spacing ⌊x⌋₊ := by exact_mod_cast spacing_pos _
  rw [Nat.mul_comm (spacing _)]
  refine Nat.mul_le_mul_right _ (hcount.le_of_le ?_)
  rw [div_le_iff₀ hpos]
  push_cast at h
  linarith

theorem ge_of_ge (hx : Rounds x steps) (hvalue : spacing ⌊x⌋₊ ∣ bound) (h : bound ≤ x) :
    bound ≤ steps := by
  obtain ⟨count, hcount, rfl⟩ := hx
  obtain ⟨multiple, rfl⟩ := hvalue
  have hpos : (0 : Rat) < spacing ⌊x⌋₊ := by exact_mod_cast spacing_pos _
  rw [Nat.mul_comm (spacing _)]
  refine Nat.mul_le_mul_right _ (hcount.ge_of_ge ?_)
  rw [le_div_iff₀ hpos]
  push_cast at h
  linarith

theorem le (hx : Rounds x steps) (hy : Rounds y steps') (h : x ≤ y) : steps ≤ steps' := by
  have hlog : Nat.log2 ⌊x⌋₊ ≤ Nat.log2 ⌊y⌋₊ := by
    rw [Nat.log2_eq_log_two, Nat.log2_eq_log_two]
    exact Nat.log_mono_right (Nat.floor_le_floor h)
  rcases Nat.lt_or_eq_of_le hlog with hlt | hsame
  · -- A power of two lies between them, and is a value for both.
    have hbelow : x ≤ (2 ^ Nat.log2 ⌊y⌋₊ : Nat) := by
      have hfloor : ⌊x⌋₊ + 1 ≤ 2 ^ Nat.log2 ⌊y⌋₊ :=
        Nat.lt_log2_self.trans_le (Nat.pow_le_pow_right two_pos hlt)
      exact (Nat.lt_floor_add_one x).le.trans (by exact_mod_cast hfloor)
    have habove : (2 ^ Nat.log2 ⌊y⌋₊ : Nat) ≤ y := by
      have hne : ⌊y⌋₊ ≠ 0 := fun hzero => by
        rw [hzero] at hlt
        exact absurd hlt (Nat.not_lt_zero _)
      exact (Nat.le_floor_iff' (Nat.two_pow_pos _).ne').mp (Nat.log2_self_le hne)
    exact (hx.le_of_le (spacing_dvd hlog) hbelow).trans (hy.ge_of_ge (spacing_dvd le_rfl) habove)
  · obtain ⟨count, hcount, rfl⟩ := hx
    obtain ⟨count', hcount', rfl⟩ := hy
    have hspacing : spacing ⌊x⌋₊ = spacing ⌊y⌋₊ := by rw [spacing, spacing, hsame]
    rw [hspacing] at hcount ⊢
    exact Nat.mul_le_mul_right _ (hcount.le hcount' (by gcongr))

theorem unique (hx : Rounds x steps) (hx' : Rounds x steps') : steps = steps' :=
  Nat.le_antisymm (hx.le hx' le_rfl) (hx'.le hx le_rfl)

theorem two_pow (exponent : Nat) : Rounds (2 ^ exponent : Nat) (2 ^ exponent) := by
  have hvalue : spacing (2 ^ exponent) ∣ 2 ^ exponent :=
    spacing_dvd (by rw [Nat.log2_two_pow])
  obtain ⟨multiple, hmultiple⟩ := hvalue
  have hpos : (0 : Rat) < spacing (2 ^ exponent) := by exact_mod_cast spacing_pos _
  rw [Rounds, Nat.floor_natCast]
  refine ⟨multiple, ?_, by rw [Nat.mul_comm, ← hmultiple]⟩
  have hquotient : ((2 ^ exponent : Nat) : Rat) / spacing (2 ^ exponent) = multiple := by
    rw [div_eq_iff hpos.ne', mul_comm]
    exact_mod_cast hmultiple
  rw [hquotient]
  exact Nearest.natCast multiple

-- Zero is even, so that it is also what half a step is rounded to.
theorem zero (hx : 0 ≤ x) (h : x ≤ 1 / 2) : Rounds x 0 := by
  have hfloor : ⌊x⌋₊ = 0 := Nat.floor_eq_zero.mpr (by linarith)
  have hspacing : spacing 0 = 1 := by decide
  rw [Rounds, hfloor, hspacing]
  refine ⟨0, ⟨?_, fun _ => rfl⟩, rfl⟩
  rwa [Nat.cast_one, Nat.cast_zero, div_one, sub_zero, abs_of_nonneg hx]

theorem eq_zero (h : Rounds 0 steps) : steps = 0 := h.unique (zero le_rfl (by norm_num))

theorem close (hx : Rounds x steps) : |x - steps| ≤ spacing ⌊x⌋₊ / 2 := by
  obtain ⟨count, hcount, rfl⟩ := hx
  have hpos : (0 : Rat) < spacing ⌊x⌋₊ := by exact_mod_cast spacing_pos _
  have hscaled : x - (count * spacing ⌊x⌋₊ : Nat) =
      (x / spacing ⌊x⌋₊ - count) * spacing ⌊x⌋₊ := by
    rw [sub_mul, div_mul_cancel₀ _ hpos.ne', Nat.cast_mul]
  rw [hscaled, abs_mul, abs_of_pos hpos]
  have hclose := mul_le_mul_of_nonneg_right hcount.close hpos.le
  linarith

theorem eq_zero_iff (hx : 0 ≤ x) (h : Rounds x steps) : steps = 0 ↔ x ≤ 1 / 2 := by
  constructor
  · rintro rfl
    have hlt : x < 1 := by
      by_contra hge
      have hone : 2 ^ 0 ≤ 0 := (two_pow 0).le h (by simpa using hge)
      omega
    have hfloor : ⌊x⌋₊ = 0 := Nat.floor_eq_zero.mpr hlt
    have hspacing : spacing 0 = 1 := by decide
    have hclose := h.close
    rwa [hfloor, hspacing, Nat.cast_zero, Nat.cast_one, sub_zero, abs_of_nonneg hx] at hclose
  · exact fun hle => h.unique (zero hx hle)

end Rounds

theorem ofQuotient?_eq_some_iff {num den steps : Nat} (hden : 0 < den) :
    ofQuotient? num den = some steps ↔
      Rounds (num / den * stepsPerUnit) steps ∧ steps < limit := by
  have hrounds := roundSteps_rounds hden num
  rw [ofQuotient?]
  split
  · rename_i hlt
    constructor
    · rintro ⟨⟩
      exact ⟨hrounds, hlt⟩
    · intro h
      rw [hrounds.unique h.1]
  · rename_i hge
    constructor
    · intro h
      cases h
    · intro h
      rw [hrounds.unique h.1] at hge
      exact absurd h.2 hge

end Binary64

end BoardSmoke
