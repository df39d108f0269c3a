import BoardSmoke.Proofs.Number.Decimal
import BoardSmoke.Proofs.Number.Literal
import BoardSmoke.Proofs.Number.Seconds
import Mathlib.Tactic.FieldSimp

namespace BoardSmoke

namespace Seconds

theorem nanoseconds_nearest (steps : Nat) :
    Nearest (steps / Binary64.stepsPerUnit * Duration.perSecond) (nanoseconds steps) := by
  have hnearest := roundHalfEven_nearest Binary64.stepsPerUnit_pos (steps * Duration.perSecond)
  rwa [Nat.cast_mul, ← div_mul_eq_mul_div] at hnearest

theorem nanoseconds_le {steps steps' : Nat} (h : steps ≤ steps') :
    nanoseconds steps ≤ nanoseconds steps' := by
  have hsteps : (steps : Rat) ≤ steps' := by exact_mod_cast h
  exact (nanoseconds_nearest steps).le (nanoseconds_nearest steps')
    (mul_le_mul_of_nonneg_right (div_le_div_of_nonneg_right hsteps (Nat.cast_nonneg _))
      (Nat.cast_nonneg _))

-- The longest durations that are exact to the nanosecond are almost as long as this.
def exactLimit : Duration := .ofSeconds (2 ^ 23)

section Exact

variable {count steps : Nat}

private theorem perSecond_pos : (0 : Rat) < Duration.perSecond := by
  exact_mod_cast (by decide : 0 < Duration.perSecond)

private theorem seconds_lt (h : count < exactLimit.nanoseconds) :
    (count : Rat) / Duration.perSecond < 2 ^ 23 := by
  rw [div_lt_iff₀ perSecond_pos]
  exact_mod_cast h

-- The error of the steps is too small for nanoseconds to tell.
theorem nanoseconds_of_rounds (hcount : count < exactLimit.nanoseconds)
    (hsteps : Binary64.Rounds (count / Duration.perSecond * Binary64.stepsPerUnit) steps) :
    nanoseconds steps = count := by
  have hclose := hsteps.close
  have hnonneg : (0 : Rat) ≤ count / Duration.perSecond :=
    div_nonneg (Nat.cast_nonneg _) (Nat.cast_nonneg _)
  have hspacing : (Binary64.spacing ⌊(count / Duration.perSecond * Binary64.stepsPerUnit : Rat)⌋₊ :
      Rat) * 2 ^ 30 ≤ Binary64.stepsPerUnit := by
    exact_mod_cast Binary64.spacing_mul_le rfl hnonneg (seconds_lt hcount)
  have hnearest := nanoseconds_nearest steps
  have hunit : (0 : Rat) < Binary64.stepsPerUnit := by exact_mod_cast Binary64.stepsPerUnit_pos
  have hsecond : (Duration.perSecond : Rat) = 1000000000 := by norm_num [Duration.perSecond]
  generalize hvalue : (count : Rat) / Duration.perSecond * Binary64.stepsPerUnit = value at *
  generalize (Binary64.stepsPerUnit : Rat) = unit at *
  have herror : |value - steps| ≤ unit / 2 ^ 31 := by linarith
  have hback : value * (Duration.perSecond / unit) = count := by
    rw [← hvalue, hsecond]
    field_simp
  refine hnearest.eq_of_abs_lt ?_
  calc |(steps : Rat) / unit * Duration.perSecond - count|
      = |value - steps| * (Duration.perSecond / unit) := by
        rw [← hback, div_mul_eq_mul_div, mul_div_assoc, ← sub_mul, abs_mul, abs_sub_comm,
          abs_of_pos (div_pos perSecond_pos hunit)]
    _ ≤ unit / 2 ^ 31 * (Duration.perSecond / unit) :=
        mul_le_mul_of_nonneg_right herror (div_pos perSecond_pos hunit).le
    _ = 1000000000 / 2 ^ 31 := by
        rw [hsecond]
        field_simp
    _ < 1 / 2 := by norm_num

theorem steps_lt (hcount : count < exactLimit.nanoseconds)
    (hsteps : Binary64.Rounds (count / Duration.perSecond * Binary64.stepsPerUnit) steps) :
    steps < Binary64.limit ∧ steps < limit * Binary64.stepsPerUnit := by
  obtain ⟨top, htop⟩ : ∃ top, top = 1024 := ⟨_, rfl⟩
  obtain ⟨exponent, hexponent⟩ : ∃ exponent, exponent = 1074 := ⟨_, rfl⟩
  have hsize := seconds_lt hcount
  have hpos := Binary64.stepsPerUnit_pos
  rw [Binary64.limit_eq htop]
  rw [Binary64.stepsPerUnit_eq hexponent] at hpos hsteps ⊢
  have hle : steps ≤ 2 ^ 23 * 2 ^ exponent := by
    rw [← Nat.pow_add]
    refine hsteps.le (Binary64.Rounds.two_pow _) ?_
    rw [Nat.pow_add, Nat.cast_mul]
    refine mul_le_mul_of_nonneg_right ?_ (Nat.cast_nonneg _)
    exact_mod_cast hsize.le
  have htop_lt : 2 ^ 23 < 2 ^ top := Nat.pow_lt_pow_right (by decide) (by omega)
  have hlimit : 2 ^ 23 < limit := by decide
  exact ⟨hle.trans_lt (Nat.mul_lt_mul_of_pos_right htop_lt hpos),
    hle.trans_lt (Nat.mul_lt_mul_of_pos_right hlimit hpos)⟩

theorem parse_of_value {now : Nat} {text : String} {number : Decimal}
    (hliteral : Literal.parse? text = some (.decimal number))
    (hvalue : number.value = count / Duration.perSecond) (hcount : count < exactLimit.nanoseconds)
    (hclock : now + count < Clock.limit) : parse now text = .ok ⟨count⟩ := by
  have hsize : number.size = count / Duration.perSecond := by
    rw [← number.abs_value, hvalue, abs_of_nonneg (by positivity)]
  have hpos : 0 < Duration.perSecond := by decide
  have hrounds := Binary64.roundSteps_rounds hpos count
  obtain ⟨hfinite, hfits⟩ := steps_lt hcount hrounds
  have hexact := nanoseconds_of_rounds hcount hrounds
  generalize Binary64.roundSteps count Duration.perSecond = steps at *
  refine parse_eq_ok_iff.mpr ⟨number, steps, hliteral,
    Decimal.steps?_eq_some_iff.mpr ⟨by rwa [hsize], hfinite⟩, fun hnegative => ?_,
    ofSteps_eq_ok_iff.mpr ⟨hfits, by rwa [hexact], by rw [hexact]⟩⟩
  have hnegated := Decimal.value_eq_neg_size hnegative
  have hzero : (count : Rat) / Duration.perSecond = 0 := by linarith
  rw [hzero, zero_mul] at hrounds
  exact hrounds.eq_zero

end Exact

-- The durations of two numbers that are read are in the order of the numbers.
theorem nanoseconds_le_of_value_le {now now' : Nat} {text text' : String}
    {duration duration' : Duration} (h : parse now text = .ok duration)
    (h' : parse now' text' = .ok duration') :
    ∃ number number', Literal.parse? text = some (.decimal number) ∧
      Literal.parse? text' = some (.decimal number') ∧
      (number.value ≤ number'.value → duration.nanoseconds ≤ duration'.nanoseconds) := by
  obtain ⟨number, steps, hliteral, hsteps, hsign, hduration⟩ := parse_eq_ok_iff.mp h
  obtain ⟨number', steps', hliteral', hsteps', -, hduration'⟩ := parse_eq_ok_iff.mp h'
  obtain ⟨-, -, hcount⟩ := ofSteps_eq_ok_iff.mp hduration
  obtain ⟨-, -, hcount'⟩ := ofSteps_eq_ok_iff.mp hduration'
  refine ⟨number, number', hliteral, hliteral', fun hvalue => ?_⟩
  have hle : steps ≤ steps' := by
    cases hnegative : number.negative with
    | true =>
        rw [hsign hnegative]
        exact Nat.zero_le _
    | false =>
        have hsize := Decimal.size_le_size hnegative hvalue
        exact (Decimal.steps?_eq_some_iff.mp hsteps).1.le (Decimal.steps?_eq_some_iff.mp hsteps').1
          (mul_le_mul_of_nonneg_right hsize (Nat.cast_nonneg _))
  rw [hcount, hcount']
  exact nanoseconds_le hle

-- Decimal digits around a point that write a count of nanoseconds below 2 ^ 23 seconds are read as
-- exactly that count, and what is read keeps the order of the exact numbers.
theorem exact_and_monotone {now : Nat} (hclock : (Clock.deadline? now exactLimit).isSome = true) :
    (∀ count < exactLimit.nanoseconds, ∀ whole fraction : List Char,
      (∀ c ∈ whole ++ fraction, c.isDigit = true) → whole ++ fraction ≠ [] →
      Literal.ofDigits (whole ++ fraction) * Duration.perSecond = count * 10 ^ fraction.length →
      parse now (String.ofList (whole ++ '.' :: fraction)) = .ok ⟨count⟩) ∧
    ∀ (start start' : Nat) (text text' : String) (duration duration' : Duration),
      parse start text = .ok duration → parse start' text' = .ok duration' →
      ∃ number number', Literal.parse? text = some (.decimal number) ∧
        Literal.parse? text' = some (.decimal number') ∧
        (number.value ≤ number'.value → duration.nanoseconds ≤ duration'.nanoseconds) := by
  refine ⟨fun count hcount whole fraction hdigits hsome hwritten => ?_,
    fun _ _ _ _ _ _ h h' => nanoseconds_le_of_value_le h h'⟩
  have hreached : now + count < Clock.limit := by
    obtain ⟨deadline, hdeadline⟩ := Option.isSome_iff_exists.mp hclock
    by_contra hlate
    have hnone : Clock.deadline? now exactLimit = none := if_neg (by omega)
    rw [hnone] at hdeadline
    cases hdeadline
  refine parse_of_value (Literal.parse?_point hdigits hsome) ?_ hcount hreached
  have hexact : (Literal.ofDigits (whole ++ fraction) : Rat) * Duration.perSecond =
      count * 10 ^ fraction.length := by exact_mod_cast hwritten
  rw [Decimal.value, if_neg Bool.false_ne_true, Decimal.size, zpow_neg, zpow_natCast,
    eq_div_iff perSecond_pos.ne', mul_right_comm, hexact, mul_inv_cancel_right₀ (by positivity)]

theorem longest_exact_count :
    let zero : Decimal := ⟨true, 0, 0⟩
    let small : Decimal := ⟨false, 16, -10⟩
    (Clock.deadline? 0 exactLimit).isSome = true ∧
      parse 0 "008388607.9999999990" = .ok ⟨8388607999999999⟩ ∧
      Literal.parse? "-0" = some (.decimal zero) ∧
      Literal.parse? "1.6e-9" = some (.decimal small) ∧ zero.value ≤ small.value ∧
      ∃ duration duration', parse 0 "-0" = .ok duration ∧ parse 0 "1.6e-9" = .ok duration' ∧
        duration.nanoseconds ≤ duration'.nanoseconds := by
  intro zero small
  have hclock : (Clock.deadline? 0 exactLimit).isSome = true := by decide +kernel
  have hzero : parse 0 "-0" = .ok ⟨0⟩ := by decide +kernel
  have hsmall : parse 0 "1.6e-9" = .ok ⟨2⟩ := by decide +kernel
  have hread : Literal.parse? "-0" = some (.decimal zero) := by decide +kernel
  have hread' : Literal.parse? "1.6e-9" = some (.decimal small) := by decide +kernel
  have hle : zero.value ≤ small.value := by
    rw [Decimal.value_eq_neg_size rfl, Decimal.value_eq_size rfl]
    exact (neg_nonpos.mpr zero.size_nonneg).trans small.size_nonneg
  obtain ⟨hexact, hmonotone⟩ := exact_and_monotone hclock
  obtain ⟨number, number', hnumber, hnumber', horder⟩ := hmonotone 0 0 _ _ _ _ hzero hsmall
  obtain rfl := Literal.decimal.inj (Option.some.inj (hread.symm.trans hnumber))
  obtain rfl := Literal.decimal.inj (Option.some.inj (hread'.symm.trans hnumber'))
  exact ⟨hclock, hexact 8388607999999999 (by decide) "008388607".toList "9999999990".toList
    (List.all_eq_true.mp (by decide)) (by decide) (by decide +kernel), hread, hread', hle, _, _,
    hzero, hsmall, horder hle⟩

end Seconds

end BoardSmoke
