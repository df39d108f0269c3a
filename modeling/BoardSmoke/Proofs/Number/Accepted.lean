import BoardSmoke.Proofs.Number.Exact

namespace BoardSmoke

namespace Seconds

-- The size of a number is rounded to steps, and these to the nanoseconds of the duration. The steps are
-- those of a finite floating point number, a duration can be that long, and the clock reaches its end.
structure Measures (now : Nat) (size : Rat) (steps : Nat) (duration : Duration) : Prop where
  rounded : Binary64.Rounds (size * Binary64.stepsPerUnit) steps
  finite : steps < Binary64.limit
  nearest : Nearest (steps / Binary64.stepsPerUnit * Duration.perSecond) duration.nanoseconds
  fits : duration.seconds < limit
  reached : (Clock.deadline? now duration).isSome = true

variable {now steps : Nat} {duration : Duration}

-- What the clock reaches is no longer than a duration can be.
theorem seconds_lt_of_reached (h : now + duration.nanoseconds < Clock.limit) :
    duration.seconds < limit := by
  have hclock : Clock.limit ≤ limit * Duration.perSecond := by decide
  exact Nat.div_lt_of_lt_mul (by rw [Nat.mul_comm]; omega)

-- Too many steps for a duration are rounded to too many nanoseconds.
theorem steps_lt_of_seconds_lt (hcount : duration.nanoseconds = nanoseconds steps)
    (h : duration.seconds < limit) : steps < limit * Binary64.stepsPerUnit := by
  by_contra hlt
  have hge : limit * Binary64.stepsPerUnit ≤ steps := Nat.not_lt.mp hlt
  have hunit : (0 : Rat) < Binary64.stepsPerUnit := by exact_mod_cast Binary64.stepsPerUnit_pos
  have hsize : (limit : Rat) ≤ steps / Binary64.stepsPerUnit := by
    rw [le_div_iff₀ hunit]
    exact_mod_cast hge
  have hlong : limit * Duration.perSecond ≤ duration.nanoseconds := by
    rw [hcount]
    refine (nanoseconds_nearest steps).ge_of_ge ?_
    rw [Nat.cast_mul]
    exact mul_le_mul_of_nonneg_right hsize (Nat.cast_nonneg _)
  have hseconds : limit ≤ duration.seconds := (Nat.le_div_iff_mul_le (by decide)).mpr hlong
  exact absurd h (Nat.not_lt.mpr hseconds)

-- Steps make the duration that is nearest to them, if it fits and is reached.
theorem ofSteps_eq_ok_iff_nearest :
    ofSteps now steps = .ok duration ↔
      Nearest (steps / Binary64.stepsPerUnit * Duration.perSecond) duration.nanoseconds ∧
        duration.seconds < limit ∧ (Clock.deadline? now duration).isSome = true := by
  rw [ofSteps_eq_ok_iff, Clock.deadline?_isSome_iff]
  constructor
  · rintro ⟨-, hclock, hcount⟩
    rw [← hcount] at hclock
    refine ⟨?_, seconds_lt_of_reached hclock, hclock⟩
    rw [hcount]
    exact nanoseconds_nearest steps
  · rintro ⟨hnearest, hfits, hclock⟩
    have hcount : duration.nanoseconds = nanoseconds steps :=
      hnearest.unique (nanoseconds_nearest steps)
    exact ⟨steps_lt_of_seconds_lt hcount hfits, by rwa [← hcount], hcount⟩

section Text

variable {text : String}

theorem parse_ok_iff_measures :
    parse now text = .ok duration ↔
      ∃ number steps, Literal.Writes text.toList number ∧
        -(1 / 2) ≤ number.value * Binary64.stepsPerUnit ∧ Measures now number.size steps duration := by
  rw [parse_eq_ok_iff]
  constructor
  · rintro ⟨number, steps, hliteral, hsteps, hsign, hduration⟩
    obtain ⟨hrounded, hfinite⟩ := Decimal.steps?_eq_some_iff.mp hsteps
    obtain ⟨hnearest, hfits, hreached⟩ := ofSteps_eq_ok_iff_nearest.mp hduration
    exact ⟨number, steps, Literal.parse?_eq_decimal_iff.mp hliteral,
      (Decimal.zero_of_negative_iff hrounded).mp hsign,
      hrounded, hfinite, hnearest, hfits, hreached⟩
  · rintro ⟨number, steps, hwrites, hsign, hmeasures⟩
    exact ⟨number, steps, Literal.parse?_eq_decimal_iff.mpr hwrites,
      Decimal.steps?_eq_some_iff.mpr ⟨hmeasures.rounded, hmeasures.finite⟩,
      (Decimal.zero_of_negative_iff hmeasures.rounded).mpr hsign,
      ofSteps_eq_ok_iff_nearest.mpr ⟨hmeasures.nearest, hmeasures.fits, hmeasures.reached⟩⟩

theorem parse_of_negative {number : Decimal} (hwrites : Literal.Writes text.toList number)
    (hbelow : number.value * Binary64.stepsPerUnit < -(1 / 2)) : parse now text = .error .invalid := by
  rw [parse_of_decimal (Literal.parse?_eq_decimal_iff.mpr hwrites)]
  cases hsteps : number.steps? with
  | none => rfl
  | some steps =>
      obtain ⟨hrounded, -⟩ := Decimal.steps?_eq_some_iff.mp hsteps
      have hsign := mt (Decimal.zero_of_negative_iff hrounded).mp (not_le.mpr hbelow)
      exact if_pos (Classical.not_imp.mp hsign)

theorem parse_of_not_writes (h : ∀ number, ¬Literal.Writes text.toList number) :
    ∃ error ∈ [SecondsError.empty, .notNumber, .invalid], parse now text = .error error := by
  by_cases hempty : text = ""
  · exact ⟨.empty, by decide, if_pos hempty⟩
  rw [parse, if_neg hempty]
  rcases hliteral : Literal.parse? text with _ | (number | negative | _)
  · exact ⟨.notNumber, by decide, rfl⟩
  · exact absurd (Literal.parse?_eq_decimal_iff.mp hliteral) (h number)
  · exact ⟨.invalid, by decide, rfl⟩
  · exact ⟨.invalid, by decide, rfl⟩

end Text

-- A text is read as a duration exactly if it writes a decimal number that measures the duration and is no
-- more than half a step below zero. Any other number below zero is rejected, and so is what writes none.
theorem accepted_exactly (now : Nat) (text : String) :
    (∀ duration, parse now text = .ok duration ↔
      ∃ number steps, Literal.Writes text.toList number ∧
        -(1 / 2) ≤ number.value * Binary64.stepsPerUnit ∧
        Measures now number.size steps duration) ∧
    (∀ number, Literal.Writes text.toList number →
      number.value * Binary64.stepsPerUnit < -(1 / 2) → parse now text = .error .invalid) ∧
    ((∀ number, ¬Literal.Writes text.toList number) →
      ∃ error ∈ [SecondsError.empty, .notNumber, .invalid], parse now text = .error error) :=
  ⟨fun _ => parse_ok_iff_measures, fun _ => parse_of_negative, parse_of_not_writes⟩

-- Half a step is between 2.4e-324 and 2.5e-324.
theorem halves_told_apart :
    (∃ number steps, Literal.Writes "-2.4e-324".toList number ∧
      -(1 / 2) ≤ number.value * Binary64.stepsPerUnit ∧ Measures 0 number.size steps ⟨0⟩) ∧
    (Literal.Writes "-2.5e-324".toList ⟨true, 25, -325⟩ ∧
      Decimal.value ⟨true, 25, -325⟩ * Binary64.stepsPerUnit < -(1 / 2) ∧
      parse 0 "-2.5e-324" = .error .invalid) ∧
    (∀ number, ¬Literal.Writes "1_0".toList number) ∧
      ∃ error ∈ [SecondsError.empty, .notNumber, .invalid], parse 0 "1_0" = .error error := by
  have hzero : parse 0 "-2.4e-324" = .ok ⟨0⟩ := by decide +kernel
  have hliteral : Literal.parse? "-2.5e-324" = some (.decimal ⟨true, 25, -325⟩) := by decide +kernel
  have hwrites := Literal.parse?_eq_decimal_iff.mp hliteral
  have hsteps : Decimal.steps? ⟨true, 25, -325⟩ = some 1 := by decide +kernel
  obtain ⟨hrounded, -⟩ := Decimal.steps?_eq_some_iff.mp hsteps
  have hbelow := mt (Decimal.zero_of_negative_iff hrounded).mpr (by decide)
  have hnone : Literal.parse? "1_0" = none := by decide +kernel
  have hno : ∀ number, ¬Literal.Writes "1_0".toList number := by
    intro number hwrites
    have hsome := Literal.parse?_eq_decimal_iff.mpr hwrites
    rw [hnone] at hsome
    cases hsome
  exact ⟨((accepted_exactly 0 "-2.4e-324").1 ⟨0⟩).mp hzero,
    ⟨hwrites, not_le.mp hbelow,
      (accepted_exactly 0 "-2.5e-324").2.1 _ hwrites (not_le.mp hbelow)⟩,
    hno, (accepted_exactly 0 "1_0").2.2 hno⟩

-- A number far below half of a step is read as zero, though it is negative.
theorem negative_not_always_rejected :
    ¬∀ (now : Nat) (text : String), (∃ duration, parse now text = .ok duration) ↔
      ∃ number steps duration, Literal.Writes text.toList number ∧ 0 ≤ number.value ∧
        Measures now number.size steps duration := by
  intro h
  have hzero : parse 0 "-1e-400" = .ok ⟨0⟩ := by decide +kernel
  have hliteral : Literal.parse? "-1e-400" = some (.decimal ⟨true, 1, -400⟩) := by decide +kernel
  obtain ⟨number, _, _, hwrites, hnonneg, _⟩ := (h 0 "-1e-400").mp ⟨_, hzero⟩
  have hnumber := hliteral.symm.trans (Literal.parse?_eq_decimal_iff.mpr hwrites)
  cases hnumber
  have hsize : 0 < Decimal.size ⟨true, 1, -400⟩ := by
    unfold Decimal.size
    positivity
  rw [Decimal.value_eq_neg_size rfl] at hnonneg
  linarith

end Seconds

end BoardSmoke
