import BoardSmoke.Number.Seconds

namespace BoardSmoke

theorem Clock.deadline?_isSome_iff {now : Nat} {window : Duration} :
    (deadline? now window).isSome = true ↔ now + window.nanoseconds < limit := by
  unfold deadline?
  split <;> simp [*]

namespace Seconds

theorem ofSteps_eq_ok_iff {now steps : Nat} {duration : Duration} :
    ofSteps now steps = .ok duration ↔
      steps < limit * Binary64.stepsPerUnit ∧ now + nanoseconds steps < Clock.limit ∧
        duration.nanoseconds = nanoseconds steps := by
  unfold ofSteps
  -- The sizes are not worked out.
  generalize nanoseconds steps = count
  generalize limit * Binary64.stepsPerUnit = bound
  by_cases hfits : bound ≤ steps
  · rw [if_pos hfits]
    constructor
    · intro h
      cases h
    · intro h
      exact absurd hfits (Nat.not_le.mpr h.1)
  rw [if_neg hfits]
  dsimp only
  by_cases hclock : now + count < Clock.limit
  · have hdeadline : Clock.deadline? now ⟨count⟩ = some (now + count) := if_pos hclock
    rw [hdeadline]
    constructor
    · rintro ⟨⟩
      exact ⟨Nat.not_le.mp hfits, hclock, rfl⟩
    · intro h
      rw [← h.2.2]
  · have hdeadline : Clock.deadline? now ⟨count⟩ = none := if_neg hclock
    rw [hdeadline]
    constructor
    · intro h
      cases h
    · intro h
      exact absurd h.2.1 hclock

theorem parse_of_decimal {now : Nat} {text : String} {number : Decimal}
    (hliteral : Literal.parse? text = some (.decimal number)) :
    parse now text =
      match number.steps? with
      | none => .error .invalid
      | some steps =>
        if number.negative ∧ steps ≠ 0 then .error .invalid else ofSteps now steps := by
  have hempty : text ≠ "" := by
    rintro rfl
    have hnone : Literal.parse? "" = none := by decide +kernel
    rw [hnone] at hliteral
    cases hliteral
  cases hsteps : number.steps? <;> simp only [parse, if_neg hempty, hliteral, hsteps]

theorem parse_eq_ok_iff {now : Nat} {text : String} {duration : Duration} :
    parse now text = .ok duration ↔
      ∃ number steps, Literal.parse? text = some (.decimal number) ∧ number.steps? = some steps ∧
        (number.negative = true → steps = 0) ∧ ofSteps now steps = .ok duration := by
  constructor
  · intro h
    unfold parse at h
    split at h
    · cases h
    split at h
    · cases h
    · cases h
    · cases h
    rename_i number hliteral
    split at h
    · cases h
    rename_i steps hsteps
    split at h
    · cases h
    rename_i hsign
    have hzero : number.negative = true → steps = 0 := fun hnegative =>
      Decidable.byContradiction fun hne => hsign ⟨hnegative, hne⟩
    exact ⟨number, steps, hliteral, hsteps, hzero, h⟩
  · rintro ⟨number, steps, hliteral, hsteps, hsign, hduration⟩
    rw [parse_of_decimal hliteral]
    simp only [hsteps]
    rw [if_neg fun h => h.2 (hsign h.1), hduration]

end Seconds

end BoardSmoke
