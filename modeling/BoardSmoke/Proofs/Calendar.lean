import BoardSmoke.Calendar
import Mathlib.Algebra.Order.Ring.Int
import Mathlib.Tactic.Common

namespace BoardSmoke

namespace Calendar

def dayOfEra (year day : Nat) : Nat :=
  year / 100 * daysPerCentury + year % 100 / 4 * daysPerCycle + year % 4 * daysPerYear + day

def dayOfDate (year : Int) (month day : Nat) : Int :=
  let (year, month) := if 3 ≤ month then (year, month - 3) else (year - 1, month + 9)
  year.fdiv 400 * daysPerEra +
    dayOfEra (year.fmod 400).toNat (monthStarts.getD month 0 + (day - 1))

-- A day is some centuries, cycles of four years and years into its era.
private theorem splitEra_parts {day : Nat} (h : (day : Int) < daysPerEra) :
    ∃ century cycle year rest, century < 4 ∧ cycle < 25 ∧ year < 4 ∧ rest < 366 ∧
      splitEra day = (century * 100 + cycle * 4 + year, rest) ∧
      day = century * daysPerCentury + cycle * daysPerCycle + year * daysPerYear + rest := by
  simp only [splitEra, daysPerCentury, daysPerCycle, daysPerYear, daysPerEra] at *
  generalize hcentury : min 3 (day / 36524) = century
  generalize hcycle : (day - century * 36524) / 1461 = cycle
  generalize hyear : min 3 ((day - century * 36524 - cycle * 1461) / 365) = year
  exact ⟨century, cycle, year, _, by omega, by omega, by omega, by omega, rfl, by omega⟩

theorem splitEra_lt {day : Nat} (h : (day : Int) < daysPerEra) :
    (splitEra day).1 < 400 ∧ (splitEra day).2 < 366 := by
  obtain ⟨century, cycle, year, rest, hcentury, hcycle, hyear, hrest, hsplit, _⟩ := splitEra_parts h
  rw [hsplit]
  dsimp only
  omega

theorem dayOfEra_splitEra {day : Nat} (h : (day : Int) < daysPerEra) :
    dayOfEra (splitEra day).1 (splitEra day).2 = day := by
  obtain ⟨century, cycle, year, rest, hcentury, hcycle, hyear, hrest, hsplit, hday⟩ :=
    splitEra_parts h
  have hhundreds : (century * 100 + cycle * 4 + year) / 100 = century := by omega
  have hfours : (century * 100 + cycle * 4 + year) % 100 / 4 = cycle := by omega
  have hones : (century * 100 + cycle * 4 + year) % 4 = year := by omega
  rw [hsplit, dayOfEra, hhundreds, hfours, hones, ← hday]

theorem splitYear_spec : ∀ day < 366,
    (splitYear day).1 < 12 ∧ (splitYear day).2 < 31 ∧
      monthStarts.getD (splitYear day).1 0 + (splitYear day).2 = day := by
  decide +kernel

theorem fdiv_era (n : Int) : n.fdiv daysPerEra = n / 146097 :=
  Int.fdiv_eq_ediv_of_nonneg n (by decide)

theorem fmod_era (n : Int) : n.fmod daysPerEra = n % 146097 :=
  Int.fmod_eq_emod_of_nonneg n (by decide)

theorem dateOfDay_spec (day : Int) :
    (dateOfDay day).2.1 ≤ 12 ∧ (dateOfDay day).2.2 ≤ 31 ∧
      dayOfDate (dateOfDay day).1 (dateOfDay day).2.1 (dateOfDay day).2.2 = day := by
  have hrest : ((day % 146097).toNat : Int) = day % 146097 :=
    Int.toNat_of_nonneg (Int.emod_nonneg day (by decide))
  have hlt : ((day % 146097).toNat : Int) < daysPerEra := by
    rw [hrest]
    exact Int.emod_lt_of_pos day (by decide)
  obtain ⟨hyear, hdayOfYear⟩ := splitEra_lt hlt
  have hsplit := dayOfEra_splitEra hlt
  obtain ⟨hmonth, hdayOfMonth, hstart⟩ := splitYear_spec _ hdayOfYear
  rw [dateOfDay, fdiv_era, fmod_era]
  dsimp only
  generalize splitEra (day % 146097).toNat = split at *
  obtain ⟨yearOfEra, dayOfYear⟩ := split
  dsimp only at *
  generalize splitYear dayOfYear = date at *
  obtain ⟨month, dayOfMonth⟩ := date
  dsimp only at *
  -- The first ten months of the calendar's year are March to December of the same year.
  have hspread : ∀ era : Int, (era * 400 + yearOfEra).fdiv 400 = era ∧
      ((era * 400 + yearOfEra).fmod 400).toNat = yearOfEra := by
    intro era
    rw [Int.fdiv_eq_ediv_of_nonneg _ (by decide), Int.fmod_eq_emod_of_nonneg _ (by decide)]
    omega
  split
  · rename_i hfirst
    refine ⟨by dsimp only; omega, by dsimp only; omega, ?_⟩
    simp only [dayOfDate, show 3 ≤ month + 3 by omega, if_true, Nat.add_sub_cancel,
      (hspread _).1, (hspread _).2, hstart, hsplit]
    rw [hrest, daysPerEra]
    omega
  · refine ⟨by dsimp only; omega, by dsimp only; omega, ?_⟩
    simp only [dayOfDate, show ¬3 ≤ month - 9 by omega, if_false, Nat.add_sub_cancel,
      show month - 9 + 9 = month by omega, Int.add_sub_cancel, (hspread _).1, (hspread _).2, hstart,
      hsplit]
    rw [hrest, daysPerEra]
    omega

end Calendar

namespace LocalTime

open Calendar

-- The fields behind the year are shown with two digits each.
structure TwoDigits (time : LocalTime) : Prop where
  month : time.month < 100
  day : time.day < 100
  hour : time.hour < 100
  minute : time.minute < 100
  second : time.second < 100

def seconds (time : LocalTime) : Int :=
  (dayOfDate time.year time.month time.day - epochDay) * secondsPerDay +
    (time.hour * 3600 + time.minute * 60 + time.second : Nat)

theorem fdiv_day (n : Int) : n.fdiv secondsPerDay = n / 86400 :=
  Int.fdiv_eq_ediv_of_nonneg n (by decide)

theorem fmod_day (n : Int) : n.fmod secondsPerDay = n % 86400 :=
  Int.fmod_eq_emod_of_nonneg n (by decide)

theorem ofEpoch_spec (epoch offset : Int) :
    let time := ofEpoch epoch offset
    time.month ≤ 12 ∧ time.day ≤ 31 ∧ time.hour < 24 ∧ time.minute < 60 ∧ time.second < 60 ∧
      time.seconds = epoch + offset := by
  obtain ⟨hmonth, hday, hdate⟩ := dateOfDay_spec ((epoch + offset) / 86400 + epochDay)
  have hrest : (((epoch + offset) % 86400).toNat : Int) = (epoch + offset) % 86400 :=
    Int.toNat_of_nonneg (Int.emod_nonneg _ (by decide))
  have hlt : (epoch + offset) % 86400 < 86400 := Int.emod_lt_of_pos _ (by decide)
  rcases hparts : dateOfDay ((epoch + offset) / 86400 + epochDay) with ⟨year, month, day⟩
  rw [hparts] at hmonth hday hdate
  rw [ofEpoch, fdiv_day, fmod_day, hparts]
  dsimp only [seconds, secondsPerDay] at *
  rw [hdate]
  generalize ((epoch + offset) % 86400).toNat = rest at *
  refine ⟨hmonth, hday, by omega, by omega, by omega, by omega⟩

-- Without leap seconds, local times tell moments apart by what clocks show.
theorem ofEpoch_eq_iff {epoch offset otherEpoch otherOffset : Int} :
    ofEpoch epoch offset = ofEpoch otherEpoch otherOffset ↔
      epoch + offset = otherEpoch + otherOffset := by
  constructor
  · intro h
    obtain ⟨_, _, _, _, _, hseconds⟩ := ofEpoch_spec epoch offset
    obtain ⟨_, _, _, _, _, hother⟩ := ofEpoch_spec otherEpoch otherOffset
    rw [← hseconds, h, hother]
  · intro h
    rw [ofEpoch, ofEpoch, h]

theorem isDigit_of_mem_padded {width n : Nat} {c : Char} (h : c ∈ padded width n) :
    c.isDigit = true := by
  rcases List.mem_append.mp h with hzero | hdigit
  · rw [List.eq_of_mem_replicate hzero]
    rfl
  · exact Nat.isDigit_of_mem_toDigits (by decide) (by decide) hdigit

theorem ofDigitChars_padded (width n : Nat) : Nat.ofDigitChars 10 (padded width n) 0 = n := by
  rw [padded, Nat.ofDigitChars_append, Nat.ofDigitChars_replicate_zero, Nat.mul_zero,
    Nat.ofDigitChars_ten_toDigits]

theorem padded_injective {width n m : Nat} (h : padded width n = padded width m) : n = m := by
  rw [← ofDigitChars_padded width n, h, ofDigitChars_padded]

theorem length_padded {width n : Nat} (hwidth : 0 < width) (h : n < 10 ^ width) :
    (padded width n).length = width := by
  have hdigits : (Nat.toDigits 10 n).length ≤ width :=
    (Nat.length_toDigits_le_iff (by decide) hwidth).mpr h
  rw [padded, List.length_append, List.length_replicate]
  omega

-- The year that is written with the given sign and digits.
def yearOfDigits : List Char → Int
  | '-' :: digits => -(Nat.ofDigitChars 10 digits 0 : Nat)
  | '+' :: digits => (Nat.ofDigitChars 10 digits 0 : Nat)
  | digits => (Nat.ofDigitChars 10 digits 0 : Nat)

theorem yearOfDigits_padded (n : Nat) : yearOfDigits (padded 4 n) = n := by
  have hdigit : ∀ mark digits, padded 4 n = mark :: digits → mark.isDigit = true :=
    fun mark digits h => isDigit_of_mem_padded (h ▸ List.mem_cons_self)
  unfold yearOfDigits
  split
  · rename_i hminus
    exact absurd (hdigit _ _ hminus) (by decide)
  · rename_i hplus
    exact absurd (hdigit _ _ hplus) (by decide)
  · rw [ofDigitChars_padded]

theorem yearOfDigits_yearDigits (year : Int) : yearOfDigits (yearDigits year) = year := by
  rw [yearDigits]
  split
  · rw [yearOfDigits, ofDigitChars_padded]
    omega
  · split
    · rw [yearOfDigits, ofDigitChars_padded]
      omega
    · rw [yearOfDigits_padded]
      omega

theorem yearDigits_injective {year other : Int} (h : yearDigits year = yearDigits other) :
    year = other := by
  rw [← yearOfDigits_yearDigits year, h, yearOfDigits_yearDigits]

-- A stamp shows all fields of a local time.
theorem stamp_injective {time other : LocalTime} (htime : TwoDigits time) (hother : TwoDigits other)
    (h : time.stamp = other.stamp) : time = other := by
  have hlength : ∀ {n m : Nat}, n < 100 → m < 100 →
      (padded 2 n).length = (padded 2 m).length := fun hn hm =>
    (length_padded Nat.zero_lt_two hn).trans (length_padded Nat.zero_lt_two hm).symm
  have hchars := String.ofList_injective h
  -- The fields are told apart from the last one on, as only the year may have more digits.
  obtain ⟨hchars, hsecond⟩ := List.append_inj' hchars (hlength htime.second hother.second)
  obtain ⟨hchars, hminute⟩ := List.append_inj' hchars (hlength htime.minute hother.minute)
  obtain ⟨hchars, hhour⟩ := List.append_inj' hchars (hlength htime.hour hother.hour)
  obtain ⟨hchars, _⟩ := List.append_inj' hchars rfl
  obtain ⟨hchars, hday⟩ := List.append_inj' hchars (hlength htime.day hother.day)
  obtain ⟨hyear, hmonth⟩ := List.append_inj' hchars (hlength htime.month hother.month)
  cases time
  cases other
  simp only [LocalTime.mk.injEq]
  exact ⟨yearDigits_injective hyear, padded_injective hmonth, padded_injective hday,
    padded_injective hhour, padded_injective hminute, padded_injective hsecond⟩

theorem slash_notMem_stamp (time : LocalTime) : '/' ∉ time.stamp.toList := by
  have hpadded : ∀ width n, '/' ∉ padded width n :=
    fun width n h => absurd (isDigit_of_mem_padded h) (by decide)
  have hyear : '/' ∉ yearDigits time.year := by
    rw [yearDigits]
    split
    · simp [hpadded]
    · split <;> simp [hpadded]
  simp [stamp, hpadded, hyear]

end LocalTime

end BoardSmoke
