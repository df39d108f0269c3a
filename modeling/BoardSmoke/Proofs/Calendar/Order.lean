import BoardSmoke.Proofs.Calendar
import Mathlib.Data.Nat.Cast.Order.Basic
import Mathlib.Order.Compare

namespace BoardSmoke

-- Numbers with two digits to a large base are compared by the first digit, and if that is the same, by
-- the second.
theorem compare_base {base high low high' low' : Int} (h : low < low' + base) (h' : low' < low + base) :
    compare (high * base + low) (high' * base + low') =
      (compare high high').then (compare low low') := by
  have hbase : 0 < base := by omega
  have hstep : ∀ {a b : Int}, a < b → a * base + base ≤ b * base := fun {a b} hab => by
    have hmul := Int.mul_le_mul_of_nonneg_right (Int.add_one_le_of_lt hab) (Int.le_of_lt hbase)
    rwa [Int.add_mul, Int.one_mul] at hmul
  rcases lt_trichotomy high high' with hlt | rfl | hgt
  · have hmul := hstep hlt
    rw [compare_lt_iff_lt.mpr hlt, compare_lt_iff_lt.mpr (by omega)]
    rfl
  · rw [compare_eq_iff_eq.mpr rfl]
    rcases lt_trichotomy low low' with hlow | rfl | hlow
    · rw [compare_lt_iff_lt.mpr hlow, compare_lt_iff_lt.mpr (by omega)]
      rfl
    · rw [compare_eq_iff_eq.mpr rfl, compare_eq_iff_eq.mpr rfl]
      rfl
    · rw [compare_gt_iff_gt.mpr hlow, compare_gt_iff_gt.mpr (by omega)]
      rfl
  · have hmul := hstep hgt
    rw [compare_gt_iff_gt.mpr hgt, compare_gt_iff_gt.mpr (by omega)]
    rfl

theorem compare_natCast (n m : Nat) : compare (n : Int) m = compare n m := by
  rw [← cmp_eq_compare, ← cmp_eq_compare, Nat.strictMono_cast.cmp_map_eq]

namespace Calendar

-- A later day is past more parts of one size, or past as many and later in the part that it is in.
private theorem parts_later {day other size parts parts' : Nat} (h : day < other)
    (hpast : parts * size ≤ day) (hparts : parts ≤ parts') :
    parts < parts' ∨ parts = parts' ∧ day - parts * size < other - parts' * size := by
  rcases Nat.lt_or_eq_of_le hparts with hlt | rfl
  · exact .inl hlt
  · exact .inr ⟨rfl, by omega⟩

private theorem capped_later {day other : Nat} (cap size : Nat) (h : day < other) :
    min cap (day / size) < min cap (other / size) ∨
      min cap (day / size) = min cap (other / size) ∧
        day - min cap (day / size) * size < other - min cap (other / size) * size := by
  have hquotients : day / size ≤ other / size := Nat.div_le_div_right (Nat.le_of_lt h)
  have hpast : min cap (day / size) * size ≤ day :=
    Nat.le_trans (Nat.mul_le_mul_right size (Nat.min_le_right _ _)) (Nat.div_mul_le_self day size)
  exact parts_later h hpast (by omega)

-- A later day of an era is in a later year, or later in the same year.
theorem splitEra_later {day other : Nat} (h : day < other) (hother : (other : Int) < daysPerEra) :
    (splitEra day).1 < (splitEra other).1 ∨
      (splitEra day).1 = (splitEra other).1 ∧ (splitEra day).2 < (splitEra other).2 := by
  have hlast : other < 146097 := Int.ofNat_lt.mp hother
  have hinner : day - min 3 (day / 36524) * 36524 < 36525 := by omega
  simp only [splitEra, daysPerCentury, daysPerCycle, daysPerYear]
  have hcentury := capped_later 3 36524 h
  generalize min 3 (day / 36524) = century at *
  generalize min 3 (other / 36524) = century' at *
  generalize day - century * 36524 = day at *
  generalize other - century' * 36524 = other at *
  have hcycle_lt : day / 1461 < 25 := by omega
  rcases hcentury with hlt | ⟨rfl, hday⟩
  · exact .inl (by omega)
  have hcycle := parts_later hday (Nat.div_mul_le_self day 1461)
    (Nat.div_le_div_right (Nat.le_of_lt hday))
  generalize day / 1461 = cycle at *
  generalize other / 1461 = cycle' at *
  generalize day - cycle * 1461 = day at *
  generalize other - cycle' * 1461 = other at *
  rcases hcycle with hlt | ⟨rfl, hday⟩
  · exact .inl (by omega)
  rcases capped_later 3 365 hday with hlt | ⟨hsame, hday⟩
  · exact .inl (by omega)
  · exact .inr ⟨by rw [hsame], hday⟩

def dayRank (date : Nat × Nat) : Nat := date.1 * 32 + date.2

theorem month_le_month {day other : Nat} (h : day ≤ other) :
    (splitYear day).1 ≤ (splitYear other).1 := by
  have hstarts : ∀ starts : List Nat,
      (starts.takeWhile (· ≤ day)).length ≤ (starts.takeWhile (· ≤ other)).length := by
    intro starts
    induction starts with
    | nil => exact Nat.le_refl 0
    | cons start starts ih =>
        by_cases hstart : start ≤ day
        · simpa [hstart, Nat.le_trans hstart h] using ih
        · simp [hstart]
  exact Nat.sub_le_sub_right (hstarts monthStarts) 1

-- A later day of the same month is further from its start.
theorem splitYear_later {day other : Nat} (h : day < other) (hother : other < 366) :
    dayRank (splitYear day) < dayRank (splitYear other) := by
  obtain ⟨_, hlt, hday⟩ := splitYear_spec day (by omega)
  obtain ⟨_, _, hday'⟩ := splitYear_spec other hother
  simp only [dayRank]
  rcases Nat.lt_or_eq_of_le (month_le_month (Nat.le_of_lt h)) with hmonth | hmonth
  · omega
  · rw [hmonth] at hday
    omega

def dateRank (date : Int × Nat × Nat) : Int := (date.1 * 12 + date.2.1) * 32 + date.2.2

-- January and February belong to the year that began before them.
theorem dateRank_dateOfDay (day : Int) :
    dateRank (dateOfDay day) =
      (day / 146097 * 400 + (splitEra (day % 146097).toNat).1) * 384 +
        dayRank (splitYear (splitEra (day % 146097).toNat).2) + 97 := by
  rw [dateOfDay, fdiv_era, fmod_era]
  generalize splitEra (day % 146097).toNat = split
  obtain ⟨year, dayOfYear⟩ := split
  dsimp only
  generalize splitYear dayOfYear = date
  obtain ⟨month, dayOfMonth⟩ := date
  dsimp only [dayRank]
  split
  · simp only [dateRank]
    omega
  · simp only [dateRank]
    omega

theorem month_pos (day : Int) : 1 ≤ (dateOfDay day).2.1 := by
  rw [dateOfDay]
  dsimp only
  split
  · exact Nat.le_add_left 1 _
  · dsimp only
    omega

theorem dateOfDay_later {day other : Int} (h : day < other) :
    dateRank (dateOfDay day) < dateRank (dateOfDay other) := by
  rw [dateRank_dateOfDay, dateRank_dateOfDay]
  have hrest : ∀ n : Int, ((n % 146097).toNat : Int) = n % 146097 ∧ n % 146097 < 146097 :=
    fun n => ⟨Int.toNat_of_nonneg (Int.emod_nonneg n (by decide)), Int.emod_lt_of_pos n (by decide)⟩
  have hlt : ∀ n : Int, ((n % 146097).toNat : Int) < daysPerEra := fun n => by
    rw [(hrest n).1]
    exact (hrest n).2
  have hbounds : ∀ n : Int, (splitEra (n % 146097).toNat).1 < 400 ∧
      dayRank (splitYear (splitEra (n % 146097).toNat).2) < 384 := fun n => by
    obtain ⟨hyear, hday⟩ := splitEra_lt (hlt n)
    obtain ⟨hmonth, hdayOfMonth, _⟩ := splitYear_spec _ hday
    exact ⟨hyear, by simp only [dayRank]; omega⟩
  obtain ⟨hyear, hrank⟩ := hbounds day
  obtain ⟨hyear', hrank'⟩ := hbounds other
  have heras : day / 146097 ≤ other / 146097 := Int.ediv_le_ediv (by decide) (Int.le_of_lt h)
  rcases Int.lt_or_eq_of_le heras with hera | hera
  · omega
  have hwithin : (day % 146097).toNat < (other % 146097).toNat := by omega
  rcases splitEra_later hwithin (hlt other) with hlater | ⟨hsame, hlater⟩
  · omega
  · have hdays := splitYear_later hlater (splitEra_lt (hlt other)).2
    omega

end Calendar

namespace LocalTime

open Calendar

def rank (time : LocalTime) : Int :=
  ((dateRank (time.year, time.month, time.day) * 24 + time.hour) * 60 + time.minute) * 60 +
    time.second

theorem rank_ofEpoch (epoch offset : Int) :
    (ofEpoch epoch offset).rank =
      dateRank (dateOfDay ((epoch + offset) / 86400 + epochDay)) * 86400 +
        (epoch + offset) % 86400 := by
  have hrest : (((epoch + offset) % 86400).toNat : Int) = (epoch + offset) % 86400 :=
    Int.toNat_of_nonneg (Int.emod_nonneg _ (by decide))
  rcases hdate : dateOfDay ((epoch + offset) / 86400 + epochDay) with ⟨year, month, day⟩
  rw [ofEpoch, fdiv_day, fmod_day, hdate]
  simp only [rank]
  omega

theorem ofEpoch_later {epoch offset otherEpoch otherOffset : Int}
    (h : epoch + offset < otherEpoch + otherOffset) :
    (ofEpoch epoch offset).rank < (ofEpoch otherEpoch otherOffset).rank := by
  rw [rank_ofEpoch, rank_ofEpoch]
  generalize epoch + offset = seconds at h ⊢
  generalize otherEpoch + otherOffset = otherSeconds at h ⊢
  have hdays : seconds / 86400 ≤ otherSeconds / 86400 :=
    Int.ediv_le_ediv (by decide) (Int.le_of_lt h)
  rcases Int.lt_or_eq_of_le hdays with hlt | hsame
  · have hdate := dateOfDay_later (Int.add_lt_add_right hlt epochDay)
    omega
  · rw [hsame]
    omega

-- What clocks show is ordered as the seconds that have passed on them.
theorem compare_rank_ofEpoch (epoch offset otherEpoch otherOffset : Int) :
    compare (ofEpoch epoch offset).rank (ofEpoch otherEpoch otherOffset).rank =
      compare (epoch + offset) (otherEpoch + otherOffset) := by
  rcases lt_trichotomy (epoch + offset) (otherEpoch + otherOffset) with hlt | hsame | hgt
  · rw [compare_lt_iff_lt.mpr hlt, compare_lt_iff_lt.mpr (ofEpoch_later hlt)]
  · rw [compare_eq_iff_eq.mpr hsame, ofEpoch_eq_iff.mpr hsame, compare_eq_iff_eq.mpr rfl]
  · rw [compare_gt_iff_gt.mpr hgt, compare_gt_iff_gt.mpr (ofEpoch_later hgt)]

-- The fields stay within what clocks and calendars show.
structure Proper (time : LocalTime) : Prop where
  month : 1 ≤ time.month ∧ time.month ≤ 12
  day : time.day ≤ 31
  hour : time.hour < 24
  minute : time.minute < 60
  second : time.second < 60

theorem Proper.twoDigits {time : LocalTime} (h : time.Proper) : time.TwoDigits := by
  obtain ⟨⟨_, hmonth⟩, hday, hhour, hminute, hsecond⟩ := h
  constructor <;> omega

theorem ofEpoch_proper (epoch offset : Int) : (ofEpoch epoch offset).Proper := by
  obtain ⟨hmonth, hday, hhour, hminute, hsecond, _⟩ := ofEpoch_spec epoch offset
  refine ⟨⟨?_, hmonth⟩, hday, hhour, hminute, hsecond⟩
  have hpos := month_pos ((epoch + offset).fdiv secondsPerDay + epochDay)
  rcases hdate : dateOfDay ((epoch + offset).fdiv secondsPerDay + epochDay) with ⟨year, month, day⟩
  rw [hdate] at hpos
  rw [ofEpoch, hdate]
  exact hpos

-- The fields one after the other, from the year on.
def order (time other : LocalTime) : Ordering :=
  (compare time.year other.year).then <| (compare time.month other.month).then <|
    (compare time.day other.day).then <| (compare time.hour other.hour).then <|
      (compare time.minute other.minute).then (compare time.second other.second)

theorem compare_rank {time other : LocalTime} (htime : time.Proper) (hother : other.Proper) :
    compare time.rank other.rank = time.order other := by
  obtain ⟨⟨hmonth_pos, hmonth⟩, hday, hhour, hminute, hsecond⟩ := htime
  obtain ⟨⟨hmonth_pos', hmonth'⟩, hday', hhour', hminute', hsecond'⟩ := hother
  simp only [rank, dateRank]
  rw [compare_base (by omega) (by omega), compare_base (by omega) (by omega),
    compare_base (by omega) (by omega), compare_base (by omega) (by omega),
    compare_base (by omega) (by omega)]
  simp only [order, Ordering.then_assoc, compare_natCast]

end LocalTime

end BoardSmoke
