namespace BoardSmoke

-- A local date and time of day. A leap second is the second 60.
structure LocalTime where
  year : Int
  month : Nat
  day : Nat
  hour : Nat
  minute : Nat
  second : Nat
  deriving DecidableEq, Repr

namespace Calendar

def secondsPerDay : Int := 86400

-- Days in 400 years, in 100 years without a leap day at the end, in 4 years with one, and in a
-- year without one.
def daysPerEra : Int := 146097
def daysPerCentury : Nat := 36524
def daysPerCycle : Nat := 1461
def daysPerYear : Nat := 365

def epochDay : Int := 719468

-- The day of the year, counted from 1 March, on which each month starts, March first.
def monthStarts : List Nat := [0, 31, 61, 92, 122, 153, 184, 214, 245, 275, 306, 337]

-- The year within an era, which has 400 of them, and the day in that year. The last century of an
-- era and the last year of a cycle have the additional day.
def splitEra (day : Nat) : Nat × Nat :=
  let century := min 3 (day / daysPerCentury)
  let day := day - century * daysPerCentury
  let cycle := day / daysPerCycle
  let day := day - cycle * daysPerCycle
  let year := min 3 (day / daysPerYear)
  (century * 100 + cycle * 4 + year, day - year * daysPerYear)

-- The month of a day of the year, March being 0, and the day in that month, the first being 0.
def splitYear (day : Nat) : Nat × Nat :=
  let month := (monthStarts.takeWhile (· ≤ day)).length - 1
  (month, day - monthStarts.getD month 0)

def dateOfDay (day : Int) : Int × Nat × Nat :=
  let era := day.fdiv daysPerEra
  let (yearOfEra, dayOfYear) := splitEra (day.fmod daysPerEra).toNat
  let (month, dayOfMonth) := splitYear dayOfYear
  let year := era * 400 + yearOfEra
  if month < 10 then (year, month + 3, dayOfMonth + 1)
  else (year + 1, month - 9, dayOfMonth + 1)

end Calendar

namespace LocalTime

open Calendar in
-- The local time at `epoch` seconds after the start of 1970 in UTC, where clocks show `offset`
-- seconds more than UTC.
def ofEpoch (epoch offset : Int) : LocalTime :=
  let seconds := epoch + offset
  let (year, month, day) := dateOfDay (seconds.fdiv secondsPerDay + epochDay)
  let rest := (seconds.fmod secondsPerDay).toNat
  ⟨year, month, day, rest / 3600, rest / 60 % 60, rest % 60⟩

def padded (width n : Nat) : List Char :=
  let digits := Nat.toDigits 10 n
  List.replicate (width - digits.length) '0' ++ digits

-- A year has at least four digits. Beyond the years 0 to 9999 it has a sign, too.
def yearDigits (year : Int) : List Char :=
  if year < 0 then '-' :: padded 4 year.natAbs
  else if 9999 < year then '+' :: padded 4 year.natAbs
  else padded 4 year.natAbs

-- The time as digits, from the year to the second, with a mark between the day and the hour.
def stamp (time : LocalTime) : String :=
  String.ofList (yearDigits time.year ++ padded 2 time.month ++ padded 2 time.day ++ ['_'] ++
    padded 2 time.hour ++ padded 2 time.minute ++ padded 2 time.second)

end LocalTime

end BoardSmoke
