import LineGrammar.Text.Decimal

/-!
The time in front of a line of the log, as a date and a time of day in UTC with microseconds. Years
begin in March here, so that a leap day is the last day of its year.
-/

namespace LineGrammar

/-- A number with zeros before it up to a width. -/
def Text.padded (width n : Nat) : Text := (ofNat n).leftpad width '0'

/-- A day by its year, the months of the year before it and the days of the month before it. -/
structure Day where
  year : Nat
  month : Nat
  day : Nat
  deriving DecidableEq, Repr

namespace Day

/-- The days before a year, from the year 0 on. -/
def daysBeforeYear (year : Nat) : Nat := 365 * year + year / 4 - year / 100 + year / 400

/-- The days before a month in its year. -/
def daysBeforeMonth (month : Nat) : Nat := (153 * month + 2) / 5

/-- How many days lie before a day. -/
def number (d : Day) : Nat := daysBeforeYear d.year + daysBeforeMonth d.month + d.day

/-- The day with so many days before it. Four hundred years have 146097 days, a century has 36524 of
them and four years 1461; only the last century of four and the last year of four can be one day
longer. -/
def ofNumber (n : Nat) : Day :=
  let inCycle := n % 146097
  let century := min (inCycle / 36524) 3
  let inCentury := inCycle - 36524 * century
  let inFour := inCentury % 1461
  let year := min (inFour / 365) 3
  let inYear := inFour - 365 * year
  let month := (5 * inYear + 2) / 153
  ⟨400 * (n / 146097) + 100 * century + 4 * (inCentury / 1461) + year, month,
    inYear - daysBeforeMonth month⟩

theorem daysBeforeYear_cycles {cycles centuries fours years : Nat} (hcenturies : centuries ≤ 3)
    (hfours : fours ≤ 24) (hyears : years ≤ 3) :
    daysBeforeYear (400 * cycles + 100 * centuries + 4 * fours + years) =
      146097 * cycles + 36524 * centuries + 1461 * fours + 365 * years := by
  rw [daysBeforeYear]
  omega

theorem daysBeforeMonth_le (inYear : Nat) : daysBeforeMonth ((5 * inYear + 2) / 153) ≤ inYear := by
  rw [daysBeforeMonth]
  omega

theorem number_ofNumber (n : Nat) : (ofNumber n).number = n := by
  have fours : (n % 146097 - 36524 * min (n % 146097 / 36524) 3) / 1461 ≤ 24 := by omega
  simp only [ofNumber, number]
  rw [daysBeforeYear_cycles (Nat.min_le_right ..) fours (Nat.min_le_right ..), Nat.add_assoc,
    Nat.add_sub_cancel' (daysBeforeMonth_le _)]
  omega

/-- The date of a day in the calendar, in which years begin in January. -/
def date (d : Day) : Text :=
  let (year, month) := if d.month < 10 then (d.year, d.month + 3) else (d.year + 1, d.month - 9)
  Text.padded 4 year ++ '-' :: Text.padded 2 month ++ '-' :: Text.padded 2 (d.day + 1)

/-- The first of January 1970. -/
def epoch : Day := ⟨1969, 10, 0⟩

end Day

/-- The time so many nanoseconds after the beginning of 1970. -/
def timeStamp (nanos : Nat) : Text :=
  let seconds := nanos / 1000000000
  let day := Day.ofNumber (Day.epoch.number + seconds / 86400)
  day.date ++ 'T' :: Text.padded 2 (seconds / 3600 % 24) ++
    ':' :: Text.padded 2 (seconds / 60 % 60) ++ ':' :: Text.padded 2 (seconds % 60) ++
    '.' :: Text.padded 6 (nanos / 1000 % 1000000) ++ ['Z']

example : timeStamp 1709193900000042999 = "2024-02-29T08:05:00.000042Z".toList := by
  decide +kernel

end LineGrammar
