/-!
# The calendar

A `Date` is a day of the proleptic Gregorian calendar. `Date.dayNumber` counts days from the first
of January 1970, and `Date.ofDayNumber` is its inverse. Both go through years that begin in March,
so that the day a leap year adds is the last of its year.
-/

namespace Relay.Time

/-- A year, a month from one on and a day from one on. -/
structure Date where
  year : Int
  month : Nat
  day : Nat
  deriving DecidableEq, Repr

/-- Whether a year has a 29th of February. -/
def isLeap (year : Int) : Bool :=
  year % 4 = 0 && (year % 100 ≠ 0 || year % 400 = 0)

/-- The number of days in a month. -/
def daysInMonth (year : Int) (month : Nat) : Nat :=
  if month = 2 then (if isLeap year then 29 else 28)
  else if month = 4 || month = 6 || month = 9 || month = 11 then 30
  else 31

/-- Whether a year, month and day name a day that exists. -/
def Date.exists (d : Date) : Bool :=
  1 ≤ d.month && d.month ≤ 12 && 1 ≤ d.day && d.day ≤ daysInMonth d.year d.month

/-- Days from the first of March of the year 0 to the first of March of another year. -/
def marchStart (year : Int) : Int := 365 * year + year / 4 - year / 100 + year / 400

/-- Days from the first of March of the year 0 to the first of January 1970. -/
def epochDay : Int := 719468

/-- The days from the first of January 1970 to a date. -/
def Date.dayNumber (d : Date) : Int :=
  let year := if d.month ≤ 2 then d.year - 1 else d.year
  let fromMarch := (d.month + 9) % 12
  marchStart year + (153 * fromMarch + 2) / 5 + (d.day - 1 : Int) - epochDay

/-- The year, beginning in March, that holds the given day after the first of March of year 0. -/
def marchYear (day : Int) : Int :=
  let guess := 400 * day / 146097
  if day < marchStart guess then guess - 1
  else if marchStart (guess + 1) ≤ day then guess + 1
  else guess

/-- The date a number of days after the first of January 1970. -/
def Date.ofDayNumber (n : Int) : Date :=
  let day := n + epochDay
  let year := marchYear day
  let ofYear := (day - marchStart year).toNat
  let fromMarch := (5 * ofYear + 2) / 153
  let dayOfMonth := ofYear - (153 * fromMarch + 2) / 5 + 1
  if fromMarch < 10 then ⟨year, fromMarch + 3, dayOfMonth⟩
  else ⟨year + 1, fromMarch - 9, dayOfMonth⟩

/-- The guess at a year is off by one at most. -/
theorem marchStart_guess (day : Int) :
    marchStart (400 * day / 146097 - 1) ≤ day ∧ day < marchStart (400 * day / 146097 + 2) := by
  unfold marchStart
  constructor <;> omega

/-- The day lies in its year. -/
theorem marchYear_bounds (day : Int) :
    marchStart (marchYear day) ≤ day ∧ day < marchStart (marchYear day + 1) := by
  obtain ⟨low, high⟩ := marchStart_guess day
  unfold marchYear
  by_cases below : day < marchStart (400 * day / 146097)
  · simpa [below] using low
  · by_cases above : marchStart (400 * day / 146097 + 1) ≤ day
    · simp only [below, above, if_true, if_false]
      exact ⟨trivial, by rwa [Int.add_assoc]⟩
    · simp only [below, above, if_false]
      omega

end Relay.Time
