/-!
# Dates and windows of dates

The proleptic Gregorian calendar, from the first of January of the year -262143 to the last of
December of the year 262142. A date carries the proof that it is one, so every operation that may
leave the calendar answers with an `Option`.

* `Date.dayNumber` counts days, with 1 for the first of January of the year 1, a Monday.
* `Date.ofDayNumber?` goes back; `addDays?` is arithmetic on day numbers.
* `Date.addMonths?` keeps the day of the month, or takes the last one of a shorter month.
* `Window.day`, `Window.week?` and `Window.month` are the day, the week and the month of a date.
-/

namespace Agenda

/-- The first year of the calendar. -/
def firstYear : Int := -262143

/-- The last year of the calendar. -/
def lastYear : Int := 262142

/-- Whether a year has a 29th of February. -/
def isLeapYear (year : Int) : Bool :=
  year % 4 == 0 && (year % 100 != 0 || year % 400 == 0)

/-- The number of days of a month. -/
def daysInMonth (year : Int) (month : Nat) : Nat :=
  if month = 2 then (if isLeapYear year then 29 else 28)
  else if month = 4 ∨ month = 6 ∨ month = 9 ∨ month = 11 then 30
  else 31

/-- A day of the calendar. -/
structure Date where
  year : Int
  month : Nat
  day : Nat
  year_range : firstYear ≤ year ∧ year ≤ lastYear
  month_range : 1 ≤ month ∧ month ≤ 12
  day_range : 1 ≤ day ∧ day ≤ daysInMonth year month
deriving DecidableEq

namespace Date

/-- The date with the given year, month and day, if there is one. -/
def ofYearMonthDay? (year : Int) (month day : Nat) : Option Date :=
  if h : (firstYear ≤ year ∧ year ≤ lastYear) ∧ (1 ≤ month ∧ month ≤ 12) ∧
      (1 ≤ day ∧ day ≤ daysInMonth year month) then
    some ⟨year, month, day, h.1, h.2.1, h.2.2⟩
  else none

/-! ## Order

A date is placed by its year, month and day, in this order of weight. -/

/-- The place of the date in a calendar whose months all have 31 days. -/
def place (d : Date) : Int :=
  (d.year * 12 + d.month) * 31 + d.day

instance : LE Date := ⟨fun a b => a.place ≤ b.place⟩

instance : LT Date := ⟨fun a b => a.place < b.place⟩

instance (a b : Date) : Decidable (a ≤ b) := inferInstanceAs (Decidable (a.place ≤ b.place))

instance (a b : Date) : Decidable (a < b) := inferInstanceAs (Decidable (a.place < b.place))

instance : Ord Date := ⟨fun a b => compare a.place b.place⟩

/-! ## Day numbers -/

/-- The number of days before a year, counted from the start of the year 1. -/
def daysBeforeYear (year : Int) : Int :=
  365 * (year - 1) + (year - 1) / 4 - (year - 1) / 100 + (year - 1) / 400

/-- The number of days of a year before a month. -/
def daysBeforeMonth (year : Int) : Nat → Nat
  | 0 => 0
  | 1 => 0
  | m + 2 => daysBeforeMonth year (m + 1) + daysInMonth year (m + 1)

/-- The number of the day, with 1 for the first of January of the year 1. -/
def dayNumber (d : Date) : Int :=
  daysBeforeYear d.year + daysBeforeMonth d.year d.month + d.day

/-- The year that holds the day with the given number. The number of days since the start of the
year 1 is cut into spans of 400, 100, 4 and 1 years; the last span of a kind may be a day longer
than the others. -/
def yearOfDayNumber (n : Int) : Int :=
  let sinceEpoch := n - 1
  let inCycle := sinceEpoch % 146097
  let centuries := min (inCycle / 36524) 3
  let inCentury := inCycle - 36524 * centuries
  let quads := inCentury / 1461
  let inQuad := inCentury % 1461
  let years := min (inQuad / 365) 3
  400 * (sinceEpoch / 146097) + 100 * centuries + 4 * quads + years + 1

/-- The month that holds the given day of a year (the first day is 1): the last month that begins
before that day ends. -/
def monthOfYearDay (year : Int) (yearDay : Nat) : Nat :=
  ((List.range 12).filter fun m => daysBeforeMonth year (m + 1) < yearDay).length

/-- The date with the given day number, if it lies in the calendar. -/
def ofDayNumber? (n : Int) : Option Date :=
  let year := yearOfDayNumber n
  let yearDay := (n - daysBeforeYear year).toNat
  let month := monthOfYearDay year yearDay
  ofYearMonthDay? year month (yearDay - daysBeforeMonth year month)

/-- The date some days later, if it lies in the calendar. -/
def addDays? (d : Date) (days : Int) : Option Date :=
  ofDayNumber? (d.dayNumber + days)

/-- The number of days since the Monday on or before the date. -/
def daysSinceMonday (d : Date) : Int :=
  (d.dayNumber - 1) % 7

/-! ## Months -/

/-- The first day of the month of the date. -/
def firstOfMonth (d : Date) : Date :=
  { d with
    day := 1
    day_range := ⟨Nat.le_refl 1, Nat.le_trans d.day_range.1 d.day_range.2⟩ }

/-- The last day of the month of the date; in the last month of the calendar, the date itself. -/
def endOfMonth (d : Date) : Date :=
  if d.year = lastYear ∧ d.month = 12 then d
  else
    { d with
      day := daysInMonth d.year d.month
      day_range := ⟨Nat.le_trans d.day_range.1 d.day_range.2, Nat.le_refl _⟩ }

/-- The date some months later, if it lies in the calendar: the same day of the month, or the last
day of a month that is too short. -/
def addMonths? (d : Date) (months : Nat) : Option Date :=
  let total := d.year * 12 + (d.month - 1 : Nat) + months
  let year := total / 12
  let month := (total % 12).toNat + 1
  ofYearMonthDay? year month (min d.day (daysInMonth year month))

/-- The given day of the given month, or the last day of the month when it has fewer days. -/
def ofYearMonthDayOrLast? (year : Int) (month day : Nat) : Option Date :=
  ofYearMonthDay? year month (min day (daysInMonth year month))

end Date

/-! ## Windows of dates

Closed intervals of dates, and the day, week and month that hold a date. A week runs from Monday to
Sunday; next to either end of the calendar it may not fit, and then there is none. -/

/-- The dates from `first` to `last`, both included. -/
structure Window where
  first : Date
  last : Date
deriving DecidableEq

namespace Window

/-- Whether a date lies in the window. -/
def contains (w : Window) (d : Date) : Bool :=
  decide (w.first ≤ d ∧ d ≤ w.last)

/-- A single day. -/
def day (d : Date) : Window :=
  ⟨d, d⟩

/-- The week of the date, from Monday to Sunday, if it lies in the calendar. -/
def week? (d : Date) : Option Window := do
  let monday ← d.addDays? (-d.daysSinceMonday)
  let sunday ← monday.addDays? 6
  return ⟨monday, sunday⟩

/-- The calendar month of the date; in the last month of the calendar it ends with the date. -/
def month (d : Date) : Window :=
  ⟨d.firstOfMonth, d.endOfMonth⟩

end Window

end Agenda
