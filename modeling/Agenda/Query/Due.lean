import Agenda.Calendar.Date
import Agenda.Text.Basic

/-!
# Due expressions

What may follow `due:` in a query, and the dates that it selects. An expression is read without
knowledge of the current date; its window is formed against a `Context` when the query is run.

| written | selects |
|---|---|
| `today`, `tomorrow` | that day |
| `+N` | today and the next `N` days |
| `eow`, `eom` | today up to the coming Sunday, or to the last day of the month |
| `Nm` | today up to the same day `N` months later |
| `yyyymmdd` | that date |
| `mmdd` | that day of this year or, once it has passed and the policy says so, of the next |
-/

namespace Agenda

/-- A due expression. -/
inductive Due
  | today
  | tomorrow
  | withinDays (days : UInt32)
  | endOfWeek
  | endOfMonth
  | withinMonths (months : UInt32)
  | on (date : Date)
  | monthDay (month day : Nat)
deriving DecidableEq

/-- What a month and day mean once that day of this year has passed. -/
inductive PastMonthDay
  | nextYear
  | currentYear
deriving DecidableEq

/-- The circumstances in which a query is evaluated. -/
structure Context where
  today : Date
  pastMonthDay : PastMonthDay
deriving DecidableEq

/-- The one way in which an evaluation can break off: the week of today does not fit into the
calendar. -/
inductive WeekOverflow
  | weekLeavesCalendar
deriving DecidableEq

namespace Due

/-! ## Reading -/

/-- Reads eight digits as a date. -/
def fullDate? (cs : List Char) : Option Due :=
  if cs.length = 8 ∧ cs.all Char.isDigit = true then
    (Date.ofYearMonthDay? (Decimal.value (cs.take 4)) (Decimal.value ((cs.drop 4).take 2))
      (Decimal.value (cs.drop 6))).map on
  else none

/-- Reads four digits as a month and day that some year has. -/
def monthDay? (cs : List Char) : Option Due :=
  if cs.length = 4 ∧ cs.all Char.isDigit = true then
    let month := Decimal.value (cs.take 2)
    let day := Decimal.value (cs.drop 2)
    (Date.ofYearMonthDay? 2000 month day).map fun _ => monthDay month day
  else none

/-- Reads digits followed by an `m`. -/
def months? (cs : List Char) : Option Due :=
  if cs.getLast? = some 'm' then (Decimal.word? cs.dropLast).map withinMonths else none

/-- The due expression that a text spells. -/
def read? (s : String) : Option Due :=
  if s = "today" then some today
  else if s = "tomorrow" then some tomorrow
  else if s = "eow" then some endOfWeek
  else if s = "eom" then some endOfMonth
  else match s.toList with
    | '+' :: ds => (Decimal.word? ds).map withinDays
    | cs => months? cs <|> fullDate? cs <|> monthDay? cs

/-! ## Windows -/

/-- The given day of the year in which it is next, as the policy has it. A day that the month does
not have is replaced by the last day of the month. -/
def resolveMonthDay? (ctx : Context) (month day : Nat) : Option Date := do
  let thisYear ← Date.ofYearMonthDayOrLast? ctx.today.year month day
  if thisYear < ctx.today ∧ ctx.pastMonthDay = .nextYear then
    Date.ofYearMonthDayOrLast? (ctx.today.year + 1) month day
  else
    return thisYear

/-- The dates that the expression selects; none when they would leave the calendar. Only the end of
the week breaks off the evaluation instead. -/
def window (due : Due) (ctx : Context) : Except WeekOverflow (Option Window) :=
  match due with
  | today => .ok (some (.day ctx.today))
  | tomorrow => .ok ((ctx.today.addDays? 1).map .day)
  | withinDays days => .ok ((ctx.today.addDays? days.toNat).map (⟨ctx.today, ·⟩))
  | endOfWeek =>
    match Window.week? ctx.today with
    | some week => .ok (some ⟨ctx.today, week.last⟩)
    | none => .error .weekLeavesCalendar
  | endOfMonth => .ok (some ⟨ctx.today, ctx.today.endOfMonth⟩)
  | withinMonths months => .ok ((ctx.today.addMonths? months.toNat).map (⟨ctx.today, ·⟩))
  | on date => .ok (some (.day date))
  | monthDay month day => .ok ((resolveMonthDay? ctx month day).map .day)

/-- Whether the expression selects a date. -/
def selects (due : Due) (ctx : Context) (date : Date) : Except WeekOverflow Bool :=
  (due.window ctx).map fun window => window.any (·.contains date)

end Due

end Agenda
