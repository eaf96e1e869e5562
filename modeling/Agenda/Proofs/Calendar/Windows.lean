import Mathlib.Data.Int.Interval
import Mathlib.Data.Set.Card
import Agenda.Proofs.Calendar.Order

/-!
# What the windows of a week and of a month hold

A window is a stretch of day numbers, so that it is known once its two ends are. The week of a date
begins on the Monday on or before it, and the seven dates from there are those with that Monday. The
month of a date begins on its first day and ends on the day before the next month begins: these are
the dates with its year and month, whatever the length of the month.

THE LAST MONTH IS THE EXCEPTION: no month comes after it in the calendar, and its window ends with
the date that it was made for.

Main results:
  * `Window.contains_iff`, `Window.ncard_dates` — the dates of a window, and their number;
  * `Window.week?_eq_none_iff` — a date has no week exactly if its week leaves the calendar;
  * `Date.endOfMonth_eq_dayBefore` — the end of a month found from the month after it;
  * `calendar_windows_exact` — the dates of the week and of the month of a date.
-/

namespace Agenda

/-! ## §1. Stretches of days -/

theorem Date.dayNumber_injective : Function.Injective Date.dayNumber := by
  intro a b h
  have hdate : Date.ofDayNumber? a.dayNumber = some b := by
    rw [h, Date.ofDayNumber?_dayNumber]
  rw [Date.ofDayNumber?_dayNumber] at hdate
  exact Option.some.inj hdate

namespace Window

variable {w : Window} {d e : Date}

theorem contains_iff : w.contains e = true ↔
    w.first.dayNumber ≤ e.dayNumber ∧ e.dayNumber ≤ w.last.dayNumber := by
  unfold contains
  rw [decide_eq_true_iff, Date.le_iff_dayNumber_le, Date.le_iff_dayNumber_le]

/-- The number of dates in a window, which has no gaps. -/
theorem ncard_dates (w : Window) : {e | w.contains e = true}.ncard =
    (w.last.dayNumber + 1 - w.first.dayNumber).toNat := by
  have himage : Date.dayNumber '' {e | w.contains e = true} =
      ↑(Finset.Icc w.first.dayNumber w.last.dayNumber) := by
    ext n
    rw [Set.mem_image, Finset.coe_Icc, Set.mem_Icc]
    constructor
    · intro hdate
      obtain ⟨e, he, hn⟩ := hdate
      rw [← hn]
      exact contains_iff.1 he
    · intro hbetween
      obtain ⟨hfirst, hlast⟩ := hbetween
      -- what lies between two days of the calendar is one as well
      have hfrom := (Date.exists_dayNumber_iff.1 ⟨w.first, rfl⟩).1
      have hto := (Date.exists_dayNumber_iff.1 ⟨w.last, rfl⟩).2
      obtain ⟨e, he⟩ : ∃ e : Date, e.dayNumber = n :=
        Date.exists_dayNumber_iff.2 ⟨by omega, by omega⟩
      refine ⟨e, contains_iff.2 ?_, he⟩
      omega
  rw [← Set.ncard_image_of_injective _ Date.dayNumber_injective, himage, Set.ncard_coe_finset,
    Int.card_Icc]

end Window

/-! ## §2. Weeks

There is a window for the week of a date exactly if all seven days are in the calendar, which fails
only next to its ends: the calendar begins on a Thursday and ends on a Monday. -/

namespace Date

/-- The number of the Monday on or before a date. -/
def mondayNumber (d : Date) : Int :=
  d.dayNumber - d.daysSinceMonday

/-- Whether every day of the week of a date, from Monday to Sunday, is in the calendar. -/
def WeekInCalendar (d : Date) : Prop :=
  ∀ n, d.mondayNumber ≤ n → n ≤ d.mondayNumber + 6 → ∃ e : Date, e.dayNumber = n

end Date

namespace Window

theorem week?_eq_some_iff {d : Date} {w : Window} :
    week? d = some w ↔
      w.first.dayNumber = d.mondayNumber ∧ w.last.dayNumber = d.mondayNumber + 6 := by
  unfold week? Date.mondayNumber
  rw [Int.sub_eq_add_neg]
  constructor
  · intro h
    obtain ⟨monday, hmonday, h⟩ := Option.bind_eq_some_iff.1 h
    obtain ⟨sunday, hsunday, h⟩ := Option.bind_eq_some_iff.1 h
    obtain rfl : ⟨monday, sunday⟩ = w := Option.some.inj h
    rw [Date.addDays?_eq_some_iff] at hmonday hsunday
    rw [hmonday] at hsunday
    exact ⟨hmonday, hsunday⟩
  · rintro ⟨hmonday, hsunday⟩
    rw [← hmonday] at hsunday
    exact Option.bind_eq_some_iff.2 ⟨w.first, Date.addDays?_eq_some_iff.2 hmonday,
      Option.bind_eq_some_iff.2 ⟨w.last, Date.addDays?_eq_some_iff.2 hsunday, rfl⟩⟩

/-- **A date has no week exactly if its week leaves the calendar.** -/
theorem week?_eq_none_iff {d : Date} : week? d = none ↔ ¬ d.WeekInCalendar := by
  rw [← not_iff_not, Classical.not_not, ← ne_eq, Option.ne_none_iff_exists']
  constructor
  · rintro ⟨w, hw⟩ n hfirst hlast
    obtain ⟨hmonday, hsunday⟩ := week?_eq_some_iff.1 hw
    -- what lies between two days of the calendar is one as well
    have hfrom := (Date.exists_dayNumber_iff.1 ⟨w.first, hmonday⟩).1
    have hto := (Date.exists_dayNumber_iff.1 ⟨w.last, hsunday⟩).2
    exact Date.exists_dayNumber_iff.2 ⟨by omega, by omega⟩
  · intro hweek
    obtain ⟨monday, hmonday⟩ := hweek d.mondayNumber (by omega) (by omega)
    obtain ⟨sunday, hsunday⟩ := hweek (d.mondayNumber + 6) (by omega) (by omega)
    exact ⟨⟨monday, sunday⟩, week?_eq_some_iff.2 ⟨hmonday, hsunday⟩⟩

theorem exists_week {d : Date} (h : d.WeekInCalendar) : ∃ w, week? d = some w := by
  have hsome : week? d ≠ none := by
    rw [ne_eq, week?_eq_none_iff, Classical.not_not]
    exact h
  exact Option.ne_none_iff_exists'.1 hsome

end Window

/-- Whether a week fits is decided by looking for its window. -/
instance (d : Date) : Decidable d.WeekInCalendar :=
  decidable_of_iff (Window.week? d ≠ none)
    (by rw [ne_eq, Window.week?_eq_none_iff, Classical.not_not])

example : ¬ Date.WeekInCalendar ⟨262142, 12, 31, by decide, by decide, by decide⟩ ∧
    Date.WeekInCalendar ⟨262142, 12, 30, by decide, by decide, by decide⟩ := by decide +kernel

/-- A window that holds exactly the dates of the week of a date. -/
structure Window.IsWeekOf (w : Window) (d : Date) : Prop where
  monday : w.first.daysSinceMonday = 0
  seven_days : {e | w.contains e = true}.ncard = 7
  holds_date : w.contains d = true
  week_of_each : ∀ e, w.contains e = true → Window.week? e = some w
  same_monday : ∀ e, w.contains e = true ↔ e.mondayNumber = d.mondayNumber

/-- Seven days from a Monday have that Monday, and no others do. -/
theorem Date.mondayNumber_eq_iff {e : Date} {n : Int} (h : (n - 1) % 7 = 0) :
    e.mondayNumber = n ↔ n ≤ e.dayNumber ∧ e.dayNumber ≤ n + 6 := by
  unfold mondayNumber daysSinceMonday
  omega

theorem Date.mondayNumber_sub_one_mod (d : Date) : (d.mondayNumber - 1) % 7 = 0 := by
  unfold mondayNumber daysSinceMonday
  omega

theorem Window.isWeekOf_of_week? {d : Date} {w : Window} (h : week? d = some w) :
    w.IsWeekOf d := by
  obtain ⟨hfirst, hlast⟩ := week?_eq_some_iff.1 h
  have hmonday : (d.mondayNumber - 1) % 7 = 0 := d.mondayNumber_sub_one_mod
  have hsame : ∀ e, w.contains e = true ↔ e.mondayNumber = d.mondayNumber := by
    intro e
    rw [contains_iff, hfirst, hlast, Date.mondayNumber_eq_iff hmonday]
  constructor
  case monday =>
    show (w.first.dayNumber - 1) % 7 = 0
    rw [hfirst]
    exact hmonday
  case seven_days =>
    rw [ncard_dates, hfirst, hlast]
    omega
  case holds_date => exact (hsame d).2 rfl
  case week_of_each =>
    intro e he
    rw [week?_eq_some_iff, (hsame e).1 he]
    exact ⟨hfirst, hlast⟩
  case same_monday => exact hsame

/-! ## §3. Months -/

namespace Date

variable {d e : Date}

/-- The date lies in the last month of the calendar. -/
def InLastMonth (d : Date) : Prop :=
  d.year = lastYear ∧ d.month = 12

instance (d : Date) : Decidable d.InLastMonth :=
  inferInstanceAs (Decidable (_ ∧ _))

theorem inLastMonth_iff : d.InLastMonth ↔ last.monthNumber ≤ d.monthNumber := by
  have hmonth := d.month_range
  have hyear := d.year_range
  have hlast : last.monthNumber = lastYear * 12 + 12 := rfl
  unfold InLastMonth
  rw [hlast]
  unfold monthNumber
  omega

theorem endOfMonth_of_inLastMonth (h : d.InLastMonth) : d.endOfMonth = d := if_pos h

/-- Elsewhere a month ends with its last day. -/
theorem endOfMonth_day (h : ¬ d.InLastMonth) : d.endOfMonth.year = d.year ∧
    d.endOfMonth.month = d.month ∧ d.endOfMonth.day = daysInMonth d.year d.month := by
  unfold InLastMonth at h
  unfold endOfMonth
  rw [if_neg h]
  exact ⟨rfl, rfl, rfl⟩

/-- A month begins on the day after the one before it has ended. -/
theorem dayNumber_next_month {a b : Date} (hmonth : b.monthNumber = a.monthNumber + 1)
    (hlast : a.day = daysInMonth a.year a.month) (hfirst : b.day = 1) :
    b.dayNumber = a.dayNumber + 1 := by
  have ha := a.month_range
  have hb := b.month_range
  have hend := daysBeforeMonth_succ a.year ha.1
  unfold monthNumber at hmonth
  unfold dayNumber
  rw [hlast, hfirst]
  by_cases hdecember : a.month = 12
  · -- the next month is the first one of the next year
    have hyear : b.year = a.year + 1 := by omega
    have hjanuary : b.month = 1 := by omega
    have hyearEnd := daysBeforeMonth_thirteen a.year
    have hbefore : daysBeforeMonth b.year 1 = 0 := rfl
    rw [hdecember] at hend
    change daysBeforeMonth a.year 13 = _ at hend
    rw [hdecember, hjanuary, hbefore, hyear]
    omega
  · have hyear : b.year = a.year := by omega
    have hnext : b.month = a.month + 1 := by omega
    rw [hyear, hnext, hend]
    omega

/-- **The end of a month is the day before the first of the next one**; where the calendar has no
next one, it is the date itself. -/
theorem endOfMonth_eq_dayBefore (d : Date) : d.endOfMonth =
    ((d.firstOfMonth.addMonths? 1).bind fun next => next.addDays? (-1)).getD d := by
  have hnumber : d.firstOfMonth.monthNumber = d.monthNumber := rfl
  by_cases hlast : d.InLastMonth
  · have hnone : d.firstOfMonth.addMonths? 1 = none := by
      rw [← Option.not_isSome_iff_eq_none, addMonths?_isSome_iff, hnumber]
      have := inLastMonth_iff.1 hlast
      omega
    rw [hnone, endOfMonth_of_inLastMonth hlast]
    rfl
  · obtain ⟨next, hnext⟩ : ∃ next, d.firstOfMonth.addMonths? 1 = some next := by
      rw [← Option.isSome_iff_exists, addMonths?_isSome_iff, hnumber]
      have := mt inLastMonth_iff.2 hlast
      omega
    obtain ⟨hmonth, hday⟩ := addMonths?_eq_some_iff.1 hnext
    obtain ⟨hendYear, hendMonth, hendDay⟩ := endOfMonth_day hlast
    have hfirst : next.day = 1 := by
      have hlength := (daysInMonth_bounds next.year next.month).1
      have hone : d.firstOfMonth.day = 1 := rfl
      omega
    have hstep : next.dayNumber = d.endOfMonth.dayNumber + 1 := by
      refine dayNumber_next_month ?_ ?_ hfirst
      · rw [hmonth, hnumber]
        unfold monthNumber
        rw [hendYear, hendMonth]
        rfl
      · rw [hendDay, hendYear, hendMonth]
    have hend : next.addDays? (-1) = some d.endOfMonth := by
      rw [addDays?_eq_some_iff]
      omega
    rw [hnext, Option.bind_some, hend, Option.getD_some]

theorem firstOfMonth_le_iff : d.firstOfMonth ≤ e ↔ d.monthNumber ≤ e.monthNumber := by
  have hday := e.day_range.1
  have hfirst : d.firstOfMonth.monthNumber = d.monthNumber ∧ d.firstOfMonth.day = 1 := ⟨rfl, rfl⟩
  rw [le_iff_month_day]
  omega

/-- No date of the month comes behind its end. -/
theorem le_endOfMonth_iff (h : ¬ d.InLastMonth) :
    e ≤ d.endOfMonth ↔ e.monthNumber ≤ d.monthNumber := by
  obtain ⟨hyear, hmonth, hday⟩ := endOfMonth_day h
  have hnumber : d.endOfMonth.monthNumber = d.monthNumber := by
    unfold monthNumber
    rw [hyear, hmonth]
  rw [le_iff_month_day, hnumber, hday]
  constructor
  · omega
  · intro hle
    rcases Int.lt_or_eq_of_le hle with hbefore | hsame
    · exact .inl hbefore
    · obtain ⟨hyear, hmonth⟩ := year_month_of_monthNumber_eq hsame
      rw [← hyear, ← hmonth]
      exact .inr ⟨hsame, e.day_range.2⟩

theorem monthNumber_eq_iff : e.monthNumber = d.monthNumber ↔
    e.year = d.year ∧ e.month = d.month := by
  constructor
  · exact year_month_of_monthNumber_eq
  · intro hsame
    obtain ⟨hyear, hmonth⟩ := hsame
    unfold monthNumber
    rw [hyear, hmonth]

end Date

namespace Window

variable {d e : Date}

theorem contains_month_iff (h : ¬ d.InLastMonth) :
    (month d).contains e = true ↔ e.year = d.year ∧ e.month = d.month := by
  show decide (d.firstOfMonth ≤ e ∧ e ≤ d.endOfMonth) = true ↔ _
  rw [decide_eq_true_iff, Date.firstOfMonth_le_iff, Date.le_endOfMonth_iff h,
    ← Date.monthNumber_eq_iff]
  omega

theorem contains_last_month_iff (h : d.InLastMonth) :
    (month d).contains e = true ↔ (e.year = d.year ∧ e.month = d.month) ∧ e.day ≤ d.day := by
  show decide (d.firstOfMonth ≤ e ∧ e ≤ d.endOfMonth) = true ↔ _
  rw [decide_eq_true_iff, Date.firstOfMonth_le_iff, Date.endOfMonth_of_inLastMonth h,
    Date.le_iff_month_day, ← Date.monthNumber_eq_iff]
  omega

end Window

/-! ## §4. Both windows -/

/-- **THE WINDOWS ARE THOSE OF THE CALENDAR**: where the week of a date lies in the calendar, its
window begins on a Monday, holds seven dates, the date among them, and is the window of each of them;
outside the last month of the calendar, the window of the month holds the dates with the same year
and month, and in the last month those of them that do not come behind the date. The month ends on
the day before the next one begins, if there is a next one. -/
theorem calendar_windows_exact (d : Date) :
    (d.WeekInCalendar → ∃ w, Window.week? d = some w ∧ w.IsWeekOf d) ∧
    (¬ d.InLastMonth → ∀ e,
      (Window.month d).contains e = true ↔ e.year = d.year ∧ e.month = d.month) ∧
    (d.InLastMonth → ∀ e,
      (Window.month d).contains e = true ↔
        (e.year = d.year ∧ e.month = d.month) ∧ e.day ≤ d.day) ∧
    (Window.month d).last =
      ((d.firstOfMonth.addMonths? 1).bind fun next => next.addDays? (-1)).getD d := by
  refine ⟨?_, ?_, ?_, d.endOfMonth_eq_dayBefore⟩
  · intro hweek
    obtain ⟨w, hw⟩ := Window.exists_week hweek
    exact ⟨w, hw, Window.isWeekOf_of_week? hw⟩
  · intro hmonth e
    exact Window.contains_month_iff hmonth
  · intro hmonth e
    exact Window.contains_last_month_iff hmonth

/-- A Sunday, whose week has begun in the month before, and the last Sunday of the calendar, on which
its last month ends a day too early. -/
theorem calendar_windows_exact_sundays :
    let sunday : Date := ⟨2024, 3, 3, by decide, by decide, by decide⟩
    let monday : Date := ⟨2024, 2, 26, by decide, by decide, by decide⟩
    let lastSunday : Date := ⟨262142, 12, 30, by decide, by decide, by decide⟩
    (sunday.WeekInCalendar ∧ (⟨monday, sunday⟩ : Window).IsWeekOf sunday) ∧
    (¬ sunday.InLastMonth ∧ ∀ e,
      (Window.month sunday).contains e = true ↔ e.year = 2024 ∧ e.month = 3) ∧
    (lastSunday.WeekInCalendar ∧ ∃ w, Window.week? lastSunday = some w ∧ w.IsWeekOf lastSunday) ∧
    (lastSunday.InLastMonth ∧ ∀ e, (Window.month lastSunday).contains e = true ↔
      (e.year = 262142 ∧ e.month = 12) ∧ e.day ≤ 30) := by
  intro sunday monday lastSunday
  have hsunday : sunday.WeekInCalendar := by decide +kernel +revert
  have hmarch : ¬ sunday.InLastMonth := by decide +revert
  have hlastSunday : lastSunday.WeekInCalendar := by decide +kernel +revert
  have hlastMonth : lastSunday.InLastMonth := by decide +revert
  obtain ⟨hweek, hmonth, -, -⟩ := calendar_windows_exact sunday
  obtain ⟨hlastWeek, -, hlast, -⟩ := calendar_windows_exact lastSunday
  obtain ⟨w, hw, hisWeek⟩ := hweek hsunday
  have hwindow : Window.week? sunday = some ⟨monday, sunday⟩ := by decide +kernel
  rw [hwindow] at hw
  obtain rfl := Option.some.inj hw
  exact ⟨⟨hsunday, hisWeek⟩, ⟨hmarch, hmonth hmarch⟩, ⟨hlastSunday, hlastWeek hlastSunday⟩,
    hlastMonth, hlast hlastMonth⟩

end Agenda
