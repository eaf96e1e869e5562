import Agenda.Proofs.Calendar.DayNumber

/-!
# The order of dates

Dates are ordered by their months, counted through the years, and within a month by their days. This
is the order of their day numbers, so that a window can be measured in days as well as in months.

Main results:
  * `Date.lt_iff_month_day`, `Date.le_iff_dayNumber_le` — the order in months and in days;
  * `Date.addDays?_isSome_iff`, `Date.addMonths?_eq_some_iff`, `Date.addMonths?_isSome_iff` — where
    the steps into the future lead, and which of them leave the calendar.
-/

namespace Agenda

namespace Date

variable {a b d e : Date}

/-! ## §1. Months -/

/-- The number of the month, counted through the years. -/
def monthNumber (d : Date) : Int :=
  d.year * 12 + d.month

theorem place_eq (d : Date) : d.place = d.monthNumber * 31 + d.day := rfl

theorem daysInMonth_bounds (year : Int) (month : Nat) :
    28 ≤ daysInMonth year month ∧ daysInMonth year month ≤ 31 := by
  unfold daysInMonth
  split
  · split <;> decide
  · split <;> decide

theorem day_bounds (d : Date) : 1 ≤ d.day ∧ d.day ≤ 31 :=
  ⟨d.day_range.1, Nat.le_trans d.day_range.2 (daysInMonth_bounds _ _).2⟩

/-- A month number belongs to one month of one year. -/
theorem year_month_of_monthNumber_eq (h : a.monthNumber = b.monthNumber) :
    a.year = b.year ∧ a.month = b.month := by
  have ha := a.month_range
  have hb := b.month_range
  unfold monthNumber at h
  constructor <;> omega

theorem eq_of_month_day (hmonth : a.monthNumber = b.monthNumber) (hday : a.day = b.day) :
    a = b := by
  obtain ⟨hyear, hmonth⟩ := year_month_of_monthNumber_eq hmonth
  obtain ⟨_, _, _, _, _, _⟩ := a
  obtain ⟨_, _, _, _, _, _⟩ := b
  obtain rfl := hyear
  obtain rfl := hmonth
  obtain rfl := hday
  rfl

/-- **Dates are ordered by month and day.** -/
theorem lt_iff_month_day : a < b ↔
    a.monthNumber < b.monthNumber ∨ a.monthNumber = b.monthNumber ∧ a.day < b.day := by
  show a.place < b.place ↔ _
  have ha := a.day_bounds
  have hb := b.day_bounds
  rw [place_eq, place_eq]
  omega

theorem not_lt_iff_le : ¬ b < a ↔ a ≤ b :=
  Int.not_lt

theorem le_iff_month_day : a ≤ b ↔
    a.monthNumber < b.monthNumber ∨ a.monthNumber = b.monthNumber ∧ a.day ≤ b.day := by
  rw [← not_lt_iff_le, lt_iff_month_day]
  omega

theorem le_of_lt (h : a < b) : a ≤ b :=
  Int.le_of_lt h

theorem lt_of_year_lt (h : a.year < b.year) : a < b := by
  have ha := a.month_range
  have hb := b.month_range
  rw [lt_iff_month_day]
  unfold monthNumber
  omega

theorem year_le_of_le (h : a ≤ b) : a.year ≤ b.year := by
  rw [← not_lt_iff_le] at h
  exact Int.not_lt.1 fun hyear => h (lt_of_year_lt hyear)

/-! ## §2. Days -/

theorem dayNumber_lt_of_lt (h : a < b) : a.dayNumber < b.dayNumber := by
  have ha := a.yearDay_bounds
  have hb := b.yearDay_bounds
  rw [dayNumber_eq, dayNumber_eq]
  rcases lt_iff_month_day.1 h with hmonth | ⟨hmonth, hday⟩
  · rcases Int.lt_or_le a.year b.year with hyear | hyear
    · -- the year of the first date ends before that of the second begins
      have hend := daysBeforeMonth_thirteen a.year
      have hbegin := daysBeforeYear_le (Int.add_one_le_of_lt hyear)
      omega
    · have hyears : a.year = b.year ∧ a.month < b.month := by
        have hma := a.month_range
        have hmb := b.month_range
        unfold monthNumber at hmonth
        constructor <;> omega
      have hend := daysBeforeMonth_succ a.year a.month_range.1
      have hbegin : daysBeforeMonth a.year (a.month + 1) ≤ daysBeforeMonth a.year b.month :=
        daysBeforeMonth_mono a.year (Nat.succ_le_of_lt hyears.2)
      have hda := a.day_range
      have hdb := b.day_range
      unfold yearDay
      rw [← hyears.1]
      omega
  · obtain ⟨hyear, hmonth⟩ := year_month_of_monthNumber_eq hmonth
    unfold yearDay
    rw [hyear, hmonth]
    omega

/-- **Dates are ordered by day number.** -/
theorem le_iff_dayNumber_le : a ≤ b ↔ a.dayNumber ≤ b.dayNumber := by
  constructor
  · intro h
    rcases le_iff_month_day.1 h with hmonth | ⟨hmonth, hday⟩
    · exact Int.le_of_lt (dayNumber_lt_of_lt (lt_iff_month_day.2 (.inl hmonth)))
    · rcases Nat.lt_or_eq_of_le hday with hday | hday
      · exact Int.le_of_lt (dayNumber_lt_of_lt (lt_iff_month_day.2 (.inr ⟨hmonth, hday⟩)))
      · rw [eq_of_month_day hmonth hday]
  · intro h
    rw [← not_lt_iff_le]
    exact fun hlt => Int.not_lt.2 h (dayNumber_lt_of_lt hlt)

/-! ## §3. The end of the calendar -/

/-- The last day of the calendar. -/
def last : Date :=
  ⟨lastYear, 12, 31, by decide, by decide, by decide⟩

theorem le_last (d : Date) : d ≤ last := by
  rw [le_iff_dayNumber_le]
  exact (exists_dayNumber_iff.1 ⟨d, rfl⟩).2

/-- The days to come are in the calendar up to its last one. -/
theorem addDays?_isSome_iff {days : Nat} :
    (d.addDays? days).isSome = true ↔ d.dayNumber + days ≤ last.dayNumber := by
  rw [Option.isSome_iff_exists]
  simp only [addDays?_eq_some_iff]
  rw [exists_dayNumber_iff]
  have hfirst := (exists_dayNumber_iff.1 ⟨d, rfl⟩).1
  show _ ∧ _ ≤ last.dayNumber ↔ _
  omega

theorem ofYearMonthDay?_eq_some_iff {year : Int} {month day : Nat} :
    ofYearMonthDay? year month day = some d ↔ d.year = year ∧ d.month = month ∧ d.day = day := by
  unfold ofYearMonthDay?
  constructor
  · intro h
    split at h
    next =>
      obtain rfl := Option.some.inj h
      exact ⟨rfl, rfl, rfl⟩
    next => cases h
  · rintro ⟨rfl, rfl, rfl⟩
    rw [dif_pos ⟨d.year_range, d.month_range, d.day_range⟩]

/-- Some months later it is the same day of the month, or the last one of a shorter month. -/
theorem addMonths?_eq_some_iff {months : Nat} :
    d.addMonths? months = some e ↔ e.monthNumber = d.monthNumber + months ∧
      e.day = min d.day (daysInMonth e.year e.month) := by
  have hd := d.month_range
  have he := e.month_range
  unfold addMonths? monthNumber
  dsimp only
  rw [ofYearMonthDay?_eq_some_iff]
  constructor
  · rintro ⟨hyear, hmonth, hday⟩
    rw [← hyear, ← hmonth] at hday
    exact ⟨by omega, hday⟩
  · rintro ⟨hnumber, hday⟩
    have hyear : e.year = (d.year * 12 + (d.month - 1 : Nat) + months) / 12 := by omega
    have hmonth : e.month = ((d.year * 12 + (d.month - 1 : Nat) + months) % 12).toNat + 1 := by
      omega
    rw [← hyear, ← hmonth]
    exact ⟨rfl, rfl, hday⟩

/-- The months to come are in the calendar up to its last one. -/
theorem addMonths?_isSome_iff {months : Nat} :
    (d.addMonths? months).isSome = true ↔ d.monthNumber + months ≤ last.monthNumber := by
  rw [Option.isSome_iff_exists]
  constructor
  · rintro ⟨e, he⟩
    have hnumber := (addMonths?_eq_some_iff.1 he).1
    have hlast := le_iff_month_day.1 e.le_last
    omega
  · intro h
    have hd := d.month_range
    have hfirst := d.year_range.1
    -- the month that is so many months ahead, and a day that it has
    obtain ⟨year, month, hmonth, hnumber⟩ : ∃ (year : Int) (month : Nat),
        (1 ≤ month ∧ month ≤ 12) ∧ year * 12 + month = d.monthNumber + months := by
      refine ⟨(d.monthNumber + months - 1) / 12, ((d.monthNumber + months - 1) % 12).toNat + 1, ?_⟩
      omega
    have hyear : firstYear ≤ year ∧ year ≤ lastYear := by
      unfold monthNumber at h hnumber
      have hend : last.year = lastYear ∧ last.month = 12 := ⟨rfl, rfl⟩
      omega
    have hday : 1 ≤ min d.day (daysInMonth year month) ∧
        min d.day (daysInMonth year month) ≤ daysInMonth year month := by
      have hlength := (daysInMonth_bounds year month).1
      have hpos := d.day_range.1
      omega
    exact ⟨⟨year, month, _, hyear, hmonth, hday⟩, addMonths?_eq_some_iff.2 ⟨hnumber, rfl⟩⟩

end Date

end Agenda
