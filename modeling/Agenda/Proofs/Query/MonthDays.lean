import Mathlib.Order.Bounds.Defs
import Agenda.Proofs.Query.DueExpressions

/-!
# The occurrences of a month and day

A month and day without a year, such as `due:0229`, occurs once in each year; in a year that has no 29th
of February, the 28th stands in for it. Under the policy that looks ahead, the day that is meant is the
first occurrence that is not past: since occurrences follow each other year by year, it is that of this
year or else that of the next, whatever kinds of years these are. Under the other policy it is always
that of this year.

Main results:
  * `Date.ofYearMonthDayOrLast?_eq_findSome?` — the day that stands in is found by stepping back;
  * `Date.ofYearMonthDayOrLast?_eq_some_iff` — each year has one occurrence;
  * `month_day_occurrence` — the window of a month and day, under both policies.
-/

namespace Agenda

open Due (IsMonthDay)

namespace Date

/-- The date is an occurrence of a month and day. -/
def FallsOn (month day : Nat) (d : Date) : Prop :=
  (d.month = month ∧ d.day = day) ∨
  (month = 2 ∧ day = 29 ∧ d.month = 2 ∧ d.day = 28 ∧ isLeapYear d.year = false)

variable {a b d : Date} {year : Int} {month day : Nat}

/-! ## §1. Short months -/

/-- **Stepping back** from a day that the month does not have ends at its last one. -/
theorem ofYearMonthDayOrLast?_eq_findSome? (year : Int) (month day : Nat) :
    ofYearMonthDayOrLast? year month day =
      (List.range' 1 day).reverse.findSome? (ofYearMonthDay? year month) := by
  induction day with
  | zero =>
    show ofYearMonthDay? year month (min 0 _) = none
    unfold ofYearMonthDay?
    rw [Nat.zero_min, dif_neg (by omega)]
  | succ day ih =>
    rw [List.range'_concat, List.reverse_append, List.reverse_singleton, List.singleton_append,
      List.findSome?_cons, ← ih]
    unfold ofYearMonthDayOrLast?
    rcases Nat.lt_or_ge (daysInMonth year month) (day + 1) with hshort | hlong
    · -- the month ends before this day, so that the search goes on with the day before
      have hnone : ofYearMonthDay? year month (1 + 1 * day) = none := by
        unfold ofYearMonthDay?
        rw [dif_neg (by omega)]
      rw [hnone, Nat.min_eq_right (Nat.le_of_lt hshort), Nat.min_eq_right (Nat.le_of_lt_succ hshort)]
    · have hday : 1 + 1 * day = day + 1 := by omega
      rw [hday, Nat.min_eq_left hlong]
      split
      next hsome => exact hsome
      next hnone =>
        -- where this day is refused, the month or the year is wrong, and no day is accepted
        rw [hnone, Nat.min_eq_left (Nat.le_of_succ_le hlong)]
        unfold ofYearMonthDay? at hnone ⊢
        split at hnone
        next => cases hnone
        next hrefused => rw [dif_neg (by omega)]

/-- Only the 29th of February is missing in some years. -/
theorem february_of_short (h : IsMonthDay month day) (hshort : daysInMonth year month < day) :
    month = 2 ∧ day = 29 ∧ isLeapYear year = false := by
  obtain ⟨d, hleap, hmonth, hday⟩ := h
  have hlast := d.day_range.2
  rw [hmonth, hday] at hlast
  unfold daysInMonth at hlast hshort
  rw [hleap] at hlast
  split at hlast
  next hfebruary =>
    rw [if_pos hfebruary] at hshort
    rw [if_pos rfl] at hlast
    split at hshort
    next => omega
    next hcommon => exact ⟨hfebruary, by omega, Bool.eq_false_iff.2 hcommon⟩
  next hother =>
    rw [if_neg hother] at hshort
    omega

theorem daysInMonth_february (h : isLeapYear year = false) : daysInMonth year 2 = 28 := by
  unfold daysInMonth
  rw [h]
  rfl

/-- An occurrence is the day itself or, in a month that is too short, the last day of the month. -/
theorem fallsOn_iff (h : IsMonthDay month day) :
    d.FallsOn month day ↔ d.month = month ∧ d.day = min day (daysInMonth d.year month) := by
  unfold FallsOn
  rcases Nat.lt_or_ge (daysInMonth d.year month) day with hshort | hlong
  · obtain ⟨hmonth, hday, hcommon⟩ := february_of_short h hshort
    have hlast := d.day_range.2
    have hlength := daysInMonth_february hcommon
    rw [hmonth, hday, hlength]
    constructor
    · intro hfalls
      rcases hfalls with ⟨hm, hd⟩ | ⟨_, _, hm, hd, _⟩
      · rw [hm, hlength] at hlast
        omega
      · exact ⟨hm, hd⟩
    · intro ⟨hm, hd⟩
      exact .inr ⟨rfl, rfl, hm, hd, hcommon⟩
  · rw [Nat.min_eq_left hlong]
    constructor
    · intro hfalls
      rcases hfalls with hsame | ⟨hmonth, hday, _, _, hcommon⟩
      · exact hsame
      · rw [hmonth, hday, daysInMonth_february hcommon] at hlong
        omega
    · exact .inl

/-! ## §2. One occurrence a year -/

/-- **The occurrence in a year.** -/
theorem ofYearMonthDayOrLast?_eq_some_iff (h : IsMonthDay month day) :
    ofYearMonthDayOrLast? year month day = some d ↔ d.year = year ∧ d.FallsOn month day := by
  unfold ofYearMonthDayOrLast?
  rw [ofYearMonthDay?_eq_some_iff, fallsOn_iff h]
  constructor
  · intro ⟨hyear, hmonth, hday⟩
    exact ⟨hyear, hmonth, hyear ▸ hday⟩
  · intro ⟨hyear, hmonth, hday⟩
    exact ⟨hyear, hmonth, hyear ▸ hday⟩

theorem exists_fallsOn (h : IsMonthDay month day) (hyear : firstYear ≤ year ∧ year ≤ lastYear) :
    ∃ d : Date, d.year = year ∧ d.FallsOn month day := by
  have hlength := (daysInMonth_bounds year month).1
  have ⟨e, _, hmonth, hday⟩ := h
  have hmonths := e.month_range
  have hpos := e.day_range.1
  rw [hmonth] at hmonths
  rw [hday] at hpos
  have hrange : 1 ≤ min day (daysInMonth year month) ∧
      min day (daysInMonth year month) ≤ daysInMonth year month := by omega
  exact ⟨⟨year, month, _, hyear, hmonths, hrange⟩, rfl, (fallsOn_iff h).2 ⟨rfl, rfl⟩⟩

theorem FallsOn.eq_of_year (ha : a.FallsOn month day) (hb : b.FallsOn month day)
    (h : IsMonthDay month day) (hyear : a.year = b.year) : a = b := by
  have hsame := (ofYearMonthDayOrLast?_eq_some_iff h).2 ⟨hyear, ha⟩
  rw [(ofYearMonthDayOrLast?_eq_some_iff h).2 ⟨rfl, hb⟩] at hsame
  exact (Option.some.inj hsame).symm

/-- The occurrence of a year comes before those of all later years. -/
theorem FallsOn.le_of_year_le (ha : a.FallsOn month day) (hb : b.FallsOn month day)
    (h : IsMonthDay month day) (hyear : a.year ≤ b.year) : a ≤ b := by
  rcases Int.lt_or_eq_of_le hyear with hlater | hsame
  · exact le_of_lt (lt_of_year_lt hlater)
  · rw [ha.eq_of_year hb h hsame]
    exact Int.le_refl b.place

end Date

namespace Due

/-! ## §3. The next occurrence -/

variable {today date : Date} {month day : Nat}

theorem resolveMonthDay?_currentYear (month day : Nat) :
    resolveMonthDay? ⟨today, .currentYear⟩ month day =
      Date.ofYearMonthDayOrLast? today.year month day := by
  unfold resolveMonthDay?
  cases Date.ofYearMonthDayOrLast? today.year month day with
  | none => rfl
  | some date => exact if_neg fun h => PastMonthDay.noConfusion h.2

/-- The day of this year is taken as long as it is not past. -/
theorem resolveMonthDay?_nextYear (h : IsMonthDay month day) (hyear : date.year = today.year)
    (hdate : date.FallsOn month day) :
    resolveMonthDay? ⟨today, .nextYear⟩ month day =
      if date < today then Date.ofYearMonthDayOrLast? (today.year + 1) month day
      else some date := by
  unfold resolveMonthDay?
  rw [(Date.ofYearMonthDayOrLast?_eq_some_iff h).2 ⟨hyear, hdate⟩]
  show (if date < today ∧ PastMonthDay.nextYear = .nextYear then _ else _) = _
  simp only [and_true]
  rfl

/-- Once this year's day is past, the occurrences to come are those of later years. -/
theorem year_lt_of_past {current e : Date} (h : IsMonthDay month day) (hyear : current.year = today.year)
    (hcurrent : current.FallsOn month day) (hpast : current < today) (hle : today ≤ e)
    (he : e.FallsOn month day) : today.year < e.year := by
  rcases Int.lt_or_eq_of_le (Date.year_le_of_le hle) with hlater | hsame
  · exact hlater
  · rw [hcurrent.eq_of_year he h (hyear.trans hsame)] at hpast
    exact absurd hpast (Date.not_lt_iff_le.2 hle)

/-- **Looking ahead finds the next occurrence**, if the calendar still has one. -/
theorem resolveMonthDay?_nextYear_eq_some_iff (h : IsMonthDay month day) :
    resolveMonthDay? ⟨today, .nextYear⟩ month day = some date ↔
      IsLeast {e | today ≤ e ∧ e.FallsOn month day} date := by
  obtain ⟨current, hyear, hcurrent⟩ := Date.exists_fallsOn h today.year_range
  rw [resolveMonthDay?_nextYear h hyear hcurrent]
  split
  next hpast =>
    rw [Date.ofYearMonthDayOrLast?_eq_some_iff h]
    constructor
    · intro ⟨hnext, hdate⟩
      refine ⟨⟨Date.le_of_lt (Date.lt_of_year_lt (by omega)), hdate⟩, ?_⟩
      intro e ⟨hle, he⟩
      have hlater := year_lt_of_past h hyear hcurrent hpast hle he
      exact hdate.le_of_year_le he h (by omega)
    · intro ⟨⟨hle, hdate⟩, hleast⟩
      have hlater := year_lt_of_past h hyear hcurrent hpast hle hdate
      -- the year after today's is still in the calendar, as some later year is
      have hrange : firstYear ≤ today.year + 1 ∧ today.year + 1 ≤ lastYear := by
        have hfirst := today.year_range.1
        have hlast := date.year_range.2
        omega
      obtain ⟨next, hnext, hfalls⟩ := Date.exists_fallsOn h hrange
      have hahead : today ≤ next := Date.le_of_lt (Date.lt_of_year_lt (by omega))
      have hfirst := Date.year_le_of_le (hleast ⟨hahead, hfalls⟩)
      exact ⟨by omega, hdate⟩
  next hahead =>
    have hleastCurrent : IsLeast {e | today ≤ e ∧ e.FallsOn month day} current := by
      refine ⟨⟨Date.not_lt_iff_le.1 hahead, hcurrent⟩, ?_⟩
      intro e ⟨hle, he⟩
      exact hcurrent.le_of_year_le he h (hyear ▸ Date.year_le_of_le hle)
    constructor
    · intro hdate
      rw [← Option.some.inj hdate]
      exact hleastCurrent
    · intro hleast
      have hbelow := Date.year_le_of_le (hleast.2 hleastCurrent.1)
      have habove := Date.year_le_of_le (hleastCurrent.2 hleast.1)
      rw [hcurrent.eq_of_year hleast.1.2 h (Int.le_antisymm habove hbelow)]

/-- Before its last year the calendar has an occurrence to come. -/
theorem exists_resolveMonthDay?_nextYear (h : IsMonthDay month day) (hlast : today.year ≠ lastYear) :
    ∃ date, resolveMonthDay? ⟨today, .nextYear⟩ month day = some date := by
  obtain ⟨current, hyear, hcurrent⟩ := Date.exists_fallsOn h today.year_range
  rw [resolveMonthDay?_nextYear h hyear hcurrent]
  split
  · have hrange : firstYear ≤ today.year + 1 ∧ today.year + 1 ≤ lastYear := by
      have hyears := today.year_range
      omega
    obtain ⟨next, hnext⟩ := Date.exists_fallsOn h hrange
    exact ⟨next, (Date.ofYearMonthDayOrLast?_eq_some_iff h).2 hnext⟩
  · exact ⟨current, rfl⟩

end Due

/-- **WHEN A MONTH AND DAY OCCURS**: under the policy that looks ahead, the window of every month and day
that can be read is the first of its occurrences from today on, unless today lies in the last year of the
calendar; under the other policy it is the occurrence in the year of today, past or not. -/
theorem month_day_occurrence {s : String} {month day : Nat}
    (hread : Due.read? s = some (.monthDay month day)) (today : Date) :
    (today.year ≠ lastYear → ∃ date,
      (Due.monthDay month day).window ⟨today, .nextYear⟩ = .ok (some (.day date)) ∧
      IsLeast {e | today ≤ e ∧ e.FallsOn month day} date) ∧
    ∃ date, (Due.monthDay month day).window ⟨today, .currentYear⟩ = .ok (some (.day date)) ∧
      ∀ e : Date, e = date ↔ e.year = today.year ∧ e.FallsOn month day := by
  have h : IsMonthDay month day := (Due.read?_eq_some_iff.1 hread).expressible
  have hwindow : ∀ {ctx : Context} {date : Date}, Due.resolveMonthDay? ctx month day = some date →
      (Due.monthDay month day).window ctx = .ok (some (.day date)) := by
    intro ctx date hdate
    show Except.ok ((Due.resolveMonthDay? ctx month day).map Window.day) = _
    rw [hdate]
    rfl
  constructor
  · intro hlast
    obtain ⟨date, hdate⟩ := Due.exists_resolveMonthDay?_nextYear h hlast
    exact ⟨date, hwindow hdate, (Due.resolveMonthDay?_nextYear_eq_some_iff h).1 hdate⟩
  · obtain ⟨date, hyear, hdate⟩ := Date.exists_fallsOn h today.year_range
    refine ⟨date, hwindow ?_, ?_⟩
    · rw [Due.resolveMonthDay?_currentYear]
      exact (Date.ofYearMonthDayOrLast?_eq_some_iff h).2 ⟨hyear, hdate⟩
    · intro e
      constructor
      · intro he
        rw [he]
        exact ⟨hyear, hdate⟩
      · intro ⟨hsame, he⟩
        exact he.eq_of_year hdate h (hsame.trans hyear.symm)

/-- On the first of March 2023 the next 29th of February is that of 2024, while the 28th stood in for it
in 2023. -/
theorem month_day_occurrence_leap_day :
    let today : Date := ⟨2023, 3, 1, by decide, by decide, by decide⟩
    Due.read? "0229" = some (.monthDay 2 29) ∧ today.year ≠ lastYear ∧
    IsLeast {e | today ≤ e ∧ e.FallsOn 2 29} ⟨2024, 2, 29, by decide, by decide, by decide⟩ ∧
    (Due.monthDay 2 29).window ⟨today, .currentYear⟩ =
      .ok (some (.day ⟨2023, 2, 28, by decide, by decide, by decide⟩)) := by
  intro today
  have hread : Due.read? "0229" = some (.monthDay 2 29) := by decide +kernel
  have hlast : today.year ≠ lastYear := by decide
  obtain ⟨date, hwindow, hleast⟩ := (month_day_occurrence hread today).1 hlast
  have hnext : (Due.monthDay 2 29).window ⟨today, .nextYear⟩ =
      .ok (some (.day ⟨2024, 2, 29, by decide, by decide, by decide⟩)) := by decide +kernel
  rw [hnext] at hwindow
  obtain rfl := congrArg Window.first (Option.some.inj (Except.ok.inj hwindow))
  exact ⟨hread, hlast, hleast, by decide +kernel⟩

end Agenda
