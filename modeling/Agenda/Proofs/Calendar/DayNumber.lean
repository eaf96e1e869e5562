import Mathlib.Algebra.Order.Group.Int
import Mathlib.Order.Monotone.Basic
import Agenda.Calendar.Date

/-!
# Day numbers

A date is the day of a month, the month of a year, and the year one of a cycle of 400. Each of these
spans begins where the one before it ends, so that a day number lies in exactly one year, in exactly
one month of it, and belongs to exactly one date.

Main results:
  * `Date.yearOfDayNumber_spec`, `Date.monthOfYearDay_spec` — the year and the month that are found
    for a day number hold the day;
  * `Date.ofDayNumber?_eq_some_iff` — the date of a day number is the one date with that number;
  * `Date.exists_dayNumber_iff` — the calendar has no gaps.
-/

namespace Agenda

namespace Date

/-! ## §1. Years -/

/-- The days before a year whose number is counted in spans of 400, 100, 4 and 1 years. -/
theorem daysBeforeYear_spans {cycles centuries quads years : Int}
    (hcenturies : 0 ≤ centuries ∧ centuries ≤ 3) (hquads : 0 ≤ quads ∧ quads ≤ 24)
    (hyears : 0 ≤ years ∧ years ≤ 3) :
    daysBeforeYear (400 * cycles + 100 * centuries + 4 * quads + years + 1) =
      146097 * cycles + 36524 * centuries + 1461 * quads + 365 * years := by
  have hby4 : (400 * cycles + 100 * centuries + 4 * quads + years) / 4 =
      100 * cycles + 25 * centuries + quads := by omega
  have hby100 : (400 * cycles + 100 * centuries + 4 * quads + years) / 100 =
      4 * cycles + centuries := by omega
  have hby400 : (400 * cycles + 100 * centuries + 4 * quads + years) / 400 = cycles := by omega
  unfold daysBeforeYear
  rw [Int.add_sub_cancel, hby4, hby100, hby400]
  omega

theorem daysBeforeYear_succ (year : Int) :
    daysBeforeYear (year + 1) = daysBeforeYear year + if isLeapYear year then 366 else 365 := by
  unfold daysBeforeYear isLeapYear
  simp only [Bool.and_eq_true, Bool.or_eq_true, beq_iff_eq, bne_iff_ne]
  split <;> omega

theorem daysBeforeYear_lt_iff {year year' : Int} :
    daysBeforeYear year < daysBeforeYear year' ↔ year < year' := by
  have hmono : StrictMono daysBeforeYear := by
    refine strictMono_int_of_lt_succ fun year => ?_
    rw [daysBeforeYear_succ]
    split <;> omega
  exact hmono.lt_iff_lt

theorem daysBeforeYear_le {year year' : Int} (h : year ≤ year') :
    daysBeforeYear year ≤ daysBeforeYear year' :=
  Int.not_lt.1 (mt daysBeforeYear_lt_iff.1 (Int.not_lt.2 h))

/-- A span of four years ends with a leap year, unless it is the last one of a century whose own
number is not divisible by four. -/
theorem isLeapYear_spans {cycles centuries quads years : Int}
    (hcenturies : 0 ≤ centuries ∧ centuries ≤ 3) (hquads : 0 ≤ quads ∧ quads ≤ 24)
    (hyears : 0 ≤ years ∧ years ≤ 3) :
    isLeapYear (400 * cycles + 100 * centuries + 4 * quads + years + 1) = true ↔
      years = 3 ∧ (quads = 24 → centuries = 3) := by
  unfold isLeapYear
  simp only [Bool.and_eq_true, Bool.or_eq_true, beq_iff_eq, bne_iff_ne]
  omega

/-- The year found for a day number holds the day. -/
theorem yearOfDayNumber_spec (n : Int) :
    daysBeforeYear (yearOfDayNumber n) < n ∧ n ≤ daysBeforeYear (yearOfDayNumber n + 1) := by
  -- the spans that have passed before the day
  generalize hcycles : (n - 1) / 146097 = cycles
  generalize hcenturies : min ((n - 1) % 146097 / 36524) 3 = centuries
  generalize hquads : ((n - 1) % 146097 - 36524 * centuries) / 1461 = quads
  generalize hyears : min (((n - 1) % 146097 - 36524 * centuries) % 1461 / 365) 3 = years
  have hyear : yearOfDayNumber n = 400 * cycles + 100 * centuries + 4 * quads + years + 1 := by
    unfold yearOfDayNumber
    dsimp only
    rw [hcycles, hcenturies, hquads, hyears]
  have hcenturies_range : 0 ≤ centuries ∧ centuries ≤ 3 := by omega
  have hquads_range : 0 ≤ quads ∧ quads ≤ 24 := by omega
  have hyears_range : 0 ≤ years ∧ years ≤ 3 := by omega
  have hrest : 0 ≤ n - 1 - (146097 * cycles + 36524 * centuries + 1461 * quads + 365 * years) ∧
      n - 1 - (146097 * cycles + 36524 * centuries + 1461 * quads + 365 * years) ≤ 365 := by omega
  have hlast : n - 1 - (146097 * cycles + 36524 * centuries + 1461 * quads + 365 * years) = 365 →
      years = 3 ∧ (quads = 24 → centuries = 3) := by omega
  rw [daysBeforeYear_succ, hyear, daysBeforeYear_spans hcenturies_range hquads_range hyears_range]
  refine ⟨by omega, ?_⟩
  split
  next => omega
  next hleap =>
    rw [isLeapYear_spans hcenturies_range hquads_range hyears_range] at hleap
    have hne := mt hlast hleap
    omega

/-- No other year holds the day. -/
theorem yearOfDayNumber_unique {n year : Int} (hfirst : daysBeforeYear year < n)
    (hlast : n ≤ daysBeforeYear (year + 1)) : yearOfDayNumber n = year := by
  obtain ⟨hfirst', hlast'⟩ := yearOfDayNumber_spec n
  have hle : year < yearOfDayNumber n + 1 :=
    daysBeforeYear_lt_iff.1 (Int.lt_of_lt_of_le hfirst hlast')
  have hge : yearOfDayNumber n < year + 1 :=
    daysBeforeYear_lt_iff.1 (Int.lt_of_lt_of_le hfirst' hlast)
  omega

/-! ## §2. Months -/

theorem daysBeforeMonth_succ (year : Int) {month : Nat} (h : 1 ≤ month) :
    daysBeforeMonth year (month + 1) = daysBeforeMonth year month + daysInMonth year month := by
  obtain ⟨m, rfl⟩ := Nat.exists_eq_add_of_le' h
  rfl

theorem daysBeforeMonth_mono (year : Int) : Monotone (daysBeforeMonth year) := by
  refine monotone_nat_of_le_succ fun month => ?_
  cases month with
  | zero => exact Nat.le_refl 0
  | succ m =>
    rw [daysBeforeMonth_succ year (Nat.succ_pos m)]
    exact Nat.le_add_right _ _

/-- Twelve months make a year. -/
theorem daysBeforeMonth_thirteen (year : Int) :
    daysBeforeYear year + daysBeforeMonth year 13 = daysBeforeYear (year + 1) := by
  rw [daysBeforeYear_succ]
  by_cases hleap : isLeapYear year = true <;> simp [daysBeforeMonth, daysInMonth, hleap]

/-- Of the numbers below a bound, those with a property that is inherited downwards come first. -/
theorem lt_length_filter_range {p : Nat → Bool} (hp : ∀ a b, a ≤ b → p b = true → p a = true) :
    ∀ {bound k : Nat}, k < bound → (k < ((List.range bound).filter p).length ↔ p k = true)
  | bound + 1, k, hk => by
    have hle : ((List.range bound).filter p).length ≤ bound := by
      have := List.length_filter_le p (List.range bound)
      rwa [List.length_range] at this
    rw [List.range_succ, List.filter_append, List.length_append, List.filter_cons, List.filter_nil]
    by_cases hbound : p bound = true
    · -- everything below the bound has the property then
      have hall : (List.range bound).filter p = List.range bound := by
        rw [List.filter_eq_self]
        intro a ha
        exact hp a bound (Nat.le_of_lt (List.mem_range.1 ha)) hbound
      rw [hall, List.length_range, if_pos hbound]
      exact ⟨fun _ => hp k bound (Nat.le_of_lt_succ hk) hbound, fun _ => hk⟩
    · rw [if_neg hbound, List.length_nil, Nat.add_zero]
      rcases Nat.lt_succ_iff_lt_or_eq.1 hk with hk | rfl
      · exact lt_length_filter_range hp hk
      · exact ⟨fun h => absurd h (Nat.not_lt.2 hle), fun h => absurd h hbound⟩

/-- The month found for a day of a year holds the day. -/
theorem monthOfYearDay_spec (year : Int) {yearDay : Nat} (hpos : 0 < yearDay)
    (hlast : yearDay ≤ daysBeforeMonth year 13) :
    (1 ≤ monthOfYearDay year yearDay ∧ monthOfYearDay year yearDay ≤ 12) ∧
      daysBeforeMonth year (monthOfYearDay year yearDay) < yearDay ∧
      yearDay ≤ daysBeforeMonth year (monthOfYearDay year yearDay + 1) := by
  have hbegun : ∀ k, k < 12 →
      (k < monthOfYearDay year yearDay ↔ daysBeforeMonth year (k + 1) < yearDay) := by
    intro k hk
    unfold monthOfYearDay
    rw [lt_length_filter_range ?_ hk, decide_eq_true_eq]
    intro a b hab hb
    rw [decide_eq_true_eq] at hb ⊢
    exact Nat.lt_of_le_of_lt (daysBeforeMonth_mono year (Nat.succ_le_succ hab)) hb
  have hle : monthOfYearDay year yearDay ≤ 12 := List.length_filter_le _ (List.range 12)
  have hone : 0 < monthOfYearDay year yearDay := (hbegun 0 (by decide)).2 hpos
  generalize monthOfYearDay year yearDay = month at hbegun hle hone ⊢
  refine ⟨⟨hone, hle⟩, ?_, ?_⟩
  · have hlt := (hbegun (month - 1) (by omega)).1 (by omega)
    rwa [Nat.sub_add_cancel hone] at hlt
  · rcases Nat.lt_or_ge month 12 with hlt | hge
    · exact Nat.not_lt.1 (mt (hbegun month hlt).2 (Nat.lt_irrefl month))
    · obtain rfl : month = 12 := Nat.le_antisymm hle hge
      exact hlast

/-- No other month holds the day. -/
theorem month_unique {year : Int} {yearDay month month' : Nat}
    (hfirst : daysBeforeMonth year month < yearDay)
    (hlast : yearDay ≤ daysBeforeMonth year (month + 1))
    (hfirst' : daysBeforeMonth year month' < yearDay)
    (hlast' : yearDay ≤ daysBeforeMonth year (month' + 1)) : month = month' := by
  have hlt := (daysBeforeMonth_mono year).reflect_lt (Nat.lt_of_lt_of_le hfirst hlast')
  have hgt := (daysBeforeMonth_mono year).reflect_lt (Nat.lt_of_lt_of_le hfirst' hlast)
  omega

/-! ## §3. Dates -/

/-- The day of a date in its year. -/
def yearDay (d : Date) : Nat :=
  daysBeforeMonth d.year d.month + d.day

theorem dayNumber_eq (d : Date) : d.dayNumber = daysBeforeYear d.year + d.yearDay := by
  unfold dayNumber yearDay
  omega

theorem yearDay_bounds (d : Date) : 0 < d.yearDay ∧ d.yearDay ≤ daysBeforeMonth d.year 13 := by
  have hmonth := daysBeforeMonth_succ d.year d.month_range.1
  have hmono : daysBeforeMonth d.year (d.month + 1) ≤ daysBeforeMonth d.year 13 :=
    daysBeforeMonth_mono d.year (Nat.succ_le_succ d.month_range.2)
  have hday := d.day_range
  unfold yearDay
  constructor <;> omega

/-- The year of a date is the one that is found for its day number. -/
theorem yearOfDayNumber_dayNumber (d : Date) : yearOfDayNumber d.dayNumber = d.year := by
  have hbounds := d.yearDay_bounds
  have hyear := daysBeforeMonth_thirteen d.year
  rw [dayNumber_eq]
  exact yearOfDayNumber_unique (by omega) (by omega)

/-- The month of a date is the one that is found for its day of the year. -/
theorem monthOfYearDay_yearDay (d : Date) : monthOfYearDay d.year d.yearDay = d.month := by
  obtain ⟨hpos, hlast⟩ := d.yearDay_bounds
  obtain ⟨_, hfirst, hmonth⟩ := monthOfYearDay_spec d.year hpos hlast
  have hday := d.day_range
  refine month_unique hfirst hmonth ?_ ?_
  · unfold yearDay
    omega
  · rw [daysBeforeMonth_succ d.year d.month_range.1]
    unfold yearDay
    omega

/-- A date is found again by its day number. -/
theorem ofDayNumber?_dayNumber (d : Date) : ofDayNumber? d.dayNumber = some d := by
  have hyearDay : (d.dayNumber - daysBeforeYear d.year).toNat = d.yearDay := by
    rw [dayNumber_eq]
    omega
  have hday : d.yearDay - daysBeforeMonth d.year d.month = d.day := by
    unfold yearDay
    omega
  unfold ofDayNumber?
  dsimp only
  rw [yearOfDayNumber_dayNumber, hyearDay, monthOfYearDay_yearDay, hday]
  unfold ofYearMonthDay?
  rw [dif_pos ⟨d.year_range, d.month_range, d.day_range⟩]

/-- A day number whose year lies in the calendar has a date. -/
theorem ofDayNumber?_of_year_range {n : Int}
    (hyear : firstYear ≤ yearOfDayNumber n ∧ yearOfDayNumber n ≤ lastYear) :
    ∃ d, ofDayNumber? n = some d ∧ d.dayNumber = n := by
  obtain ⟨hfirst, hlast⟩ := yearOfDayNumber_spec n
  have hlength := daysBeforeMonth_thirteen (yearOfDayNumber n)
  unfold ofDayNumber?
  dsimp only
  generalize yearOfDayNumber n = year at hyear hfirst hlast hlength ⊢
  obtain ⟨yearDay, hyearDay⟩ : ∃ k : Nat, n = daysBeforeYear year + k :=
    ⟨(n - daysBeforeYear year).toNat, by omega⟩
  have hsub : (n - daysBeforeYear year).toNat = yearDay := by omega
  have hpos : 0 < yearDay := by omega
  have hend : yearDay ≤ daysBeforeMonth year 13 := by omega
  obtain ⟨hmonth, hbefore, hbehind⟩ := monthOfYearDay_spec year hpos hend
  rw [hsub]
  generalize monthOfYearDay year yearDay = month at hmonth hbefore hbehind ⊢
  rw [daysBeforeMonth_succ year hmonth.1] at hbehind
  have hday : 1 ≤ yearDay - daysBeforeMonth year month ∧
      yearDay - daysBeforeMonth year month ≤ daysInMonth year month := by omega
  refine ⟨⟨year, month, _, hyear, hmonth, hday⟩, dif_pos ⟨hyear, hmonth, hday⟩, ?_⟩
  unfold dayNumber
  dsimp only
  omega

/-- **The date of a day number is the one date with that number.** -/
theorem ofDayNumber?_eq_some_iff {n : Int} {d : Date} :
    ofDayNumber? n = some d ↔ d.dayNumber = n := by
  constructor
  · intro h
    have hyear : firstYear ≤ yearOfDayNumber n ∧ yearOfDayNumber n ≤ lastYear := by
      unfold ofDayNumber? ofYearMonthDay? at h
      dsimp only at h
      split at h
      next hvalid => exact hvalid.1
      next => cases h
    obtain ⟨d', hd', hnumber⟩ := ofDayNumber?_of_year_range hyear
    obtain rfl : d' = d := Option.some.inj (hd'.symm.trans h)
    exact hnumber
  · rintro rfl
    exact ofDayNumber?_dayNumber d

/-- **The calendar has no gaps**: the numbers of its days are those from the first day of its first
year to the last day of its last one. -/
theorem exists_dayNumber_iff {n : Int} :
    (∃ d : Date, d.dayNumber = n) ↔
      daysBeforeYear firstYear < n ∧ n ≤ daysBeforeYear (lastYear + 1) := by
  obtain ⟨hfirst, hlast⟩ := yearOfDayNumber_spec n
  constructor
  · rintro ⟨d, rfl⟩
    rw [yearOfDayNumber_dayNumber] at hfirst hlast
    have hfrom := daysBeforeYear_le d.year_range.1
    have hto := daysBeforeYear_le (Int.add_le_add_right d.year_range.2 1)
    exact ⟨Int.lt_of_le_of_lt hfrom hfirst, Int.le_trans hlast hto⟩
  · rintro ⟨hfrom, hto⟩
    have hge := daysBeforeYear_lt_iff.1 (Int.lt_of_lt_of_le hfrom hlast)
    have hle := daysBeforeYear_lt_iff.1 (Int.lt_of_lt_of_le hfirst hto)
    obtain ⟨d, _, hd⟩ := ofDayNumber?_of_year_range (n := n) ⟨by omega, by omega⟩
    exact ⟨d, hd⟩

theorem addDays?_eq_some_iff {d e : Date} {days : Int} :
    d.addDays? days = some e ↔ e.dayNumber = d.dayNumber + days :=
  ofDayNumber?_eq_some_iff

end Date

end Agenda
