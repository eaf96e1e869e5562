import Agenda.Proofs.Calendar.Order
import Agenda.Proofs.Outcomes
import Agenda.Query.Due

/-!
# Widening a due window

A due expression that counts days or months ahead selects the dates from today up to its end. A
greater count moves the end onwards, and whatever was selected should stay selected. It does, with
one exception: an end that leaves the calendar leaves no window at all, and then nothing is selected
any more, not even today.

THE CONDITION IS EXACT, and the date does not enter into it: widening keeps a date if and only if the
wider window ends in the calendar, that is, no later than its last day or its last month.

Main results:
  * `Due.selects_withinDays_iff`, `Due.selects_withinMonths_iff` — the dates that are selected, in
    day numbers and in months;
  * `widened_selects_iff` — when a wider window keeps a date;
  * `widened_loses_today` — a wider window that has lost it.
-/

namespace Agenda

namespace Due

/-! ## §1. What is selected -/

variable {ctx : Context} {date : Date}

/-- A window from today to an end selects the dates between them, if there is such an end. -/
theorem selects_upTo_iff {due : Due} {target : Option Date}
    (h : due.window ctx = .ok (target.map (⟨ctx.today, ·⟩))) :
    due.selects ctx date = .ok true ↔ ctx.today ≤ date ∧ ∃ e, target = some e ∧ date ≤ e := by
  unfold selects
  rw [h, map_eq_ok]
  cases target with
  | none => simp
  | some e => simp [Window.contains]

/-- **The next days**: from today up to so many days later, all of them in the calendar. -/
theorem selects_withinDays_iff {days : UInt32} :
    (withinDays days).selects ctx date = .ok true ↔ ctx.today ≤ date ∧
      date.dayNumber ≤ ctx.today.dayNumber + days.toNat ∧
      ctx.today.dayNumber + days.toNat ≤ Date.last.dayNumber := by
  rw [selects_upTo_iff rfl]
  refine and_congr_right fun _ => ?_
  rw [← Date.addDays?_isSome_iff, Option.isSome_iff_exists, ← exists_and_left]
  refine exists_congr fun e => ?_
  rw [and_comm]
  refine and_congr_left fun he => ?_
  rw [Date.le_iff_dayNumber_le, Date.addDays?_eq_some_iff.1 he]

/-- **The next months**: from today up to the same day so many months later, in a month of the
calendar. A month that is too short for that day is selected as a whole. -/
theorem selects_withinMonths_iff {months : UInt32} :
    (withinMonths months).selects ctx date = .ok true ↔ ctx.today ≤ date ∧
      (date.monthNumber < ctx.today.monthNumber + months.toNat ∨
        date.monthNumber = ctx.today.monthNumber + months.toNat ∧ date.day ≤ ctx.today.day) ∧
      ctx.today.monthNumber + months.toNat ≤ Date.last.monthNumber := by
  rw [selects_upTo_iff rfl]
  refine and_congr_right fun _ => ?_
  rw [← Date.addMonths?_isSome_iff, Option.isSome_iff_exists, ← exists_and_left]
  refine exists_congr fun e => ?_
  rw [and_comm]
  refine and_congr_left fun he => ?_
  obtain ⟨hmonth, hday⟩ := Date.addMonths?_eq_some_iff.1 he
  rw [Date.le_iff_month_day, ← hmonth, hday, Nat.le_min]
  -- a date of that month keeps to the days that the month has
  refine or_congr_right (and_congr_right fun hsame => and_iff_left ?_)
  obtain ⟨hyear, hnumber⟩ := Date.year_month_of_monthNumber_eq hsame
  rw [← hyear, ← hnumber]
  exact date.day_range.2

end Due

/-! ## §2. Wider windows -/

/-- **WHEN A WIDER WINDOW KEEPS WHAT WAS SELECTED**: a date that is selected by a number of days or
months ahead is selected by a greater number too if and only if the wider window ends in the
calendar. -/
theorem widened_selects_iff (ctx : Context) (date : Date) {n m : UInt32} (h : n ≤ m) :
    ((Due.withinDays n).selects ctx date = .ok true →
      ((Due.withinDays m).selects ctx date = .ok true ↔
        ctx.today.dayNumber + m.toNat ≤ Date.last.dayNumber)) ∧
    ((Due.withinMonths n).selects ctx date = .ok true →
      ((Due.withinMonths m).selects ctx date = .ok true ↔
        ctx.today.monthNumber + m.toNat ≤ Date.last.monthNumber)) := by
  have hle : n.toNat ≤ m.toNat := UInt32.le_iff_toNat_le.1 h
  rw [Due.selects_withinDays_iff, Due.selects_withinDays_iff, Due.selects_withinMonths_iff,
    Due.selects_withinMonths_iff]
  constructor
  · rintro ⟨hfrom, hto, _⟩
    exact ⟨fun hwide => hwide.2.2, fun hend => ⟨hfrom, by omega, hend⟩⟩
  · rintro ⟨hfrom, hto, _⟩
    exact ⟨fun hwide => hwide.2.2, fun hend => ⟨hfrom, by omega, hend⟩⟩

/-- From the end of January on, the widest window in days ends with the calendar; as many months lead
out of it. -/
theorem widened_selects_iff_last_day :
    let ctx : Context := ⟨⟨2024, 1, 31, by decide, by decide, by decide⟩, .nextYear⟩
    let date : Date := ⟨2024, 2, 29, by decide, by decide, by decide⟩
    (29 : UInt32) ≤ 95006483 ∧
    ((Due.withinDays 29).selects ctx date = .ok true ∧
      ((Due.withinDays 95006483).selects ctx date = .ok true ↔
        ctx.today.dayNumber + (95006483 : UInt32).toNat ≤ Date.last.dayNumber)) ∧
    ((Due.withinMonths 29).selects ctx date = .ok true ∧
      ((Due.withinMonths 95006483).selects ctx date = .ok true ↔
        ctx.today.monthNumber + (95006483 : UInt32).toNat ≤ Date.last.monthNumber)) := by
  intro ctx date
  have hdays : (Due.withinDays 29).selects ctx date = .ok true := by decide +kernel +revert
  have hmonths : (Due.withinMonths 29).selects ctx date = .ok true := by decide +kernel +revert
  obtain ⟨hwiderDays, hwiderMonths⟩ :=
    widened_selects_iff ctx date (show (29 : UInt32) ≤ 95006483 by decide)
  exact ⟨by decide, ⟨hdays, hwiderDays hdays⟩, hmonths, hwiderMonths hmonths⟩

/-- **WIDER WINDOWS THAT HAVE LOST TODAY**: today is due within a day and within a month, and neither
within the greatest number of days that can be written nor within as many months. -/
theorem widened_loses_today :
    let today : Date := ⟨2024, 3, 13, by decide, by decide, by decide⟩
    let ctx : Context := ⟨today, .nextYear⟩
    (Due.read? "+1" = some (.withinDays 1) ∧
      Due.read? "+4294967295" = some (.withinDays 4294967295) ∧
      (Due.withinDays 1).selects ctx today = .ok true ∧
      (Due.withinDays 4294967295).selects ctx today = .ok false) ∧
    (Due.read? "1m" = some (.withinMonths 1) ∧
      Due.read? "4294967295m" = some (.withinMonths 4294967295) ∧
      (Due.withinMonths 1).selects ctx today = .ok true ∧
      (Due.withinMonths 4294967295).selects ctx today = .ok false) ∧
    ¬ ∀ (ctx : Context) (date : Date) (n m : UInt32), n ≤ m →
      ((Due.withinDays n).selects ctx date = .ok true →
        (Due.withinDays m).selects ctx date = .ok true) ∧
      ((Due.withinMonths n).selects ctx date = .ok true →
        (Due.withinMonths m).selects ctx date = .ok true) := by
  intro today ctx
  have hnarrow : (Due.withinDays 1).selects ctx today = .ok true := by decide +kernel +revert
  have hwide : (Due.withinDays 4294967295).selects ctx today = .ok false := by
    decide +kernel +revert
  refine ⟨⟨by decide +kernel, by decide +kernel, hnarrow, hwide⟩, by decide +kernel +revert,
    fun hall => ?_⟩
  have hkept := (hall ctx today 1 4294967295 (by decide)).1 hnarrow
  rw [hwide] at hkept
  cases hkept

end Agenda
