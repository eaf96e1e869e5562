import Agenda.Proofs.Calendar.DateText
import Agenda.Proofs.Calendar.Order
import Agenda.Proofs.Text.Numerals
import Agenda.Query.Due

/-!
# The grammar of due expressions

What may stand behind `due:` are four words, a number of days behind a plus sign, a number of months
in front of an `m`, and dates of eight and of four digits (`Due.Spells`). A reader tries these forms one
after the other, and digits may begin a number of months as well as a date; but the forms exclude each
other, so that the order does not matter and a text has one reading at most.

The forms do not spell everything that a due expression can be: a date of eight digits has a year
from 0 to 9999, and a month and day must be those of some leap year.

Main results:
  * `Due.read?_eq_some_iff` — the texts that are read, and as what;
  * `Due.Expressible.exists_spells` — a text for everything that can be spelled;
  * `due_expression_grammar` — both, and that no text has two readings.
-/

namespace Agenda

open Decimal (IsNumeral IsDigits value)

namespace Due

/-! ## §1. The grammar -/

/-- A month and a day that a leap year has. -/
def IsMonthDay (month day : Nat) : Prop :=
  ∃ date : Date, isLeapYear date.year = true ∧ date.month = month ∧ date.day = day

/-- The texts that spell a due expression. -/
inductive Spells : List Char → Due → Prop
  | today : Spells "today".toList today
  | tomorrow : Spells "tomorrow".toList tomorrow
  | endOfWeek : Spells "eow".toList endOfWeek
  | endOfMonth : Spells "eom".toList endOfMonth
  | withinDays {ds : List Char} {days : UInt32} (hds : IsNumeral ds)
    (hdays : value ds = days.toNat) : Spells ('+' :: ds) (withinDays days)
  | withinMonths {ds : List Char} {months : UInt32} (hds : IsNumeral ds)
    (hmonths : value ds = months.toNat) : Spells (ds ++ ['m']) (withinMonths months)
  | on {ys ms ds : List Char} {date : Date} (hys : IsDigits 4 ys) (hms : IsDigits 2 ms)
    (hds : IsDigits 2 ds) (hyear : date.year = value ys) (hmonth : date.month = value ms)
    (hday : date.day = value ds) : Spells (ys ++ ms ++ ds) (on date)
  | monthDay {ms ds : List Char} {month day : Nat} (hms : IsDigits 2 ms) (hds : IsDigits 2 ds)
    (hmonth : value ms = month) (hday : value ds = day) (hvalid : IsMonthDay month day) :
    Spells (ms ++ ds) (monthDay month day)

/-- What some text spells. -/
def Expressible : Due → Prop
  | on date => 0 ≤ date.year ∧ date.year ≤ 9999
  | monthDay month day => IsMonthDay month day
  | _ => True

/-! ## §2. The forms one by one -/

section

variable {cs : List Char} {due : Due}

theorem months?_eq_some_iff : months? cs = some due ↔
    ∃ ds months, cs = ds ++ ['m'] ∧ IsNumeral ds ∧ value ds = months.toNat ∧
      due = withinMonths months := by
  unfold months?
  constructor
  · intro h
    split at h
    next hlast =>
      obtain ⟨ds, hcs⟩ := List.getLast?_eq_some_iff.1 hlast
      obtain ⟨months, hword, hdue⟩ := Option.map_eq_some_iff.1 h
      rw [hcs, List.dropLast_concat] at hword
      obtain ⟨hnumeral, hvalue⟩ := Decimal.word?_eq_some_iff.1 hword
      exact ⟨ds, months, hcs, hnumeral, hvalue, hdue.symm⟩
    next => cases h
  · intro ⟨ds, months, hcs, hnumeral, hvalue, hdue⟩
    rw [hcs, if_pos List.getLast?_concat, List.dropLast_concat,
      Decimal.word?_eq_some_iff.2 ⟨hnumeral, hvalue⟩, hdue]
    rfl

/-- Digits alone are no number of months. -/
theorem months?_of_digits (h : ∀ c ∈ cs, c.isDigit = true) : months? cs = none := by
  unfold months?
  rw [if_neg]
  intro hlast
  exact absurd (h 'm' (List.mem_of_getLast? hlast)) (by decide)

theorem fullDate?_eq_some_iff : fullDate? cs = some due ↔
    ∃ ys ms ds, ∃ date : Date, cs = ys ++ ms ++ ds ∧ IsDigits 4 ys ∧ IsDigits 2 ms ∧
      IsDigits 2 ds ∧ date.year = value ys ∧ date.month = value ms ∧ date.day = value ds ∧
      due = on date := by
  unfold fullDate?
  simp only [List.all_eq_true]
  constructor
  · intro h
    split at h
    next hcs =>
      have hdigits : IsDigits (4 + (2 + 2)) cs := hcs
      obtain ⟨date, hdate, hdue⟩ := Option.map_eq_some_iff.1 h
      obtain ⟨hyear, hmonth, hday⟩ := Date.ofYearMonthDay?_eq_some_iff.1 hdate
      have hbehind : cs.drop 6 = (cs.drop 4).drop 2 := by rw [List.drop_drop]
      refine ⟨_, _, _, date, ?_, hdigits.take, hdigits.drop.take, hbehind ▸ hdigits.drop.drop,
        hyear, hmonth, hday, hdue.symm⟩
      rw [List.append_assoc, hbehind, List.take_append_drop, List.take_append_drop]
    next => cases h
  · intro ⟨ys, ms, ds, date, hcs, hys, hms, hds, hyear, hmonth, hday, hdue⟩
    have hdigits : IsDigits 8 cs := hcs ▸ (hys.append hms).append hds
    have hbehind : cs.drop 6 = ds := by rw [hcs, (hys.append hms).drop_append]
    rw [List.append_assoc] at hcs
    have hfirst : cs.take 4 = ys := by rw [hcs, hys.take_append]
    have hmid : (cs.drop 4).take 2 = ms := by rw [hcs, hys.drop_append, hms.take_append]
    rw [if_pos ⟨hdigits.1, hdigits.2⟩, hfirst, hmid, hbehind,
      Date.ofYearMonthDay?_eq_some_iff.2 ⟨hyear, hmonth, hday⟩, hdue]
    rfl

/-- Some leap year has the same months and days as any other. -/
theorem isMonthDay_iff {month day : Nat} :
    IsMonthDay month day ↔ ∃ date, Date.ofYearMonthDay? 2000 month day = some date := by
  have hleap : isLeapYear 2000 = true := by decide
  constructor
  · intro ⟨date, hyear, hmonth, hday⟩
    have hlength : daysInMonth 2000 date.month = daysInMonth date.year date.month := by
      unfold daysInMonth
      rw [hleap, hyear]
    refine ⟨⟨2000, month, day, by decide, ?_, ?_⟩,
      Date.ofYearMonthDay?_eq_some_iff.2 ⟨rfl, rfl, rfl⟩⟩
    · rw [← hmonth]
      exact date.month_range
    · rw [← hmonth, ← hday, hlength]
      exact date.day_range
  · intro ⟨date, hdate⟩
    obtain ⟨hyear, hmonth, hday⟩ := Date.ofYearMonthDay?_eq_some_iff.1 hdate
    exact ⟨date, hyear ▸ hleap, hmonth, hday⟩

theorem monthDay?_eq_some_iff : monthDay? cs = some due ↔
    ∃ ms ds, cs = ms ++ ds ∧ IsDigits 2 ms ∧ IsDigits 2 ds ∧ IsMonthDay (value ms) (value ds) ∧
      due = monthDay (value ms) (value ds) := by
  unfold monthDay?
  simp only [List.all_eq_true, isMonthDay_iff]
  constructor
  · intro h
    split at h
    next hcs =>
      have hdigits : IsDigits (2 + 2) cs := hcs
      obtain ⟨date, hdate, hdue⟩ := Option.map_eq_some_iff.1 h
      exact ⟨_, _, (List.take_append_drop 2 cs).symm, hdigits.take, hdigits.drop, ⟨date, hdate⟩,
        hdue.symm⟩
    next => cases h
  · intro ⟨ms, ds, hcs, hms, hds, ⟨date, hdate⟩, hdue⟩
    have hdigits : IsDigits 4 cs := hcs ▸ hms.append hds
    rw [if_pos ⟨hdigits.1, hdigits.2⟩, hcs, hms.take_append, hms.drop_append, hdate, hdue]
    rfl

end

/-! ## §3. Reading -/

variable {s : String} {due : Due}

/-- A text that does not begin as the words do is none of them. -/
theorem ne_words {c : Char} {cs : List Char} (hs : s.toList = c :: cs) (ht : c ≠ 't')
    (he : c ≠ 'e') : s ≠ "today" ∧ s ≠ "tomorrow" ∧ s ≠ "eow" ∧ s ≠ "eom" := by
  have hne : ∀ {first : Char} {rest : List Char}, s.toList = first :: rest → c = first :=
    fun h => (List.cons.inj (hs.symm.trans h)).1
  refine ⟨?_, ?_, ?_, ?_⟩
  · intro h
    exact ht (hne (show s.toList = 't' :: "oday".toList by rw [h]; rfl))
  · intro h
    exact ht (hne (show s.toList = 't' :: "omorrow".toList by rw [h]; rfl))
  · intro h
    exact he (hne (show s.toList = 'e' :: "ow".toList by rw [h]; rfl))
  · intro h
    exact he (hne (show s.toList = 'e' :: "om".toList by rw [h]; rfl))

theorem read?_plus {ds : List Char} (hs : s.toList = '+' :: ds) :
    read? s = (Decimal.word? ds).map withinDays := by
  obtain ⟨htoday, htomorrow, heow, heom⟩ := ne_words hs (by decide) (by decide)
  unfold read?
  rw [if_neg htoday, if_neg htomorrow, if_neg heow, if_neg heom, hs]
  rfl

/-- Behind a digit the numbers of months and the dates are tried. -/
theorem read?_digit {c : Char} {cs : List Char} (hs : s.toList = c :: cs) (hc : c.isDigit = true) :
    read? s = (months? (c :: cs) <|> fullDate? (c :: cs) <|> monthDay? (c :: cs)) := by
  have hne : ∀ {d : Char}, d.isDigit = false → c ≠ d := by
    intro d hd heq
    rw [← heq, hc] at hd
    cases hd
  obtain ⟨htoday, htomorrow, heow, heom⟩ := ne_words hs (hne rfl) (hne rfl)
  unfold read?
  rw [if_neg htoday, if_neg htomorrow, if_neg heow, if_neg heom, hs]
  split
  next heq => exact absurd (List.cons.inj heq).1 (hne rfl)
  next => rfl

theorem exists_digit_head {cs : List Char} (rest : List Char) (h : IsNumeral cs) :
    ∃ c tail, cs ++ rest = c :: tail ∧ c.isDigit = true := by
  obtain ⟨c, cs, rfl⟩ := List.exists_cons_of_ne_nil h.1
  exact ⟨c, cs ++ rest, rfl, h.2 c List.mem_cons_self⟩

/-- What is read is spelled. -/
theorem spells_of_read? (h : read? s = some due) : Spells s.toList due := by
  unfold read? at h
  split at h
  next hs => rw [hs, ← Option.some.inj h]; exact .today
  split at h
  next hs => rw [hs, ← Option.some.inj h]; exact .tomorrow
  split at h
  next hs => rw [hs, ← Option.some.inj h]; exact .endOfWeek
  split at h
  next hs => rw [hs, ← Option.some.inj h]; exact .endOfMonth
  split at h
  next ds hs =>
    obtain ⟨days, hword, hdue⟩ := Option.map_eq_some_iff.1 h
    obtain ⟨hnumeral, hvalue⟩ := Decimal.word?_eq_some_iff.1 hword
    rw [hs, ← hdue]
    exact .withinDays hnumeral hvalue
  next =>
    rw [Option.orElse_eq_orElse, Option.orElse_eq_or, Option.or_eq_some_iff,
      Option.orElse_eq_or, Option.or_eq_some_iff] at h
    rcases h with hmonths | ⟨_, hdate | ⟨_, hday⟩⟩
    · obtain ⟨ds, months, hs, hnumeral, hvalue, hdue⟩ := months?_eq_some_iff.1 hmonths
      rw [hs, hdue]
      exact .withinMonths hnumeral hvalue
    · obtain ⟨ys, ms, ds, date, hs, hys, hms, hds, hyear, hmonth, hday, hdue⟩ :=
        fullDate?_eq_some_iff.1 hdate
      rw [hs, hdue]
      exact .on hys hms hds hyear hmonth hday
    · obtain ⟨ms, ds, hs, hms, hds, hvalid, hdue⟩ := monthDay?_eq_some_iff.1 hday
      rw [hs, hdue]
      exact .monthDay hms hds rfl rfl hvalid

/-- What is spelled is read: no form that is tried earlier takes the text. -/
theorem read?_of_spells {cs : List Char} (h : Spells cs due) (hs : s.toList = cs) :
    read? s = some due := by
  cases h with
  | today => rw [String.toList_inj.1 hs]; rfl
  | tomorrow => rw [String.toList_inj.1 hs]; rfl
  | endOfWeek => rw [String.toList_inj.1 hs]; rfl
  | endOfMonth => rw [String.toList_inj.1 hs]; rfl
  | withinDays hds hdays =>
    rw [read?_plus hs, Decimal.word?_eq_some_iff.2 ⟨hds, hdays⟩]
    rfl
  | withinMonths hds hmonths =>
    obtain ⟨c, tail, hcs, hc⟩ := exists_digit_head ['m'] hds
    rw [read?_digit (hs.trans hcs) hc, ← hcs,
      months?_eq_some_iff.2 ⟨_, _, rfl, hds, hmonths, rfl⟩]
    rfl
  | @on ys ms ds date hys hms hds hyear hmonth hday =>
    have hdigits : IsDigits 8 (ys ++ ms ++ ds) := (hys.append hms).append hds
    obtain ⟨c, tail, hcs, hc⟩ := exists_digit_head [] hdigits.isNumeral
    rw [List.append_nil] at hcs
    rw [read?_digit (hs.trans hcs) hc, ← hcs, months?_of_digits hdigits.2,
      fullDate?_eq_some_iff.2 ⟨_, _, _, _, rfl, hys, hms, hds, hyear, hmonth, hday, rfl⟩]
    rfl
  | @monthDay ms ds month day hms hds hmonth hday hvalid =>
    have hdigits : IsDigits 4 (ms ++ ds) := hms.append hds
    obtain ⟨c, tail, hcs, hc⟩ := exists_digit_head [] hdigits.isNumeral
    have hshort : fullDate? (ms ++ ds) = none := by
      unfold fullDate?
      rw [if_neg]
      intro hlong
      rw [hdigits.1] at hlong
      exact absurd hlong.1 (by decide)
    rw [← hmonth, ← hday] at hvalid ⊢
    rw [List.append_nil] at hcs
    rw [read?_digit (hs.trans hcs) hc, ← hcs, months?_of_digits hdigits.2, hshort,
      monthDay?_eq_some_iff.2 ⟨_, _, rfl, hms, hds, hvalid, rfl⟩]
    rfl

/-- **What is read** is what the grammar spells. -/
theorem read?_eq_some_iff : read? s = some due ↔ Spells s.toList due :=
  ⟨spells_of_read?, fun h => read?_of_spells h rfl⟩

/-! ## §4. What can be spelled -/

/-- A number that fits into a width is spelled by so many digits. -/
theorem isDigits_padded {width n : Nat} (hwidth : 0 < width) (h : n < 10 ^ width) :
    IsDigits width (Decimal.padded width n) :=
  ⟨Decimal.length_padded hwidth h, fun _ hc => Decimal.isDigit_of_mem_padded hc⟩

theorem isDigits_month_day (date : Date) :
    IsDigits 2 (Decimal.padded 2 date.month) ∧ IsDigits 2 (Decimal.padded 2 date.day) := by
  have hmonth := date.month_range
  have hday := date.day_bounds
  constructor
  · exact isDigits_padded (by decide) (show date.month < 100 by omega)
  · exact isDigits_padded (by decide) (show date.day < 100 by omega)

/-- There is a text for everything that can be spelled. -/
theorem Expressible.exists_spells (h : due.Expressible) : ∃ s : String, Spells s.toList due := by
  suffices htext : ∃ cs, Spells cs due by
    obtain ⟨cs, hcs⟩ := htext
    exact ⟨String.ofList cs, by rwa [String.toList_ofList]⟩
  cases due with
  | today => exact ⟨_, .today⟩
  | tomorrow => exact ⟨_, .tomorrow⟩
  | endOfWeek => exact ⟨_, .endOfWeek⟩
  | endOfMonth => exact ⟨_, .endOfMonth⟩
  | withinDays days =>
    exact ⟨_, .withinDays (Decimal.isNumeral_digits days.toNat) (Decimal.value_digits _)⟩
  | withinMonths months =>
    exact ⟨_, .withinMonths (Decimal.isNumeral_digits months.toNat) (Decimal.value_digits _)⟩
  | on date =>
    have hyear : 0 ≤ date.year ∧ date.year ≤ 9999 := h
    have hys : IsDigits 4 (Decimal.padded 4 date.year.toNat) :=
      isDigits_padded (by decide) (show date.year.toNat < 10000 by omega)
    obtain ⟨hms, hds⟩ := isDigits_month_day date
    refine ⟨_, .on hys hms hds ?_ ?_ ?_⟩
    · rw [Decimal.value_padded, Int.toNat_of_nonneg hyear.1]
    · rw [Decimal.value_padded]
    · rw [Decimal.value_padded]
  | monthDay month day =>
    have hvalid : IsMonthDay month day := h
    obtain ⟨date, _, hmonth, hday⟩ := hvalid
    obtain ⟨hms, hds⟩ := isDigits_month_day date
    refine ⟨_, .monthDay hms hds ?_ ?_ h⟩
    · rw [Decimal.value_padded, hmonth]
    · rw [Decimal.value_padded, hday]

/-- Nothing else is spelled. -/
theorem Spells.expressible {cs : List Char} (h : Spells cs due) : due.Expressible := by
  cases h with
  | on hys hms hds hyear hmonth hday =>
    have hlt : value _ < 10000 := Decimal.value_lt hys
    show 0 ≤ _ ∧ _ ≤ 9999
    omega
  | monthDay hms hds hmonth hday hvalid => exact hvalid
  | _ => trivial

end Due

/-- **THE GRAMMAR OF DUE EXPRESSIONS**: a text is read exactly if the grammar spells it, and then as
what it spells; no text spells two things; and what can be read from some text is everything but
dates of other years than 0 to 9999 and days that no leap year has. -/
theorem due_expression_grammar :
    (∀ (s : String) (due : Due), Due.read? s = some due ↔ Due.Spells s.toList due) ∧
    (∀ (cs : List Char) (due due' : Due), Due.Spells cs due → Due.Spells cs due' → due = due') ∧
    ∀ due : Due, (∃ s, Due.read? s = some due) ↔ due.Expressible := by
  refine ⟨fun s due => Due.read?_eq_some_iff, ?_, ?_⟩
  · intro cs due due' h h'
    have hread := Due.read?_of_spells h String.toList_ofList
    rw [Due.read?_of_spells h' String.toList_ofList] at hread
    exact (Option.some.inj hread).symm
  · intro due
    simp only [Due.read?_eq_some_iff]
    exact ⟨fun ⟨_, hs⟩ => hs.expressible, Due.Expressible.exists_spells⟩

example : Due.read? "20240101000m" = none ∧ Due.read? "+4294967296" = none ∧
    Due.read? "0007m" = some (.withinMonths 7) ∧ Due.read? "0229" = some (.monthDay 2 29) ∧
    Due.read? "00000229" = some (.on ⟨0, 2, 29, by decide, by decide, by decide⟩) := by
  decide +kernel

end Agenda
