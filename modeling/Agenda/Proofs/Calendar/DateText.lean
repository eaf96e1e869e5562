import Mathlib.Algebra.Group.Nat.Defs
import Agenda.Calendar.DateText

/-!
# Written dates are read back

The year of a written date has four digits, or a sign and at least four; the month and the day have
two. A reader that takes no more digits than these, and then finds the dash, reads each number as it
was written, so that the text of a date is the text of no other.

Main results:
  * `Decimal.leading?_padded` — a padded numeral is read back from the front of a text;
  * `DateForm.read?_text` — a date is read back from its text, in either form;
  * `Date.text_injective` — two dates with one text are one date.
-/

namespace Agenda

/-! ## §1. Padded numerals -/

namespace Decimal

variable {width n : Nat}

theorem isDigit_of_mem_padded {c : Char} (h : c ∈ padded width n) : c.isDigit = true := by
  rcases List.mem_append.1 h with h | h
  · obtain rfl := (List.mem_replicate.1 h).2
    rfl
  · exact Nat.isDigit_of_mem_toDigits (by decide) (by decide) h

theorem padded_ne_nil : padded width n ≠ [] :=
  List.append_ne_nil_of_right_ne_nil _ Nat.toDigits_ne_nil

/-- The zeros in front do not count. -/
theorem value_padded (width n : Nat) : value (padded width n) = n := by
  unfold value padded
  rw [Nat.ofDigitChars_append, Nat.ofDigitChars_replicate_zero, Nat.mul_zero]
  exact value_digits n

/-- A number that fits into a width takes no more. -/
theorem length_padded (hwidth : 0 < width) (h : n < 10 ^ width) :
    (padded width n).length = width := by
  have hdigits : (digits n).length ≤ width := (Nat.length_toDigits_le_iff (by decide) hwidth).2 h
  unfold padded
  rw [List.length_append, List.length_replicate]
  omega

/-- **A padded numeral is read back** where no digit follows it, by a reader that takes enough
digits. -/
theorem leading?_padded {limit : Option Nat} {rest : List Char}
    (hlimit : ∀ k ∈ limit, (padded width n).length ≤ k)
    (hrest : ∀ c ∈ rest.head?, c.isDigit = false) :
    leading? limit (padded width n ++ rest) = some (n, rest) := by
  have hstop : rest.takeWhile Char.isDigit = [] := by
    cases rest with
    | nil => rfl
    | cons c cs => rw [List.takeWhile_cons, hrest c rfl]; rfl
  have hrun : (padded width n ++ rest).takeWhile Char.isDigit = padded width n := by
    rw [List.takeWhile_append_of_pos fun c => isDigit_of_mem_padded, hstop, List.append_nil]
  have hread : (if padded width n = [] then none
      else some (value (padded width n), (padded width n ++ rest).drop (padded width n).length)) =
      some (n, rest) := by
    rw [if_neg padded_ne_nil, value_padded, List.drop_left]
  unfold leading?
  rw [hrun]
  cases limit with
  | none => exact hread
  | some k => simp only [List.take_of_length_le (hlimit k rfl), hread]

end Decimal

/-! ## §2. Blanks -/

theorem Text.isBlank_of_isDigit {c : Char} (h : c.isDigit = true) : isBlank c = false := by
  have hrange : 48 ≤ c.toNat ∧ c.toNat ≤ 57 := by
    simp only [Char.isDigit, ge_iff_le, UInt32.le_iff_toNat_le, Bool.and_eq_true,
      decide_eq_true_eq] at h
    exact h
  simp only [isBlank, inRanges, blankRanges, List.any_cons, List.any_nil, Bool.or_false,
    Bool.or_eq_false_iff, decide_eq_false_iff_not]
  omega

/-- A text that begins with no blank loses nothing. -/
theorem Text.skipBlanks_cons {c : Char} {cs : List Char} (h : isBlank c = false) :
    skipBlanks (c :: cs) = c :: cs := by
  unfold skipBlanks
  rw [List.dropWhile_cons, h]
  rfl

theorem Text.skipBlanks_padded {width n : Nat} {rest : List Char} :
    skipBlanks (Decimal.padded width n ++ rest) = Decimal.padded width n ++ rest := by
  have hne : Decimal.padded width n ≠ [] := Decimal.padded_ne_nil
  obtain ⟨c, cs, hcs⟩ := List.exists_cons_of_ne_nil hne
  have hc : c.isDigit = true := Decimal.isDigit_of_mem_padded (hcs ▸ List.mem_cons_self)
  rw [hcs, List.cons_append, skipBlanks_cons (isBlank_of_isDigit hc)]

/-! ## §3. Dates -/

namespace DateForm

variable {form : DateForm} {rest : List Char}

theorem year?_minus (cs : List Char) :
    year? ('-' :: cs) = (Decimal.leading? none cs).map fun (n, rest) => (-(n : Int), rest) := by
  unfold year?
  rw [Text.skipBlanks_cons (by decide)]
  rfl

theorem year?_plus (cs : List Char) :
    year? ('+' :: cs) = (Decimal.leading? none cs).map fun (n, rest) => ((n : Int), rest) := by
  unfold year?
  rw [Text.skipBlanks_cons (by decide)]
  rfl

/-- A digit is no sign, so that a year that begins with one has at most four. -/
theorem year?_digit {c : Char} {cs : List Char} (hc : c.isDigit = true) : year? (c :: cs) =
    (Decimal.leading? (some 4) (c :: cs)).map fun (n, rest) => ((n : Int), rest) := by
  unfold year?
  rw [Text.skipBlanks_cons (Text.isBlank_of_isDigit hc)]
  split
  next heq =>
    obtain rfl := (List.cons.inj heq).1
    cases hc
  next heq =>
    obtain rfl := (List.cons.inj heq).1
    cases hc
  next => rfl

/-- A year is read back where a dash follows it. -/
theorem year?_yearText (year : Int) :
    year? (Date.yearText year ++ '-' :: rest) = some (year, '-' :: rest) := by
  have hdash : ∀ c ∈ ('-' :: rest).head?, c.isDigit = false := by
    rintro c ⟨⟩
    rfl
  have hsigned : Decimal.leading? none (Decimal.padded 4 year.natAbs ++ '-' :: rest) =
      some (year.natAbs, '-' :: rest) := Decimal.leading?_padded nofun hdash
  unfold Date.yearText
  by_cases hplain : 0 ≤ year ∧ year ≤ 9999
  · have hlength : (Decimal.padded 4 year.toNat).length = 4 :=
      Decimal.length_padded (by decide) (by omega)
    have hread : Decimal.leading? (some 4) (Decimal.padded 4 year.toNat ++ '-' :: rest) =
        some (year.toNat, '-' :: rest) :=
      Decimal.leading?_padded (by rintro k ⟨⟩; exact Nat.le_of_eq hlength) hdash
    have hne : Decimal.padded 4 year.toNat ≠ [] := Decimal.padded_ne_nil
    obtain ⟨c, cs, hcs⟩ := List.exists_cons_of_ne_nil hne
    have hc : c.isDigit = true := Decimal.isDigit_of_mem_padded (hcs ▸ List.mem_cons_self)
    rw [if_pos hplain]
    rw [hcs, List.cons_append] at hread ⊢
    rw [year?_digit hc, hread]
    show some ((year.toNat : Int), '-' :: rest) = _
    rw [Int.toNat_of_nonneg hplain.1]
  · rw [if_neg hplain, List.cons_append]
    by_cases hnegative : year < 0
    · rw [if_pos hnegative, year?_minus, hsigned]
      show some (-(year.natAbs : Int), '-' :: rest) = _
      rw [Int.ofNat_natAbs_of_nonpos (Int.le_of_lt hnegative), Int.neg_neg]
    · rw [if_neg hnegative, year?_plus, hsigned]
      show some ((year.natAbs : Int), '-' :: rest) = _
      rw [Int.natAbs_of_nonneg (Int.not_lt.1 hnegative)]

/-- A month or day is read back behind its dash. -/
theorem dashNumber?_padded {n : Nat} (hn : n < 100) (hrest : ∀ c ∈ rest.head?, c.isDigit = false) :
    form.dashNumber? ('-' :: (Decimal.padded 2 n ++ rest)) = some (n, rest) := by
  have hgap : form.gap ('-' :: (Decimal.padded 2 n ++ rest)) =
      '-' :: (Decimal.padded 2 n ++ rest) := by
    cases form with
    | spaced => exact Text.skipBlanks_cons (by decide)
    | tight => rfl
  have hlength : (Decimal.padded 2 n).length = 2 := Decimal.length_padded (by decide) hn
  have hread : Decimal.leading? (some 2) (Decimal.padded 2 n ++ rest) = some (n, rest) :=
    Decimal.leading?_padded (by rintro k ⟨⟩; exact Nat.le_of_eq hlength) hrest
  unfold dashNumber?
  rw [hgap]
  show Decimal.leading? (some 2) (Text.skipBlanks (Decimal.padded 2 n ++ rest)) = _
  rw [Text.skipBlanks_padded, hread]

/-- **A date is read back from its text.** -/
theorem read?_text (form : DateForm) (d : Date) : form.read? d.text = some d := by
  have hmonth : d.month < 100 := by have := d.month_range; omega
  have hday : d.day < 100 := by
    have hrange := d.day_range
    have : daysInMonth d.year d.month ≤ 31 := by
      unfold daysInMonth
      split
      · split <;> decide
      · split <;> decide
    omega
  have hend : form.gap [] = [] := by cases form <;> rfl
  have hdate : Date.ofYearMonthDay? d.year d.month d.day = some d :=
    dif_pos ⟨d.year_range, d.month_range, d.day_range⟩
  have hreadMonth : form.dashNumber? ('-' :: (Decimal.padded 2 d.month ++
      '-' :: Decimal.padded 2 d.day)) = some (d.month, '-' :: Decimal.padded 2 d.day) :=
    dashNumber?_padded hmonth (by rintro c ⟨⟩; rfl)
  have hreadDay : form.dashNumber? ('-' :: Decimal.padded 2 d.day) = some (d.day, []) := by
    rw [← List.append_nil (Decimal.padded 2 d.day)]
    exact dashNumber?_padded hday nofun
  unfold read? Date.text Date.chars
  rw [String.toList_ofList, year?_yearText d.year]
  simp only [Option.bind_eq_bind, Option.bind_some, hreadMonth, hreadDay, hend, if_true, hdate]

end DateForm

/-- **Two dates with one text are one date.** -/
theorem Date.text_injective {a b : Date} (h : a.text = b.text) : a = b := by
  have hread : DateForm.spaced.read? a.text = DateForm.spaced.read? b.text := congrArg _ h
  rw [DateForm.read?_text, DateForm.read?_text] at hread
  exact Option.some.inj hread

end Agenda
