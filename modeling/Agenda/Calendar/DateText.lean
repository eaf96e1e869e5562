import Agenda.Calendar.Date
import Agenda.Text.Basic

/-!
# Written dates

A date is written `YYYY-MM-DD`. The year has four digits; a year before 0 or after 9999 has a sign
and at least four digits.

Reading is more lenient than writing: numbers need not be padded, any year may have a sign, a year
without a sign has at most four digits, and blanks may stand in front of a number. Dates in record
files may also have blanks in front of a dash and at the end (`DateForm.spaced`); dates on the
command line may not (`DateForm.tight`).
-/

namespace Agenda

namespace Date

/-- The year as it is written in a date. -/
def yearText (year : Int) : List Char :=
  if 0 ≤ year ∧ year ≤ 9999 then Decimal.padded 4 year.toNat
  else (if year < 0 then '-' else '+') :: Decimal.padded 4 year.natAbs

/-- The characters of the written date. -/
def chars (d : Date) : List Char :=
  yearText d.year ++ '-' :: (Decimal.padded 2 d.month ++ '-' :: Decimal.padded 2 d.day)

/-- The written date. -/
def text (d : Date) : String :=
  String.ofList d.chars

end Date

/-- Where blanks may stand in a date that is read. -/
inductive DateForm
  | spaced
  | tight
deriving DecidableEq

namespace DateForm

/-- Drops the blanks that the form allows in front of a dash and at the end. -/
def gap (form : DateForm) (cs : List Char) : List Char :=
  match form with
  | .spaced => Text.skipBlanks cs
  | .tight => cs

/-- Reads a year: blanks, then an optional sign and digits. -/
def year? (cs : List Char) : Option (Int × List Char) :=
  match Text.skipBlanks cs with
  | '-' :: rest => (Decimal.leading? none rest).map fun (n, rest) => (-(n : Int), rest)
  | '+' :: rest => (Decimal.leading? none rest).map fun (n, rest) => ((n : Int), rest)
  | rest => (Decimal.leading? (some 4) rest).map fun (n, rest) => ((n : Int), rest)

/-- Reads a dash and a number of at most two digits. -/
def dashNumber? (form : DateForm) (cs : List Char) : Option (Nat × List Char) :=
  match form.gap cs with
  | '-' :: rest => Decimal.leading? (some 2) (Text.skipBlanks rest)
  | _ => none

/-- The date that a text spells in this form. -/
def read? (form : DateForm) (s : String) : Option Date := do
  let (year, rest) ← year? s.toList
  let (month, rest) ← form.dashNumber? rest
  let (day, rest) ← form.dashNumber? rest
  if form.gap rest = [] then Date.ofYearMonthDay? year month day else none

end DateForm

end Agenda
