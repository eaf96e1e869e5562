import Agenda.Text.CaseData

/-!
# Characters, texts and numerals

What the reading of queries and files needs of texts: which characters separate words, what is the
same up to case, and which numbers the digits of a text spell. The tables behind the case of letters
stand in a module of their own.
-/

namespace Agenda.Text

/-! ## Sets of code points

A property of characters that is data of a standard is kept as the list of its closed ranges of code
points, in increasing order. -/

/-- Whether the code point of a character lies in one of the closed ranges. -/
def inRanges (ranges : List (Nat × Nat)) (c : Char) : Bool :=
  ranges.any fun (lo, hi) => decide (lo ≤ c.toNat ∧ c.toNat ≤ hi)

/-! ## Blank characters

The characters that separate the words of a query: Unicode's `White_Space` property, as a table of
closed ranges of code points. -/

/-- The code points of the `White_Space` property, as closed ranges in increasing order. -/
def blankRanges : List (Nat × Nat) :=
  [(0x09, 0x0D), (0x20, 0x20), (0x85, 0x85), (0xA0, 0xA0), (0x1680, 0x1680), (0x2000, 0x200A),
   (0x2028, 0x2029), (0x202F, 0x202F), (0x205F, 0x205F), (0x3000, 0x3000)]

/-- Whether a character separates words. -/
def isBlank (c : Char) : Bool :=
  inRanges blankRanges c

/-- Drops the blanks in front of a text. -/
def skipBlanks (cs : List Char) : List Char :=
  cs.dropWhile isBlank

/-! ### What the table holds -/

/-- No blank is a double quote: a quote always belongs to a word. -/
theorem isBlank_quote : isBlank '"' = false := by decide

/-! ## Lower-casing

Two ways of ignoring case. Keywords, directive values and searched text are brought to lower case
with the full Unicode rules (`lower`); project names and tags are compared up to ASCII case only
(`sameFolded`).

Full lower-casing is one-to-one but for two letters: the capital I with a dot becomes an `i` and a
combining dot, and the capital sigma becomes a final sigma where it ends a word, that is, where the
nearest character before it that is not ignorable is a cased letter and the nearest one after it is
not. -/

/-- Whether a character is a letter with case. -/
def isCased (c : Char) : Bool :=
  inRanges casedRanges c

/-- Whether a character is looked through when the end of a word is sought. -/
def isCaseIgnorable (c : Char) : Bool :=
  inRanges caseIgnorableRanges c

/-- Whether the run holds the code point. -/
def CaseRun.holds (run : CaseRun) (n : Nat) : Bool :=
  decide (run.first ≤ n ∧ n ≤ run.last) && (n - run.first) % run.step == 0

/-- The lower-case form of a character that has a one-character form outside any context. -/
def lowerChar (c : Char) : Char :=
  if c.toNat < 0x80 then c.toLower
  else match caseRuns.find? (·.holds c.toNat) with
    | some run => Char.ofNat (run.target + (c.toNat - run.first))
    | none => c

/-- Whether the first character that is not ignorable is a letter with case. -/
def startsCased (cs : List Char) : Bool :=
  match cs.dropWhile isCaseIgnorable with
  | [] => false
  | c :: _ => isCased c

/-- The lower-case form of a character between the text before it (nearest first) and the text
after it. -/
def lowerAt (before : List Char) (c : Char) (after : List Char) : List Char :=
  if c = 'Σ' then
    [if startsCased before && !startsCased after then 'ς' else 'σ']
  else if c = 'İ' then ['i', '\u0307']
  else [lowerChar c]

/-- Lower-cases a text that follows `before` (nearest character first). -/
def lowerAfter (before : List Char) : List Char → List Char
  | [] => []
  | c :: cs => lowerAt before c cs ++ lowerAfter (c :: before) cs

/-- The text in lower case. -/
def lower (s : String) : String :=
  String.ofList (lowerAfter [] s.toList)

/-- The text with its ASCII capitals in lower case and everything else as it is. -/
def fold (cs : List Char) : List Char :=
  cs.map Char.toLower

/-- Whether two texts are equal up to the case of ASCII letters. -/
def sameFolded (a b : String) : Bool :=
  fold a.toList == fold b.toList

/-- Whether `needle` occurs in the text as one uninterrupted run. -/
def containsRun (needle : List Char) : List Char → Bool
  | [] => needle.isEmpty
  | c :: cs => needle.isPrefixOf (c :: cs) || containsRun needle cs

/-- Whether the text contains the term when both are in lower case. -/
def mentions (text term : String) : Bool :=
  containsRun (lower term).toList (lower text).toList

/-- The text behind `head`, when the text starts with it up to ASCII case. -/
def afterFolded (head : List Char) (cs : List Char) : Option (List Char) :=
  if fold (cs.take head.length) = fold head then some (cs.drop head.length) else none

end Agenda.Text

/-! ## Decimal numerals

Reading and writing of numbers in decimal digits. A numeral is one or more ASCII digits, with any
number of leading zeros; what is written has none, unless it is padded to a width. -/

namespace Agenda.Decimal

/-- The shortest numeral of a number. -/
def digits (n : Nat) : List Char :=
  Nat.toDigits 10 n

/-- The numeral of a number with zeros in front up to the given width. -/
def padded (width n : Nat) : List Char :=
  List.replicate (width - (digits n).length) '0' ++ digits n

/-- The number that a run of digits stands for. -/
def value (ds : List Char) : Nat :=
  Nat.ofDigitChars 10 ds 0

/-- The number that the whole text is a numeral of. -/
def value? (cs : List Char) : Option Nat :=
  if cs ≠ [] ∧ cs.all Char.isDigit = true then some (value cs) else none

/-- The number that the whole text is a numeral of, when it fits in 32 bits. -/
def word? (cs : List Char) : Option UInt32 :=
  match value? cs with
  | some n => if n < UInt32.size then some (UInt32.ofNat n) else none
  | none => none

/-- The numeral at the start of a text, of at least one and at most `width` digits where a width is
given, and the text behind it. -/
def leading? (width : Option Nat) (cs : List Char) : Option (Nat × List Char) :=
  let run := cs.takeWhile Char.isDigit
  let ds := match width with
    | some w => run.take w
    | none => run
  if ds = [] then none else some (value ds, cs.drop ds.length)

/-! ### Reading what was written -/

theorem value_digits (n : Nat) : value (digits n) = n :=
  Nat.ofDigitChars_toDigits (by decide) (by decide)

end Agenda.Decimal
