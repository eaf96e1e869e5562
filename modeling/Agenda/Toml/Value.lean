import Agenda.Calendar.Date
import Agenda.Json.Reader
import Agenda.Text.Basic

/-!
# TOML values

The data model of the settings file. Only texts, whole numbers, lists and tables carry settings;
other values are recognised, so that a file with them is valid, but kept without content.
-/

namespace Agenda

/-- How a table came about, which decides whether it may still be extended. -/
inductive TableOrigin
  /-- Written out as a value between braces. -/
  | inline
  /-- Opened by its own header, or the element of a list of tables, or the whole file. -/
  | header
  /-- Needed by the header of a table inside it. -/
  | implied
  /-- Needed by a dotted key. -/
  | dotted
deriving DecidableEq

/-- A TOML value. -/
inductive Toml
  | text (s : String)
  | integer (n : Int)
  | list (items : List Toml)
  | table (origin : TableOrigin) (members : List (String × Toml))
  /-- The tables that repeated headers have opened under one name. -/
  | tables (elements : List (List (String × Toml)))
  /-- A date, a time, or both. -/
  | moment
  /-- A truth value, or a number with a fraction. -/
  | other

namespace Toml

/-- The members of a table. -/
abbrev Members := List (String × Toml)

/-- The content of a text. -/
def toText? : Toml → Option String
  | text s => some s
  | _ => none

/-- The value of a whole number without sign. -/
def toNatural? : Toml → Option Nat
  | integer n => if 0 ≤ n then some n.toNat else none
  | _ => none

/-- Whether the value is an empty list or table. -/
def isEmpty : Toml → Bool
  | list items => items.isEmpty
  | table _ members => members.isEmpty
  | tables elements => elements.isEmpty
  | _ => false

/-- A name out of a fixed choice: the name itself, or a table with that one key and nothing under
it. -/
def toChoice? {α : Type} (choose : String → Option α) : Toml → Option α
  | text name => choose name
  | table _ [(name, value)] => if value.isEmpty then choose name else none
  | _ => none

/-- The values of the named fields of a structure, each none if it is missing: those of a table, or
the items of a list in order. A date or time is a structure too, with none of the named fields. -/
def toFields? (names : List String) : Toml → Option (List (Option Toml))
  | table _ members => some (names.map fun name => members.lookup name)
  | list items => some ((List.range names.length).map fun i => items[i]?)
  | tables elements =>
    some ((List.range names.length).map fun i => elements[i]?.map (table .header))
  | moment => some (names.map fun _ => none)
  | _ => none

/-- A field that may be missing. -/
def defaulted? {α : Type} (decode : Toml → Option α) (default : α) : Option Toml → Option α
  | some value => decode value
  | none => some default

/-! ## Written forms

Of numbers, dates and times, and texts. Numbers, dates and times are decided on a whole token: the
longest run of characters that can belong to one. -/

/-- Whether a character may stand between the parts of a line. -/
def isGap (c : Char) : Bool :=
  c == ' ' || c == '\t'

/-- Drops the gap in front of a text. -/
def skipGap (cs : List Char) : List Char :=
  cs.dropWhile isGap

/-- Drops a line break. -/
def lineBreak? : List Char → Option (List Char)
  | '\n' :: rest => some rest
  | '\r' :: '\n' :: rest => some rest
  | _ => none

/-! ### Numbers -/

/-- The digits of a numeral in which single underscores may stand between digits. -/
def grouped? (isDigit : Char → Bool) : List Char → Option (List Char)
  | [] => none
  | [d] => if isDigit d then some [d] else none
  | d :: '_' :: rest => if isDigit d then (grouped? isDigit rest).map (d :: ·) else none
  | d :: rest => if isDigit d then (grouped? isDigit rest).map (d :: ·) else none

/-- The digits of a decimal numeral, which has no zero in front. -/
def plain? (cs : List Char) : Option (List Char) :=
  match grouped? Char.isDigit cs with
  | some ('0' :: _ :: _) => none
  | ds => ds

/-- Splits off a sign. -/
def sign : List Char → Bool × List Char
  | '-' :: rest => (true, rest)
  | '+' :: rest => (false, rest)
  | cs => (false, cs)

/-- The number that digits of some base spell. -/
def inBase (base : Nat) (ds : List Char) : Nat :=
  ds.foldl (fun n d => n * base + (Json.hexValue? d).getD 0) 0

/-- Whether a character is a digit of some base. -/
def isDigitOf (base : Nat) (c : Char) : Bool :=
  (Json.hexValue? c).any (· < base)

/-- A whole number, if it fits in 64 bits with sign. -/
def bounded? (n : Int) : Option Toml :=
  if Int64.minValue.toInt ≤ n ∧ n ≤ Int64.maxValue.toInt then some (integer n) else none

/-- Reads a whole number. -/
def integer? (token : List Char) : Option Toml :=
  match token with
  | '0' :: 'x' :: ds => (grouped? (isDigitOf 16) ds).bind fun ds => bounded? (inBase 16 ds)
  | '0' :: 'o' :: ds => (grouped? (isDigitOf 8) ds).bind fun ds => bounded? (inBase 8 ds)
  | '0' :: 'b' :: ds => (grouped? (isDigitOf 2) ds).bind fun ds => bounded? (inBase 2 ds)
  | _ =>
    let (negative, ds) := sign token
    (plain? ds).bind fun ds =>
      bounded? (if negative then -(Decimal.value ds : Int) else Decimal.value ds)

/-- The middle between the largest double and the next power of two. -/
def doubleLimit : Nat :=
  Nat.pow 2 1024 - Nat.pow 2 970

/-- Whether `digits × 10 ^ exponent` is too large for a double. -/
def isTooLarge (digits : List Char) (exponent : Int) : Bool :=
  let n := Decimal.value digits
  let size := (Decimal.digits n).length + exponent
  if n = 0 ∨ size < 300 then false
  else if size > 320 then true
  else if 0 ≤ exponent then decide (doubleLimit ≤ n * Nat.pow 10 exponent.toNat)
  else decide (doubleLimit * Nat.pow 10 exponent.natAbs ≤ n)

/-- The value of an exponent, of which nothing may be missing. -/
def exponent? (cs : List Char) : Option Int :=
  match cs with
  | [] => some 0
  | c :: rest =>
    if c = 'e' ∨ c = 'E' then
      let (negative, ds) := sign rest
      (grouped? Char.isDigit ds).map fun ds =>
        if negative then -(Decimal.value ds : Int) else Decimal.value ds
    else none

/-- Whether a character belongs to a run of digits with underscores. -/
def isGrouped (c : Char) : Bool :=
  c.isDigit || c == '_'

/-- The digits and the exponent of a number with a fraction, an exponent or both. -/
def fraction? (cs : List Char) : Option (List Char × Int) := do
  let whole ← plain? (cs.takeWhile isGrouped)
  match cs.dropWhile isGrouped with
  | '.' :: rest =>
    let part ← grouped? Char.isDigit (rest.takeWhile isGrouped)
    let exponent ← exponent? (rest.dropWhile isGrouped)
    return (whole ++ part, exponent - part.length)
  | 'e' :: rest => return (whole, ← exponent? ('e' :: rest))
  | 'E' :: rest => return (whole, ← exponent? ('e' :: rest))
  | _ => none

/-- Reads a number with a fraction, an exponent or both, or a special one. Only positive numbers can
be too large. -/
def float? (token : List Char) : Option Toml :=
  let (negative, rest) := sign token
  if rest = ['i', 'n', 'f'] ∨ rest = ['n', 'a', 'n'] then some other
  else (fraction? rest).bind fun (ds, exponent) =>
    if negative = false ∧ isTooLarge ds exponent = true then none else some other

/-! ### Dates and times -/

/-- Reads a number of exactly `width` digits. -/
def fixed? (width : Nat) (cs : List Char) : Option (Nat × List Char) :=
  let ds := cs.take width
  if ds.length = width ∧ ds.all Char.isDigit = true then
    some (Decimal.value ds, cs.drop width)
  else none

/-- Reads a two-digit number up to a bound behind a separator. -/
def field? (separator : Char) (last : Nat) (cs : List Char) : Option (Nat × List Char) :=
  match cs with
  | c :: rest =>
    if c = separator then
      match fixed? 2 rest with
      | some (n, rest) => if n ≤ last then some (n, rest) else none
      | none => none
    else none
  | [] => none

/-- Drops a date. -/
def dropDate? (cs : List Char) : Option (List Char) := do
  let (year, rest) ← fixed? 4 cs
  let (month, rest) ← field? '-' 12 rest
  let (day, rest) ← field? '-' 31 rest
  if 1 ≤ month ∧ 1 ≤ day ∧ day ≤ daysInMonth year month then some rest else none

/-- Drops a time of day. -/
def dropTime? (cs : List Char) : Option (List Char) := do
  let (hour, rest) ← fixed? 2 cs
  let (_, rest) ← field? ':' 59 rest
  let (_, rest) ← field? ':' 60 rest
  if 23 < hour then none
  else match rest with
    | '.' :: rest => Json.dropDigits? rest
    | rest => some rest

/-- Whether a text is the offset of a time zone. -/
def isOffset (cs : List Char) : Bool :=
  match cs with
  | ['Z'] | ['z'] => true
  | '+' :: rest | '-' :: rest =>
    match fixed? 2 rest with
    | some (hour, rest) => decide (hour ≤ 23) && (field? ':' 59 rest).any (·.2.isEmpty)
    | none => false
  | _ => false

/-- Whether a text is a date, a time, or a date and a time with an optional offset. -/
def isMoment (cs : List Char) : Bool :=
  match dropDate? cs with
  | some [] => true
  | some (c :: rest) =>
    (c == 'T' || c == 't' || c == ' ') &&
      (dropTime? rest).any fun rest => rest.isEmpty || isOffset rest
  | none => (dropTime? cs).any (·.isEmpty)

/-- Whether a character can belong to a number, a word, a date or a time. -/
def isTokenChar (c : Char) : Bool :=
  c.isAlphanum || c == '_' || c == '+' || c == '-' || c == '.' || c == ':'

/-- Reads the value that a whole token spells. -/
def token? (token : List Char) : Option Toml :=
  if token = "true".toList ∨ token = "false".toList then some other
  else if isMoment token then some moment
  else float? token <|> integer? token

/-- Reads a number, a truth value, a date or a time at the start of a text. A date and a time may be
separated by one blank. -/
def scalar? (cs : List Char) : Option (Toml × List Char) :=
  let first := cs.takeWhile isTokenChar
  let rest := cs.dropWhile isTokenChar
  let second := (rest.drop 1).takeWhile isTokenChar
  if rest.head? = some ' ' ∧ second ≠ [] ∧ dropDate? first = some [] then
    if isMoment (first ++ ' ' :: second) then some (moment, (rest.drop 1).dropWhile isTokenChar)
    else none
  else (token? first).map (·, rest)

/-! ### Texts -/

/-- Whether a character may stand in a line of text as it is; `quote` and `escape` excepted. -/
def isTextChar (c : Char) : Bool :=
  c == '\t' || (decide (0x20 ≤ c.toNat) && c != '\x7f')

/-- The character with the number that hexadecimal digits spell, if there is one. -/
def escapedChar? (ds : List Char) : Option Char := do
  let n := inBase 16 ds
  if ds.all (isDigitOf 16) = true ∧ n.isValidChar then some (Char.ofNat n) else none

/-- The character that a one-letter escape stands for. -/
def escape? (c : Char) : Option Char :=
  match c with
  | 'b' => some '\x08'
  | 'f' => some '\x0c'
  | 'n' => some '\n'
  | 'r' => some '\r'
  | 't' => some '\t'
  | '"' => some '"'
  | '\\' => some '\\'
  | _ => none

/-- Reads an escape behind its backslash. -/
def escapeSequence? (cs : List Char) : Option (Char × List Char) :=
  match cs with
  | 'u' :: rest =>
    if 4 ≤ rest.length then (escapedChar? (rest.take 4)).map (·, rest.drop 4) else none
  | 'U' :: rest =>
    if 8 ≤ rest.length then (escapedChar? (rest.take 8)).map (·, rest.drop 8) else none
  | c :: rest => (escape? c).map (·, rest)
  | [] => none

/-- Reads a text in double quotes behind the first one, in at most `fuel` steps. -/
def basicText? (fuel : Nat) (cs : List Char) : Option (List Char × List Char) :=
  match fuel, cs with
  | 0, _ | _, [] => none
  | _ + 1, '"' :: rest => some ([], rest)
  | fuel + 1, '\\' :: rest => do
    let (c, rest) ← escapeSequence? rest
    let (cs, rest) ← basicText? fuel rest
    return (c :: cs, rest)
  | fuel + 1, c :: rest =>
    if isTextChar c then (basicText? fuel rest).map fun (cs, rest) => (c :: cs, rest) else none

/-- Reads a text in single quotes behind the first one. -/
def literalText? : List Char → Option (List Char × List Char)
  | [] => none
  | '\'' :: rest => some ([], rest)
  | c :: rest =>
    if isTextChar c then (literalText? rest).map fun (cs, rest) => (c :: cs, rest) else none

/-- How many quotes the text starts with, up to five. -/
def quoteRun (quote : Char) (cs : List Char) : Nat :=
  ((cs.take 5).takeWhile (· == quote)).length

/-- Drops gaps and line breaks, in at most `fuel` steps. -/
def skipLines (fuel : Nat) (cs : List Char) : List Char :=
  match fuel with
  | 0 => cs
  | fuel + 1 =>
    match lineBreak? (skipGap cs) with
    | some rest => skipLines fuel rest
    | none => skipGap cs

/-- Reads a text of several lines behind its three opening quotes, in at most `fuel` steps. Up to
two of the quotes in front of the three closing ones belong to the text. Escapes count only between
double quotes; a backslash at the end of a line there joins the lines. -/
def multiLineText? (quote : Char) (fuel : Nat) (cs : List Char) :
    Option (List Char × List Char) :=
  match fuel with
  | 0 => none
  | fuel + 1 =>
    let run := quoteRun quote cs
    if 3 ≤ run then some (List.replicate (run - 3) quote, cs.drop run)
    else match lineBreak? cs, cs with
      | some rest, _ => (multiLineText? quote fuel rest).map fun (cs, rest) => ('\n' :: cs, rest)
      | none, [] => none
      | none, c :: rest =>
        if c = '\\' ∧ quote = '"' then
          if (lineBreak? (skipGap rest)).isSome then
            multiLineText? quote fuel (skipLines rest.length rest)
          else do
            let (c, rest) ← escapeSequence? rest
            let (cs, rest) ← multiLineText? quote fuel rest
            return (c :: cs, rest)
        else if isTextChar c then
          (multiLineText? quote fuel rest).map fun (cs, rest) => (c :: cs, rest)
        else none

/-- Drops a line break, if there is one. -/
def skipLineBreak (cs : List Char) : List Char :=
  (lineBreak? cs).getD cs

/-- Reads a text of one or several lines that starts with the given quote. -/
def text? (quote : Char) (cs : List Char) : Option (List Char × List Char) :=
  if quoteRun quote cs ≥ 3 then
    multiLineText? quote (cs.length + 1) (skipLineBreak (cs.drop 3))
  else if quote = '"' then basicText? cs.length (cs.drop 1)
  else literalText? (cs.drop 1)

end Toml

end Agenda
