/-!
# JSON values

The data model of the files that are read and written. Numbers matter only as integers, so a value
that no reader of this library accepts (a number with a fraction, a minus zero, a text or key that
escapes half of a surrogate pair) is kept as `other`: well-formed, but without content.
-/

namespace Agenda

/-- A JSON value. -/
inductive Json
  | null
  | bool (b : Bool)
  | num (n : Int)
  | text (s : String)
  | list (items : List Json)
  | object (members : List (String × Json))
  | other

namespace Json

/-- An optional value, with `null` for none. -/
def ofOption {α : Type} (encode : α → Json) : Option α → Json
  | some a => encode a
  | none => null

/-- A list of texts. -/
def texts (l : List String) : Json :=
  list (l.map text)

/-! ## Taking values apart

Decoders for the shapes that files hold. A structure is an object, in which unknown members are
ignored and a known one may not be repeated, or a list of the values of its fields in order, from
which fields at the end may be missing. -/

/-- The content of a text. -/
def toText? : Json → Option String
  | text s => some s
  | _ => none

/-- The value of an integer that fits in 32 bits without sign. -/
def toWord? : Json → Option UInt32
  | num n =>
    if 0 ≤ n ∧ n < UInt32.size then some (UInt32.ofNat n.toNat) else none
  | _ => none

/-- The items of a list. -/
def toList? {α : Type} (decode : Json → Option α) : Json → Option (List α)
  | list items => items.mapM decode
  | _ => none

/-- A value or `null`. -/
def orNull? {α : Type} (decode : Json → Option α) : Json → Option (Option α)
  | null => some none
  | j => (decode j).map some

/-- A name out of a fixed choice: the name itself, or an object with that one key and no content
under it. -/
def toChoice? {α : Type} (choose : String → Option α) : Json → Option α
  | text name => choose name
  | object [(name, null)] => choose name
  | _ => none

/-- The members of an object with names from strings to texts. -/
def toTexts? : Json → Option (List (String × String))
  | object members => members.mapM fun (name, value) => (toText? value).map (name, ·)
  | _ => none

/-- The values of the named fields of a structure, each none if it is missing. -/
def toFields? (names : List String) : Json → Option (List (Option Json))
  | object members =>
    if names.all fun name => members.countP (·.1 == name) ≤ 1 then
      some (names.map fun name => members.lookup name)
    else none
  | list items =>
    if items.length ≤ names.length then
      some (items.map some ++ List.replicate (names.length - items.length) none)
    else none
  | _ => none

/-- A field that must be there. -/
def required? {α : Type} (decode : Json → Option α) (field : Option Json) : Option α :=
  field.bind decode

/-- A field that may be missing. -/
def defaulted? {α : Type} (decode : Json → Option α) (default : α) :
    Option Json → Option α
  | some j => decode j
  | none => some default

/-! ## Printing

The layout of the files that are written: every item and member on its own line, indented by two
spaces for each level, a space behind the colon, and no line break at the end. Empty lists and
objects stand in one line. In texts only the quote, the backslash and the control characters below
U+0020 are escaped. -/

/-- A hexadecimal digit, in lower case. -/
def hexDigit (n : Nat) : Char :=
  if n < 10 then Char.ofNat (48 + n) else Char.ofNat (87 + n)

/-- A character as it stands in a printed text. -/
def escaped (c : Char) : List Char :=
  if c = '"' then ['\\', '"']
  else if c = '\\' then ['\\', '\\']
  else if c = '\x08' then ['\\', 'b']
  else if c = '\x0c' then ['\\', 'f']
  else if c = '\n' then ['\\', 'n']
  else if c = '\r' then ['\\', 'r']
  else if c = '\t' then ['\\', 't']
  else if c.toNat < 0x20 then
    ['\\', 'u', '0', '0', hexDigit (c.toNat / 16), hexDigit (c.toNat % 16)]
  else [c]

/-- A printed text, with its quotes. -/
def quoted (s : String) : List Char :=
  '"' :: (s.toList.flatMap escaped ++ ['"'])

/-- The start of a line at some level. -/
def newLine (depth : Nat) : List Char :=
  '\n' :: List.replicate (2 * depth) ' '

/-- The digits of an integer, behind a minus where it needs one. -/
def integer (n : Int) : List Char :=
  if n < 0 then '-' :: Nat.toDigits 10 n.natAbs else Nat.toDigits 10 n.natAbs

mutual

/-- A value that stands at some level. -/
def printed (depth : Nat) : Json → List Char
  | null => ['n', 'u', 'l', 'l']
  | bool true => ['t', 'r', 'u', 'e']
  | bool false => ['f', 'a', 'l', 's', 'e']
  | num n => integer n
  | text s => quoted s
  | list [] => ['[', ']']
  | list (item :: items) =>
    '[' :: (newLine (depth + 1) ++ printed (depth + 1) item ++ printedItems (depth + 1) items ++
      newLine depth ++ [']'])
  | object [] => ['{', '}']
  | object ((name, value) :: members) =>
    '{' :: (newLine (depth + 1) ++ quoted name ++ [':', ' '] ++ printed (depth + 1) value ++
      printedMembers (depth + 1) members ++ newLine depth ++ ['}'])
  | other => ['n', 'u', 'l', 'l']

/-- The items behind the first one. -/
def printedItems (depth : Nat) : List Json → List Char
  | [] => []
  | item :: items =>
    ',' :: (newLine depth ++ printed depth item ++ printedItems depth items)

/-- The members behind the first one. -/
def printedMembers (depth : Nat) : List (String × Json) → List Char
  | [] => []
  | (name, value) :: members =>
    ',' :: (newLine depth ++ quoted name ++ [':', ' '] ++ printed depth value ++
      printedMembers depth members)

end

/-- The printed value. -/
def print (j : Json) : String :=
  String.ofList (printed 0 j)

end Json

end Agenda
