import Agenda.Toml.Value

/-!
# Reading TOML

A file is a sequence of lines, each empty but for a comment, or a header, or an assignment. Reading
takes two steps: the lines become statements, and the statements are put together to one table.
-/

namespace Agenda

namespace Toml

/-- What a line of a file states. -/
inductive Statement
  /-- The header of a table. -/
  | openTable (path : List String)
  /-- The header of one more table of a list. -/
  | openElement (path : List String)
  /-- The assignment of a value to a key, which may be dotted. -/
  | assign (path : List String) (value : Toml)

/-- The number of levels at which nesting ends: lists and tables lie less deep, and a dotted key has
fewer parts. -/
def depthLimit : Nat := 80

/-! ## Lines -/

/-- Whether a character may stand in a comment. -/
def isCommentChar (c : Char) : Bool :=
  isTextChar c

/-- Drops a comment, if there is one. -/
def skipComment (cs : List Char) : List Char :=
  match cs with
  | '#' :: rest => rest.dropWhile isCommentChar
  | cs => cs

/-- Drops what may stand at the end of a line, and the line break unless the file ends. -/
def lineEnd? (cs : List Char) : Option (List Char) :=
  match skipComment (skipGap cs) with
  | [] => some []
  | rest => lineBreak? rest

/-- Drops gaps, comments and line breaks, in at most `fuel` steps. -/
def skipFree (fuel : Nat) (cs : List Char) : List Char :=
  match fuel with
  | 0 => cs
  | fuel + 1 =>
    match lineBreak? (skipComment (skipGap cs)) with
    | some rest => skipFree fuel rest
    | none => skipGap cs

/-! ## Keys -/

/-- Whether a character may stand in a key without quotes. -/
def isKeyChar (c : Char) : Bool :=
  c.isAlphanum || c == '_' || c == '-'

/-- Reads one part of a key. -/
def keyPart? (cs : List Char) : Option (String × List Char) :=
  match cs with
  | '"' :: rest => (basicText? cs.length rest).map fun (name, rest) => (String.ofList name, rest)
  | '\'' :: rest => (literalText? rest).map fun (name, rest) => (String.ofList name, rest)
  | cs =>
    match cs.takeWhile isKeyChar with
    | [] => none
    | name => some (String.ofList name, cs.dropWhile isKeyChar)

/-- Reads a key of at most `parts` parts, with the gaps around them. -/
def key? (parts : Nat) (cs : List Char) : Option (List String × List Char) :=
  match parts with
  | 0 => none
  | parts + 1 => do
    let (name, rest) ← keyPart? (skipGap cs)
    match skipGap rest with
    | '.' :: rest =>
      let (names, rest) ← key? parts rest
      return (name :: names, rest)
    | rest => return ([name], rest)

/-! ## Tables between braces and values -/

/-- Whether a dotted key may go on inside a table of the given origin. -/
def TableOrigin.isOpen : TableOrigin → Bool
  | .implied | .dotted => true
  | .inline | .header => false

/-- The members with a value put under a name, in place of any that was there. -/
def put (name : String) (value : Toml) (members : Members) : Members :=
  match members with
  | [] => [(name, value)]
  | (n, v) :: rest => if n = name then (n, value) :: rest else (n, v) :: put name value rest

/-- Assigns a value to a dotted key inside a table; `here` is the origin of the table if the key has
led into it. The last part must be new, and must not land in a table that the key could not have
made. -/
def assignIn (value : Toml) (here : Option TableOrigin) :
    List String → Members → Option Members
  | [], _ => none
  | [name], members =>
    if here.all (fun origin => decide (origin = .dotted)) ∧ (members.lookup name).isNone then
      some (members ++ [(name, value)])
    else none
  | name :: path, members =>
    match members.lookup name with
    | none =>
      (assignIn value (some .dotted) path []).map fun inner =>
        members ++ [(name, table .dotted inner)]
    | some (table origin inner) =>
      if TableOrigin.isOpen origin then
        (assignIn value (some origin) path inner).map fun inner =>
          put name (table origin inner) members
      else none
    | some (tables elements) =>
      match elements.getLast? with
      | some inner =>
        (assignIn value (some .header) path inner).map fun inner =>
          put name (tables (elements.dropLast ++ [inner])) members
      | none => none
    | some _ => none

mutual

/-- Reads a value at some depth, following at most `fuel` values and items in a row. -/
def value? (fuel depth : Nat) (cs : List Char) : Option (Toml × List Char) :=
  match fuel with
  | 0 => none
  | fuel + 1 =>
    match cs with
    | '"' :: _ => (text? '"' cs).map fun (s, rest) => (text (String.ofList s), rest)
    | '\'' :: _ => (text? '\'' cs).map fun (s, rest) => (text (String.ofList s), rest)
    | '[' :: rest =>
      if depthLimit ≤ depth + 1 then none
      else (items? fuel (depth + 1) rest).map fun (items, rest) => (list items, rest)
    | '{' :: rest =>
      if depthLimit ≤ depth + 1 then none
      else match skipGap rest with
        | '}' :: rest => some (table .inline [], rest)
        | rest =>
          (pairs? fuel (depth + 1) [] rest).map fun (members, rest) =>
            (table .inline members, rest)
    | cs => scalar? cs

/-- Reads the items of a list and its closing bracket. -/
def items? (fuel depth : Nat) (cs : List Char) : Option (List Toml × List Char) :=
  match fuel with
  | 0 => none
  | fuel + 1 =>
    match skipFree fuel cs with
    | ']' :: rest => some ([], rest)
    | rest => do
      let (item, rest) ← value? fuel depth rest
      match skipFree fuel rest with
      | ']' :: rest => return ([item], rest)
      | ',' :: rest =>
        let (items, rest) ← items? fuel depth rest
        return (item :: items, rest)
      | _ => none

/-- Reads the assignments of a table between braces and its closing brace, and adds them to those
that have been read. -/
def pairs? (fuel depth : Nat) (members : Members) (cs : List Char) :
    Option (Members × List Char) :=
  match fuel with
  | 0 => none
  | fuel + 1 => do
    let (path, rest) ← key? (depthLimit - 1) cs
    match rest with
    | '=' :: rest =>
      let (value, rest) ← value? fuel depth (skipGap rest)
      let members ← assignIn value none path members
      match skipGap rest with
      | '}' :: rest => return (members, rest)
      | ',' :: rest => pairs? fuel depth members rest
      | _ => none
    | _ => none

end

/-! ## Statements -/

/-- Reads a header or an assignment up to the end of its line. -/
def statement? (cs : List Char) : Option (Statement × List Char) :=
  match cs with
  | '[' :: '[' :: rest => do
    let (path, rest) ← key? (depthLimit - 1) rest
    match rest with
    | ']' :: ']' :: rest => return (.openElement path, ← lineEnd? rest)
    | _ => none
  | '[' :: rest => do
    let (path, rest) ← key? (depthLimit - 1) rest
    match rest with
    | ']' :: rest => return (.openTable path, ← lineEnd? rest)
    | _ => none
  | cs => do
    let (path, rest) ← key? (depthLimit - 1) cs
    match rest with
    | '=' :: rest =>
      let (value, rest) ← value? (2 * rest.length + 1) 0 (skipGap rest)
      return (.assign path value, ← lineEnd? rest)
    | _ => none

/-- Reads the statements of a text, following at most `fuel` lines. -/
def statements? (fuel : Nat) (cs : List Char) : Option (List Statement) :=
  match fuel with
  | 0 => none
  | fuel + 1 =>
    match skipFree fuel cs with
    | [] => some []
    | '#' :: rest => if rest.dropWhile isCommentChar = [] then some [] else none
    | rest => do
      let (statement, rest) ← statement? rest
      return statement :: (← statements? fuel rest)

/-! ## Documents

Puts the statements of a file together to one table. A header opens a table that has not been opened
before, a doubled header adds a table to a list, and the assignments that follow go into it. No key
is assigned twice, and a table that is complete is not extended. -/

/-- Changes the table that a path of headers leads to. Tables on the way that are missing are
implied by the path; a list of tables is entered at its last element. -/
def changeAt (change : Members → Option Members) : List String → Members → Option Members
  | [], members => change members
  | name :: path, members =>
    match members.lookup name with
    | none =>
      (changeAt change path []).map fun inner => members ++ [(name, table .implied inner)]
    | some (table .inline _) => none
    | some (table origin inner) =>
      (changeAt change path inner).map fun inner => put name (table origin inner) members
    | some (tables elements) =>
      match elements.getLast? with
      | some inner =>
        (changeAt change path inner).map fun inner =>
          put name (tables (elements.dropLast ++ [inner])) members
      | none => none
    | some _ => none

/-- Opens a table under a name, unless there is something that was not merely implied. -/
def openTable (name : String) (members : Members) : Option Members :=
  match members.lookup name with
  | none => some (members ++ [(name, table .header [])])
  | some (table .implied inner) => some (put name (table .header inner) members)
  | some _ => none

/-- Adds a table to the list under a name. -/
def openElement (name : String) (members : Members) : Option Members :=
  match members.lookup name with
  | none => some (members ++ [(name, tables [[]])])
  | some (tables elements) => some (put name (tables (elements ++ [[]])) members)
  | some _ => none

/-- A document that is being put together: the whole table, and the path of the table that
assignments go into. -/
structure Draft where
  root : Members
  current : List String

/-- Carries out a statement. -/
def Draft.step (d : Draft) : Statement → Option Draft
  | .openTable path =>
    (changeAt (openTable (path.getLastD "")) path.dropLast d.root).map (⟨·, path⟩)
  | .openElement path =>
    (changeAt (openElement (path.getLastD "")) path.dropLast d.root).map (⟨·, path⟩)
  | .assign path value =>
    (changeAt (assignIn value none path) d.current d.root).map (⟨·, d.current⟩)

/-- The text without the mark that may stand at the start of a file. -/
def withoutMark (cs : List Char) : List Char :=
  match cs with
  | '\uFEFF' :: rest => rest
  | cs => cs

/-- The table that the text of a file spells. -/
def read? (s : String) : Option Toml := do
  let cs := withoutMark s.toList
  let statements ← statements? (cs.length + 1) cs
  let draft ← statements.foldlM Draft.step ⟨[], []⟩
  return table .header draft.root

end Toml

end Agenda
