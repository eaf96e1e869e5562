import Agenda.Evaluation.Evaluate
import Agenda.Json.Basic
import Agenda.Record.Load
import Agenda.Store.Basic

/-!
# Reports

The result of a query in three forms: as tables for people, as comma-separated values for
spreadsheets, and as a JSON document for programs.
-/

namespace Agenda

/-! ## Tables

The result of a query for people: one table, or one below the name of each group. A column is as
wide as its longest entry, up to a limit at which entries are cut off; every line of a table has the
same length:

    id | text
    --------------
    1  | Fix login

The widths are taken column by column, so that there is no table of rows that lack an entry. A
header is never cut off, and it counts by its bytes; the names of columns are short and plain enough
for neither to be seen. -/

namespace Table

/-- The width at which entries are cut off. -/
def widthLimit : Nat := 40

/-- The width of a column with the given header and entries. -/
def width (header : String) (entries : List (List Char)) : Nat :=
  min widthLimit ((entries.map List.length).foldr max header.utf8ByteSize)

/-- The widths of the columns; none if a row is too short to have an entry in each. -/
def widths? (headers : List String) (rows : List (List (List Char))) : Option (List Nat) :=
  headers.zipIdx.mapM fun (header, i) => (rows.mapM (·[i]?)).map (width header)

/-- A text with blanks behind it up to the width of its column. -/
def filled (width : Nat) (text : List Char) : List Char :=
  text.rightpad width ' '

/-- An entry in a column of the given width. -/
def cell (width : Nat) (entry : List Char) : List Char :=
  filled width (entry.take width)

/-- What stands between two columns. -/
def separator : List Char := [' ', '|', ' ']

/-- The line of the headers. -/
def headerLine (widths : List Nat) (headers : List String) : List Char :=
  separator.intercalate (List.zipWith (fun w header => filled w header.toList) widths headers)

/-- The line below the headers. -/
def rule (widths : List Nat) : List Char :=
  List.replicate (widths.foldr (· + ·) 0 + separator.length * (widths.length - 1)) '-'

/-- The line of a row. -/
def rowLine (widths : List Nat) (entries : List (List Char)) : List Char :=
  separator.intercalate (List.zipWith cell widths entries)

/-- The lines of a table. -/
def lines? (headers : List String) (rows : List (List (List Char))) : Option (List (List Char)) :=
  (widths? headers rows).map fun widths =>
    headerLine widths headers :: rule widths :: rows.map (rowLine widths)

/-- The lines as one text. -/
def text (lines : List (List Char)) : String :=
  String.ofList (lines.flatMap (· ++ ['\n']))

end Table

/-- The entries of a row. -/
def Row.entries (row : Row) : List (List Char) :=
  row.cells.map (·.display.toList)

/-- The lines of the table of some rows. -/
def Row.tableLines? (columns : List String) (rows : List Row) : Option (List (List Char)) :=
  Table.lines? columns (rows.map entries)

/-- The lines of a group: its name and size, its table, and an empty line. -/
def Group.tableLines? (columns : List String) (g : Group) : Option (List (List Char)) :=
  (Row.tableLines? columns g.rows).map fun lines =>
    ("== " ++ g.key ++ " (" ++ toString g.rows.length ++ ") ==").toList :: (lines ++ [[]])

/-- The lines of a result. -/
def Output.tableLines? (o : Output) : Option (List (List Char)) :=
  if o.rows = [] then some [("No matching " ++ o.domain.plural).toList]
  else match o.groups with
    | some groups => (groups.mapM (Group.tableLines? o.columns)).map List.flatten
    | none => Row.tableLines? o.columns o.rows

/-- The result as tables. -/
def Output.table? (o : Output) : Option String :=
  o.tableLines?.map Table.text

/-! ## Comma-separated values

The result of a query for spreadsheets: a record of the columns, then one for every row, without
groups. A field in which a separator, a quote or a line break stands is quoted, and its quotes are
doubled; no record is written as an empty line. -/

namespace Csv

/-- Whether a field with this character has to be quoted. -/
def isSpecial (c : Char) : Bool :=
  c == ',' || c == '"' || c == '\r' || c == '\n'

/-- A field as it is written. -/
def field (cs : List Char) : List Char :=
  if cs.any isSpecial then
    '"' :: (cs.flatMap (fun c => if c = '"' then ['"', '"'] else [c]) ++ ['"'])
  else cs

/-- A record as it is written, without its line break. -/
def record (fields : List (List Char)) : List Char :=
  match [','].intercalate (fields.map field) with
  | [] => ['"', '"']
  | cs => cs

/-- The text of some records. -/
def text (records : List (List (List Char))) : String :=
  String.ofList (records.flatMap fun fields => record fields ++ ['\n'])

end Csv

/-- The result as comma-separated values. -/
def Output.csv (o : Output) : String :=
  Csv.text (o.columns.map String.toList ::
    o.rows.map fun row => row.cells.map (·.display.toList))

/-! ## JSON documents

The result of a query, and the list of the saved queries, for programs. -/

/-- Writes a value. -/
def Value.toJson : Value → Json
  | .null => .null
  | .int n => .num n
  | .text s => .text s
  | .date d => d.toJson
  | .priority p => p.toJson
  | .tags names => .texts names

/-- Writes a row. -/
def Row.toJson (row : Row) : Json :=
  .object [
    ("record", row.record.toJson),
    ("computed_metrics", .object (row.metrics.map fun (name, v) => (name, v.toJson))),
    ("related", .object (row.related.map fun (name, records) =>
      (name, .list (records.map Record.toJson)))),
    ("cells", .list (row.cells.map Value.toJson))]

/-- Writes a group. -/
def Group.toJson (g : Group) : Json :=
  .object [("key", .text g.key), ("rows", .list (g.rows.map Row.toJson))]

/-- Writes a result. -/
def Output.toJson (o : Output) : Json :=
  .object [
    ("domain", .text o.domain.tag),
    ("columns", .texts o.columns),
    ("view", .text o.view.name),
    ("rows", .list (o.rows.map Row.toJson)),
    ("groups", .ofOption (fun groups => .list (groups.map Group.toJson)) o.groups)]

/-- Writes the saved queries of a store. -/
def Store.queriesJson (s : Store) : Json :=
  .list (s.contents.queries.entries.map fun (name, text) =>
    .object [("name", .text name), ("raw_text", .text text)])

end Agenda
