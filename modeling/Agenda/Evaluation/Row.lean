import Agenda.Calendar.DateText
import Agenda.Evaluation.Metric
import Agenda.Query.Basic
import Agenda.Schema

/-!
# Values and rows

What the output of a query is made of: values, one for each cell, and rows of them that are sorted
and gathered into groups.
-/

namespace Agenda

/-! ## Values

What stands in a cell of the output: a stored field, a computed number, or nothing. Values of one
kind are ordered, texts regardless of case; an absent value comes after every other, whichever way
is sorted. -/

/-- The value of a field or metric. -/
inductive Value
  | null
  | int (n : Int)
  | text (s : String)
  | date (d : Date)
  | priority (p : Priority)
  | tags (names : List String)
deriving DecidableEq

namespace Value

/-- The value of a field that may be absent. -/
def ofOption {α : Type} (make : α → Value) : Option α → Value
  | some a => make a
  | none => null

/-- Whether there is no value. -/
def isNull : Value → Bool
  | null => true
  | _ => false

/-- The order of two lists of names, decided by the first place where they differ. -/
def compareNames : List String → List String → Ordering
  | [], [] => .eq
  | [], _ :: _ => .lt
  | _ :: _, [] => .gt
  | a :: as, b :: bs => (compare a b).then (compareNames as bs)

/-- The order of two values of one kind; values of different kinds are not told apart. -/
def comparePresent : Value → Value → Ordering
  | int a, int b => compare a b
  | text a, text b => compare (Text.lower a) (Text.lower b)
  | date a, date b => compare a b
  | priority a, priority b => compare a b
  | tags a, tags b => compareNames a b
  | _, _ => .eq

/-- The order of two values when sorting in a direction. -/
def compareIn (direction : Direction) (a b : Value) : Ordering :=
  match a.isNull, b.isNull with
  | true, true => .eq
  | true, false => .gt
  | false, true => .lt
  | false, false =>
    match direction with
    | .ascending => comparePresent a b
    | .descending => (comparePresent a b).swap

/-- The value as it is shown. -/
def display : Value → String
  | null => ""
  | int n => toString n
  | text s => s
  | date d => d.text
  | priority p => p.text
  | tags names => String.intercalate "," names

end Value

/-! ### Stored fields -/

/-- A stored field of a task. -/
def Task.field (t : Task) (name : String) : Value :=
  match name with
  | "id" => .int t.id.toNat
  | "text" => .text t.text
  | "project" => .text t.project
  | "priority" => .priority t.priority
  | "due" => .ofOption .date t.due
  | "status" => .text t.status.name
  | "tags" => .tags t.tags.toList
  | _ => .null

/-- A stored field of a project. -/
def Project.field (p : Project) (name : String) : Value :=
  match name with
  | "name" => .text p.name
  | "description" => .ofOption .text p.description
  | "status" => .text p.status.name
  | _ => .null

/-- A stored field of a time log. -/
def TimeLog.field (l : TimeLog) (name : String) : Value :=
  match name with
  | "id" => .int l.id.toNat
  | "project" => .text l.project
  | "task_id" => .ofOption (fun id => .int id.toNat) l.taskId
  | "date" => .date l.date
  | "minutes" => .int l.minutes.toNat
  | "note" => .ofOption .text l.note
  | _ => .null

/-- A stored field of a record; nothing if the record has no such field. -/
def Record.field (r : Record) (name : String) : Value :=
  match r with
  | .task t => t.field name
  | .project p => p.field name
  | .timeLog l => l.field name

/-! ## Rows

A record on its way to the output, with the metrics and related records that the query asks for and
the cells of its columns. Rows are sorted by a chain of keys, each of which decides where those
before it do not, and gathered into groups by the value of a field. -/

/-- A row of the output. -/
structure Row where
  record : Record
  /-- The metrics that were asked for, by name. -/
  metrics : List (String × Value)
  /-- The related records that were asked for, by name of the relation. -/
  related : List (String × List Record)
  /-- The values of the columns. -/
  cells : List Value
deriving DecidableEq

namespace Row

/-- The value that a row has under a name: a stored field, a metric, or the number of related
records. -/
def value (row : Row) (name : String) : Value :=
  if name ∈ row.record.domain.schema.fields then row.record.field name
  else match row.metrics.lookup name with
    | some v => v
    | none => .ofOption (fun records => .int (List.length records)) (row.related.lookup name)

/-- The row with the cells of the given columns. -/
def withCells (row : Row) (columns : List String) : Row :=
  { row with cells := columns.map row.value }

/-! ### Sorting -/

/-- The order of two rows under a chain of keys. -/
def compareBy (a b : Row) : List SortKey → Ordering
  | [] => .eq
  | key :: rest =>
    (Value.compareIn key.direction (a.value key.field) (b.value key.field)).then
      (compareBy a b rest)

/-- The rows in the order of a chain of keys; rows that it does not tell apart stay in order. -/
def sorted (keys : List SortKey) (rows : List Row) : List Row :=
  rows.mergeSort fun a b => compareBy a b keys != .gt

/-! ### Grouping -/

/-- The key of the group of rows without a value. -/
def noGroup : String := "none"

/-- The key of the group that a row belongs to. -/
def groupKey (field : String) (row : Row) : String :=
  let v := row.value field
  if v.isNull then noGroup else v.display

end Row

/-- Rows with one key. -/
structure Group where
  key : String
  rows : List Row
deriving DecidableEq

/-- The rows gathered by the value of a field, in the order in which the keys first appear. -/
def Group.gather (field : String) (rows : List Row) : List Group :=
  (rows.map (Row.groupKey field)).eraseDups.map fun key =>
    ⟨key, rows.filter fun row => row.groupKey field == key⟩

end Agenda
