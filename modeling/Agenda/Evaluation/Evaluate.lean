import Agenda.Evaluation.Row
import Agenda.Query.Error

/-!
# Evaluation

A query runs over the collections in stages:

    records → filter → relate → measure → project to columns → sort → group

The query need not come from the compiler, so metrics and columns are checked once more. Evaluation
can also break off in a week that leaves the calendar: where a clause needs its Sunday, and whenever
a metric is asked for. A program that is built to check its sums also breaks off at a sum that
leaves 64 bits.
-/

namespace Agenda

/-! ## Filtering

Which records satisfy the clauses of a query. Clauses are tried in order and the first one that
fails decides, so a record that an earlier clause rejects never meets a later one; this matters only
for `due:eow`, which cannot be decided in a week that leaves the calendar. -/

namespace Clause

/-- Whether a task satisfies the clause. -/
def holdsForTask (clause : Clause) (t : Task) (ctx : Context) : Except WeekOverflow Bool :=
  match clause with
  | project name => .ok (Text.sameFolded t.project name)
  | priority comparison level => .ok (comparison.holds t.priority.level level)
  | priorityRange lo hi => .ok (decide (lo ≤ t.priority.level ∧ t.priority.level ≤ hi))
  | due expr =>
    match t.due with
    | some date => expr.selects ctx date
    | none => .ok false
  | overdue => .ok (t.isOverdue ctx.today)
  | status name => .ok (t.status.name == name)
  | tag name negated => .ok (t.hasTag name != negated)
  | text term => .ok (Text.mentions t.text term)

/-- Whether a project satisfies the clause; it satisfies none about what only tasks have. -/
def holdsForProject (clause : Clause) (p : Project) : Bool :=
  match clause with
  | project name => Text.sameFolded p.name name
  | status name => p.status.name == name
  | text term => Text.mentions p.name term || p.description.any (Text.mentions · term)
  | _ => false

/-- Whether a time log satisfies the clause; it satisfies none about what only others have. -/
def holdsForTimeLog (clause : Clause) (l : TimeLog) : Bool :=
  match clause with
  | project name => Text.sameFolded l.project name
  | text term => l.note.any (Text.mentions · term)
  | _ => false

/-- Whether a record satisfies the clause. -/
def holds (clause : Clause) (record : Record) (ctx : Context) : Except WeekOverflow Bool :=
  match record with
  | .task t => clause.holdsForTask t ctx
  | .project p => .ok (clause.holdsForProject p)
  | .timeLog l => .ok (clause.holdsForTimeLog l)

/-- Whether a record satisfies every clause. -/
def allHold (record : Record) (ctx : Context) : List Clause → Except WeekOverflow Bool
  | [] => .ok true
  | clause :: rest => do
    if ← clause.holds record ctx then allHold record ctx rest else return false

/-- The records that satisfy every clause, in order. -/
def select (clauses : List Clause) (ctx : Context) : List Record → Except WeekOverflow (List Record)
  | [] => .ok []
  | record :: rest => do
    let kept ← allHold record ctx clauses
    let others ← select clauses ctx rest
    return if kept then record :: others else others

end Clause

/-! ## The stages -/

/-- The result of a query. -/
structure Output where
  domain : Domain
  columns : List String
  view : View
  rows : List Row
  /-- The same rows by group, if the query asks for groups. -/
  groups : Option (List Group)
deriving DecidableEq

/-- Why an evaluation has no result. -/
inductive EvaluationError
  | invalid (cause : CompileError)
  | overflow (cause : WeekOverflow)
deriving DecidableEq

/-- The columns of the output: those of the query, or those of the domain. -/
def Directives.outputColumns (d : Directives) (domain : Domain) :
    Except CompileError (List String) :=
  match d.columns with
  | none => .ok domain.schema.defaultColumns
  | some columns =>
    match columns.find? (· ∉ domain.schema.columns) with
    | some column => .error (.invalidColumn column domain domain.schema.columns)
    | none => .ok (if columns = [] then domain.schema.defaultColumns else columns)

/-- The row of a record with its related records. -/
def Row.withRelated (links : Links) (d : Directives) (record : Record) : Row :=
  { record
    metrics := []
    related := d.relations.toList.map fun r => (r, links.related record r)
    cells := [] }

/-- The row with its metrics. -/
def Row.measured (g : Gauge) (d : Directives) (row : Row) : Row :=
  { row with
    metrics := d.metrics.toList.map fun m => (m, .ofOption .int (g.measure row.record m)) }

/-- The rows with the metrics that the query asks for, if the domain has them all. -/
def Row.measureAll (links : Links) (q : Query) (ctx : Context) (rows : List Row) :
    Except EvaluationError (List Row) :=
  match q.directives.metrics.toList.find? (· ∉ q.domain.schema.metrics) with
  | some metric => .error (.invalid (.invalidMetric metric q.domain q.domain.schema.metrics))
  | none =>
    if q.directives.metrics.isEmpty then .ok rows
    else match Gauge.of links ctx with
      | .ok g => .ok (rows.map (measured g q.directives))
      | .error cause => .error (.overflow cause)

/-- Runs a query over the collections. -/
def evaluate (q : Query) (records : Records) (ctx : Context) : Except EvaluationError Output := do
  let links := Links.of records
  let selected ← (Clause.select q.filters ctx (records.ofDomain q.domain)).mapError .overflow
  let rows := selected.map (Row.withRelated links q.directives)
  let rows ← Row.measureAll links q ctx rows
  let columns ← (q.directives.outputColumns q.domain).mapError .invalid
  let rows := Row.sorted q.directives.sort (rows.map (·.withCells columns))
  return {
    domain := q.domain
    columns
    view := q.directives.view.getD .list
    rows
    groups := q.directives.group.map (Group.gather · rows) }

/-! ### Checked sums -/

end Agenda
