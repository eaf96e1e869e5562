import Std.Data.HashMap
import Agenda.Query.Due
import Agenda.Record.Basic

/-!
# Links and metrics

What is found and computed for a record from the other records: the records that it leads to, and
numbers that are counted and added up over them.
-/

namespace Agenda

/-! ## Links between records

The records that a record leads to. An index is built once from the collections, and every step from
record to record is then a look-up in it:

* a task leads to its project (by name) and to the time logs with its number;
* a project leads to the tasks and to the time logs with its name;
* a time log leads to its project (by name) and to its task (by number).

Names are compared exactly. Where a step leads to one record, the last one with the name or number
counts; where it leads to many, they come in the order of their collection. -/

/-- The collections indexed by what points at them. -/
structure Links where
  taskById : Std.HashMap UInt32 Task
  projectByName : Std.HashMap String Project
  tasksByProject : Std.HashMap String (List Task)
  logsByTask : Std.HashMap UInt32 (List TimeLog)
  logsByProject : Std.HashMap String (List TimeLog)

namespace Links

/-- Puts a value in front of those that share its key. -/
def pushFront {α β : Type} [BEq α] [Hashable α] (key : α) (value : β)
    (m : Std.HashMap α (List β)) : Std.HashMap α (List β) :=
  m.insert key (value :: m.getD key [])

/-- The values of a list under their keys, each bucket in the order of the list. -/
def bucket {α β : Type} [BEq α] [Hashable α] (key : β → Option α) (values : List β) :
    Std.HashMap α (List β) :=
  values.foldr (fun v m => match key v with
    | some k => pushFront k v m
    | none => m) ∅

/-- The values of a list under their keys; of two values with one key the later counts. -/
def latest {α β : Type} [BEq α] [Hashable α] (key : β → α) (values : List β) : Std.HashMap α β :=
  values.foldl (fun m v => m.insert (key v) v) ∅

/-- The index of the collections. -/
def of (records : Records) : Links where
  taskById := latest (·.id) records.tasks
  projectByName := latest (·.name) records.projects
  tasksByProject := bucket (fun t => some t.project) records.tasks
  logsByTask := bucket (·.taskId) records.timeLogs
  logsByProject := bucket (fun l => some l.project) records.timeLogs

/-- The time logs of a task. -/
def logsOfTask (links : Links) (t : Task) : List TimeLog :=
  links.logsByTask.getD t.id []

/-- The tasks of the project with the given name. -/
def tasksOfProject (links : Links) (name : String) : List Task :=
  links.tasksByProject.getD name []

/-- The time logs of the project with the given name. -/
def logsOfProject (links : Links) (name : String) : List TimeLog :=
  links.logsByProject.getD name []

/-- The records that a record leads to through a relation; none if it has no such relation. -/
def related (links : Links) (record : Record) (relation : String) : List Record :=
  match record, relation with
  | .task t, "project" => (links.projectByName[t.project]?).toList.map .project
  | .task t, "time" => (links.logsOfTask t).map .timeLog
  | .project p, "tasks" => (links.tasksOfProject p.name).map .task
  | .project p, "time" => (links.logsOfProject p.name).map .timeLog
  | .timeLog l, "project" => (links.projectByName[l.project]?).toList.map .project
  | .timeLog l, "tasks" => (l.taskId.bind (links.taskById[·]?)).toList.map .task
  | _, _ => []

end Links

/-! ## Metrics

Numbers that are computed for a record from the records it leads to.

| of a task | |
|---|---|
| `time_today`, `time_week`, `time_month` | minutes logged on the task in that window |
| `overdue_days` | days since the due date of an overdue task, otherwise 0 |

| of a project | |
|---|---|
| `task_count`, `overdue_task_count` | tasks of the project, and those that are overdue |
| `time_week`, `time_month` | the sum of that metric over the tasks of the project |

Minutes are added up in 64 bits. A sum that leaves them wraps around, or, where the program is built
to check its sums, breaks off; so it is asked of a metric as well whether any of its sums does. -/

/-- The number of days by which a task is overdue. -/
def Task.overdueDays (t : Task) (today : Date) : Int :=
  match t.due with
  | some due => if t.isOverdue today then max 0 (today.dayNumber - due.dayNumber) else 0
  | none => 0

/-! ### Sums of 64 bits -/

/-- The sum of some numbers, from the first one on, with what leaves 64 bits wrapped around. -/
def total (numbers : List Int) : Int :=
  (numbers.foldl (fun sum n => sum + Int64.ofInt n) 0).toInt

/-- The minutes of each log that is dated in a window. -/
def datedMinutes (logs : List TimeLog) (w : Window) : List Int :=
  (logs.filter fun l => w.contains l.date).map fun l => (l.minutes.toNat : Int)

/-- The minutes of the logs that are dated in a window. -/
def minutesIn (logs : List TimeLog) (w : Window) : Int :=
  total (datedMinutes logs w)

/-! ### Gauges -/

/-- What metrics are computed against: the index, and the windows around today. -/
structure Gauge where
  links : Links
  today : Date
  week : Window

namespace Gauge

/-- The gauge for a context; it needs the week of today. -/
def of (links : Links) (ctx : Context) : Except WeekOverflow Gauge :=
  match Window.week? ctx.today with
  | some week => .ok ⟨links, ctx.today, week⟩
  | none => .error .weekLeavesCalendar

/-- A metric of a task. -/
def ofTask (g : Gauge) (t : Task) (metric : String) : Option Int :=
  match metric with
  | "time_today" => some (minutesIn (g.links.logsOfTask t) (.day g.today))
  | "time_week" => some (minutesIn (g.links.logsOfTask t) g.week)
  | "time_month" => some (minutesIn (g.links.logsOfTask t) (.month g.today))
  | "overdue_days" => some (t.overdueDays g.today)
  | _ => none

/-- The minutes logged in a window on the tasks of a project. -/
def projectMinutes (g : Gauge) (p : Project) (w : Window) : Int :=
  total ((g.links.tasksOfProject p.name).map fun t => minutesIn (g.links.logsOfTask t) w)

/-- A metric of a project. -/
def ofProject (g : Gauge) (p : Project) (metric : String) : Option Int :=
  match metric with
  | "task_count" => some (g.links.tasksOfProject p.name).length
  | "overdue_task_count" =>
    some ((g.links.tasksOfProject p.name).countP (·.isOverdue g.today))
  | "time_week" => some (g.projectMinutes p g.week)
  | "time_month" => some (g.projectMinutes p (.month g.today))
  | _ => none

/-- A metric of a record; none if it has no such metric. -/
def measure (g : Gauge) (record : Record) (metric : String) : Option Int :=
  match record with
  | .task t => g.ofTask t metric
  | .project p => g.ofProject p metric
  | .timeLog _ => none

/-! ### Sums that leave 64 bits -/

end Gauge

end Agenda
