import Agenda.Calendar.Date
import Agenda.Names
import Agenda.Text.Basic

/-!
# Records

The three collections that a query can run over: tasks, projects and time logs. Tasks and time logs
point at projects by name, and a time log may point at a task by its number; nothing enforces that
the other record exists or is the only one of its name.
-/

namespace Agenda

/-- The collection that a query runs over. -/
inductive Domain
  | task
  | project
  | timeLog
deriving DecidableEq

namespace Domain

/-- All domains, in the order in which messages list them. -/
def all : List Domain := [.task, .project, .timeLog]

/-- The words that name a domain at the start of a query. -/
def keywords : List String :=
  ["tasks", "task", "projects", "project", "timelogs", "timelog"]

/-- The domain that a keyword names, in any case. -/
def ofKeyword? (word : String) : Option Domain :=
  match Text.lower word with
  | "tasks" | "task" => some .task
  | "projects" | "project" => some .project
  | "timelogs" | "timelog" => some .timeLog
  | _ => none

/-- The name of the domain in messages. -/
def plural : Domain → String
  | .task => "tasks"
  | .project => "projects"
  | .timeLog => "timelogs"

/-- The name of the domain in data. -/
def tag : Domain → String
  | .task => "task"
  | .project => "project"
  | .timeLog => "timelog"

end Domain

/-- The importance of a task, from 1 (most important) to 3. -/
structure Priority where
  level : Nat
  level_range : 1 ≤ level ∧ level ≤ 3
deriving DecidableEq

namespace Priority

/-- The priority of the given level, if there is one. -/
def ofLevel? (level : Nat) : Option Priority :=
  if h : 1 ≤ level ∧ level ≤ 3 then some ⟨level, h⟩ else none

/-- The priority whose level is nearest to the given number. -/
def clamp (level : Nat) : Priority :=
  ⟨max 1 (min level 3), by omega⟩

/-- The priority of a task for which none is given. -/
def usual : Priority := ⟨2, by decide⟩

/-- The written priority, such as `p1`. -/
def text (p : Priority) : String :=
  "p" ++ toString p.level

/-- The message for a level outside the range. -/
def outOfRange (level : Nat) : String :=
  "priority must be 1..3, got " ++ toString level

/-- Priorities are ordered by importance: level 1 is the greatest. -/
instance : Ord Priority := ⟨fun a b => compare b.level a.level⟩

end Priority

/-- Whether a task is still to be done. -/
inductive TaskStatus
  | pending
  | done
deriving DecidableEq

/-- The name of the status in data and in queries. -/
def TaskStatus.name : TaskStatus → String
  | .pending => "pending"
  | .done => "done"

/-- Whether a project is still worked on. -/
inductive ProjectStatus
  | active
  | archived
deriving DecidableEq

/-- The name of the status in data and in queries. -/
def ProjectStatus.name : ProjectStatus → String
  | .active => "active"
  | .archived => "archived"

/-- A unit of work. -/
structure Task where
  id : UInt32
  text : String
  project : String
  priority : Priority
  due : Option Date
  status : TaskStatus
  tags : NameSet
deriving DecidableEq

namespace Task

/-- A pending task of usual priority, without due date and tags. -/
def new (id : UInt32) (text project : String) : Task :=
  { id, text, project, priority := .usual, due := none, status := .pending, tags := ∅ }

/-- The task with the priority whose level is nearest to the given number. -/
def withPriority (t : Task) (level : Nat) : Task :=
  { t with priority := .clamp level }

/-- The task with a due date. -/
def withDue (t : Task) (due : Date) : Task :=
  { t with due := some due }

/-- The task with one more tag. -/
def withTag (t : Task) (tag : String) : Task :=
  { t with tags := t.tags.insert tag }

/-- The task, done. -/
def finished (t : Task) : Task :=
  { t with status := .done }

/-- Whether the task has a tag, up to ASCII case. -/
def hasTag (t : Task) (tag : String) : Bool :=
  t.tags.toList.any (Text.sameFolded · tag)

/-- Whether the task is pending and was due before today. -/
def isOverdue (t : Task) (today : Date) : Bool :=
  match t.status, t.due with
  | .pending, some due => decide (due < today)
  | _, _ => false

end Task

/-- A named container of tasks and time logs. -/
structure Project where
  name : String
  description : Option String
  status : ProjectStatus
deriving DecidableEq

/-- Minutes spent on a project, and perhaps on one task, on a date. -/
structure TimeLog where
  id : UInt32
  project : String
  taskId : Option UInt32
  date : Date
  minutes : UInt32
  note : Option String
deriving DecidableEq

/-- A record of any domain. -/
inductive Record
  | task (task : Task)
  | project (project : Project)
  | timeLog (log : TimeLog)
deriving DecidableEq

/-- The domain of a record. -/
def Record.domain : Record → Domain
  | .task _ => .task
  | .project _ => .project
  | .timeLog _ => .timeLog

/-- The three collections. -/
structure Records where
  tasks : List Task
  projects : List Project
  timeLogs : List TimeLog
deriving DecidableEq

namespace Records

instance : Inhabited Records := ⟨⟨[], [], []⟩⟩

/-- The records of a domain, in the order of the collection. -/
def ofDomain (records : Records) : Domain → List Record
  | .task => records.tasks.map .task
  | .project => records.projects.map .project
  | .timeLog => records.timeLogs.map .timeLog

/-- The number of records in all collections. -/
def size (records : Records) : Nat :=
  records.tasks.length + records.projects.length + records.timeLogs.length

end Records

end Agenda
