import Agenda.Calendar.DateText
import Agenda.Files.Basic
import Agenda.Json.Reader
import Agenda.Record.Basic

/-!
# Records in files

The form in which records are kept as JSON, and the files that hold them.
-/

namespace Agenda

/-! ## Records as JSON

How records are written, and how they are read. All fields are written, in their order; when
reading, what may be absent may also be left out. -/

/-- Reads a date. -/
def Date.ofJson? (j : Json) : Option Date :=
  j.toText?.bind (DateForm.read? .spaced)

/-- Writes a date. -/
def Date.toJson (d : Date) : Json :=
  .text d.text

/-- Reads the level of a priority. -/
def Priority.ofJson? (j : Json) : Option Priority :=
  j.toWord?.bind fun n => Priority.ofLevel? n.toNat

/-- Writes the level of a priority. -/
def Priority.toJson (p : Priority) : Json :=
  .num p.level

namespace TaskStatus

/-- The status with a name. -/
def ofName? (name : String) : Option TaskStatus :=
  match name with
  | "pending" => some .pending
  | "done" => some .done
  | _ => none

end TaskStatus

namespace ProjectStatus

/-- The status with a name. -/
def ofName? (name : String) : Option ProjectStatus :=
  match name with
  | "active" => some .active
  | "archived" => some .archived
  | _ => none

end ProjectStatus

/-- Writes a number of 32 bits. -/
def wordJson (n : UInt32) : Json :=
  .num n.toNat

namespace Task

/-- The names of the fields, in order. -/
def fieldNames : List String :=
  ["id", "text", "project", "priority", "due", "status", "tags"]

/-- Reads a task. -/
def ofJson? (j : Json) : Option Task := do
  match ← j.toFields? fieldNames with
  | [id, text, project, priority, due, status, tags] =>
    return {
      id := ← Json.required? Json.toWord? id
      text := ← Json.required? Json.toText? text
      project := ← Json.required? Json.toText? project
      priority := ← Json.required? Priority.ofJson? priority
      due := ← Json.defaulted? (Json.orNull? Date.ofJson?) none due
      status := ← Json.required? (Json.toChoice? TaskStatus.ofName?) status
      tags := .ofList (← Json.defaulted? (Json.toList? Json.toText?) [] tags) }
  | _ => none

/-- Writes a task. -/
def toJson (t : Task) : Json :=
  .object [
    ("id", wordJson t.id),
    ("text", .text t.text),
    ("project", .text t.project),
    ("priority", t.priority.toJson),
    ("due", .ofOption Date.toJson t.due),
    ("status", .text t.status.name),
    ("tags", .texts t.tags.toList)]

end Task

namespace Project

/-- The names of the fields, in order. -/
def fieldNames : List String := ["name", "description", "status"]

/-- Reads a project. -/
def ofJson? (j : Json) : Option Project := do
  match ← j.toFields? fieldNames with
  | [name, description, status] =>
    return {
      name := ← Json.required? Json.toText? name
      description := ← Json.defaulted? (Json.orNull? Json.toText?) none description
      status := ← Json.defaulted? (Json.toChoice? ProjectStatus.ofName?) .active status }
  | _ => none

/-- Writes a project. -/
def toJson (p : Project) : Json :=
  .object [
    ("name", .text p.name),
    ("description", .ofOption .text p.description),
    ("status", .text p.status.name)]

end Project

namespace TimeLog

/-- The names of the fields, in order. -/
def fieldNames : List String := ["id", "project", "task_id", "date", "minutes", "note"]

/-- Reads a time log. -/
def ofJson? (j : Json) : Option TimeLog := do
  match ← j.toFields? fieldNames with
  | [id, project, taskId, date, minutes, note] =>
    return {
      id := ← Json.required? Json.toWord? id
      project := ← Json.required? Json.toText? project
      taskId := ← Json.defaulted? (Json.orNull? Json.toWord?) none taskId
      date := ← Json.required? Date.ofJson? date
      minutes := ← Json.required? Json.toWord? minutes
      note := ← Json.defaulted? (Json.orNull? Json.toText?) none note }
  | _ => none

/-- Writes a time log. -/
def toJson (l : TimeLog) : Json :=
  .object [
    ("id", wordJson l.id),
    ("project", .text l.project),
    ("task_id", .ofOption wordJson l.taskId),
    ("date", l.date.toJson),
    ("minutes", wordJson l.minutes),
    ("note", .ofOption .text l.note)]

end TimeLog

/-- Writes a record of any domain. -/
def Record.toJson : Record → Json
  | .task t => t.toJson
  | .project p => p.toJson
  | .timeLog l => l.toJson

/-! ## Loading

The three collections come from three files of one directory, each a list of records. A file that is
not there holds no records; the first file that cannot be read, in the order tasks, projects, time
logs, is reported. -/

namespace Records

/-- The file that holds the records of a domain. -/
def fileName : Domain → String
  | .task => "tasks.json"
  | .project => "projects.json"
  | .timeLog => "timelogs.json"

end Records

/-- What can go wrong with a record file. -/
inductive LoadError
  /-- It cannot be opened. -/
  | io (domain : Domain)
  /-- It does not hold a list of records. -/
  | parse (domain : Domain)
deriving DecidableEq

namespace Records

/-- Reads the records of one file. -/
def loadList {α : Type} (decode : Json → Option α) (domain : Domain) :
    Option Entry → Except LoadError (List α)
  | none => .ok []
  | some .unopenable => .error (.io domain)
  | some .directory => .error (.parse domain)
  | some (.file text) =>
    match (Json.read? text).bind (Json.toList? decode) with
    | some records => .ok records
    | none => .error (.parse domain)

/-- Reads the collections from what stands at the places of their files. -/
def load (entry : Domain → Option Entry) : Except LoadError Records := do
  let tasks ← loadList Task.ofJson? .task (entry .task)
  let projects ← loadList Project.ofJson? .project (entry .project)
  let timeLogs ← loadList TimeLog.ofJson? .timeLog (entry .timeLog)
  return { tasks, projects, timeLogs }

/-- The text of a file with the given records. -/
def fileText {α : Type} (encode : α → Json) (records : List α) : String :=
  (Json.list (records.map encode)).print

end Records

end Agenda
