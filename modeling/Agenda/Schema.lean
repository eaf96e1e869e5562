import Agenda.Record.Basic

/-!
# Schemas

What each domain offers to a query: its stored fields, computed metrics, relations to other records,
default columns, fields to group by, status values and filter families. Every name in a query is
looked up in these tables, and the lists of valid options in messages are read off them.
-/

namespace Agenda

/-- A family of filters. -/
inductive FilterKind
  | project
  | priority
  | due
  | status
  | tag
  | text
deriving DecidableEq

/-- The name of a filter family in data. -/
def FilterKind.name : FilterKind → String
  | .project => "project"
  | .priority => "priority"
  | .due => "due"
  | .status => "status"
  | .tag => "tag"
  | .text => "text"

/-- The tables of one domain. -/
structure Schema where
  fields : List String
  metrics : List String
  relations : List String
  defaultColumns : List String
  groupable : List String
  statuses : List String
  filters : List FilterKind

namespace Schema

/-- What tasks offer. -/
def task : Schema where
  fields := ["id", "text", "project", "priority", "due", "status", "tags"]
  metrics := ["time_today", "time_week", "time_month", "overdue_days"]
  relations := ["project", "time"]
  defaultColumns := ["id", "text", "project", "priority", "due", "status"]
  groupable := ["project", "priority", "due", "status"]
  statuses := ["pending", "done"]
  filters := [.project, .priority, .due, .status, .tag, .text]

/-- What projects offer. -/
def project : Schema where
  fields := ["name", "description", "status"]
  metrics := ["task_count", "overdue_task_count", "time_week", "time_month"]
  relations := ["tasks", "time"]
  defaultColumns := ["name", "status", "description"]
  groupable := ["status"]
  statuses := ["active", "archived"]
  filters := [.project, .status, .text]

/-- What time logs offer. -/
def timeLog : Schema where
  fields := ["id", "project", "task_id", "date", "minutes", "note"]
  metrics := []
  relations := ["project", "tasks"]
  defaultColumns := ["id", "date", "project", "task_id", "minutes", "note"]
  groupable := ["project", "task_id", "date"]
  statuses := []
  filters := [.project, .text]

/-- Every name that a column may have, each once, in the order of the tables. -/
def columns (s : Schema) : List String :=
  (s.fields ++ s.metrics ++ s.relations).eraseDups

/-- Every name that rows can be sorted by. -/
def sortable (s : Schema) : List String :=
  s.fields ++ s.metrics

/-- Whether the domain accepts filters of the family. -/
def allows (s : Schema) (kind : FilterKind) : Bool :=
  s.filters.contains kind

end Schema

/-- The tables of a domain. -/
def Domain.schema : Domain → Schema
  | .task => .task
  | .project => .project
  | .timeLog => .timeLog

/-- The domains whose tables satisfy a condition, in their usual order. -/
def Domain.allWhere (p : Schema → Bool) : List Domain :=
  Domain.all.filter fun d => p d.schema

end Agenda
