import Agenda.Query.Due
import Agenda.Record.Basic
import Agenda.Text.Basic

/-!
# Queries

A query in its compiled form: the domain it runs over, the clauses that a record must satisfy, and
the directives that shape the output. The tokens that a query is compiled from stand here as well.
-/

namespace Agenda

/-- A comparison of priority levels. -/
inductive Comparison
  | eq
  | lt
  | le
  | gt
  | ge
deriving DecidableEq

namespace Comparison

/-- The comparison that a sign stands for; no sign at all is equality. -/
def ofSign? (sign : String) : Option Comparison :=
  match sign with
  | "" | "=" | "==" => some .eq
  | "<" => some .lt
  | "<=" => some .le
  | ">" => some .gt
  | ">=" => some .ge
  | _ => none

/-- The sign of the comparison. -/
def sign : Comparison → String
  | .eq => "="
  | .lt => "<"
  | .le => "<="
  | .gt => ">"
  | .ge => ">="

/-- Whether the comparison holds between two levels, as numbers. -/
def holds (c : Comparison) (a b : Nat) : Bool :=
  match c with
  | .eq => a == b
  | .lt => decide (a < b)
  | .le => decide (a ≤ b)
  | .gt => decide (a > b)
  | .ge => decide (a ≥ b)

end Comparison

/-- A condition on a record. -/
inductive Clause
  | project (name : String)
  | priority (comparison : Comparison) (level : Nat)
  | priorityRange (lo hi : Nat)
  | due (due : Due)
  | overdue
  | status (name : String)
  | tag (name : String) (negated : Bool)
  | text (term : String)
deriving DecidableEq

/-- Whether the clause is about the due date. -/
def Clause.isAboutDue : Clause → Bool
  | due _ | overdue => true
  | _ => false

/-- Whether the clause is about the priority. -/
def Clause.isAboutPriority : Clause → Bool
  | priority _ _ | priorityRange _ _ => true
  | _ => false

/-- A direction of sorting. -/
inductive Direction
  | ascending
  | descending
deriving DecidableEq

/-- One key of a sort chain. -/
structure SortKey where
  field : String
  direction : Direction
deriving DecidableEq

/-- How the output wants to be shown. -/
inductive View
  | list
  | kanban
deriving DecidableEq

namespace View

/-- The names of the views. -/
def names : List String := ["list", "kanban"]

/-- The view that a name stands for, in any case. -/
def ofName? (name : String) : Option View :=
  match Text.lower name with
  | "list" => some .list
  | "kanban" => some .kanban
  | _ => none

/-- The name of the view. -/
def name : View → String
  | .list => "list"
  | .kanban => "kanban"

end View

/-- What a query says about its output. -/
structure Directives where
  /-- The columns, or none for those of the domain. -/
  columns : Option (List String) := none
  /-- The sort keys, the weightiest first. -/
  sort : List SortKey := []
  /-- The metrics to compute. -/
  metrics : NameSet := ∅
  /-- The relations to follow. -/
  relations : NameSet := ∅
  /-- The field to group by. -/
  group : Option String := none
  /-- The view, or none where nothing has been said. -/
  view : Option View := none
  /-- The name to store the text of the query under. -/
  save : Option String := none
deriving DecidableEq

instance : Inhabited Directives := ⟨{}⟩

/-- A compiled query. -/
structure Query where
  domain : Domain
  filters : List Clause := []
  directives : Directives := {}
deriving DecidableEq

namespace Query

/-- The query with one more condition. -/
def addFilter (q : Query) (clause : Clause) : Query :=
  { q with filters := q.filters ++ [clause] }

/-- The query with one more sort key behind those it has. -/
def addSortKey (q : Query) (key : SortKey) : Query :=
  { q with directives := { q.directives with sort := q.directives.sort ++ [key] } }

end Query

/-! ## Priority expressions

What may follow the `p` of a priority word: a range `A..B`, or a number with an optional comparison
sign in front. All numbers are levels from 1 to 3, written with any number of leading zeros. -/

namespace PriorityExpression

/-- The level that a numeral spells. -/
def level? (cs : List Char) : Option Nat :=
  match Decimal.value? cs with
  | some n => (Priority.ofLevel? n).map (·.level)
  | none => none

/-- Splits a comparison sign off a text; a text without a sign asks for equality. -/
def comparison : List Char → Comparison × List Char
  | '<' :: '=' :: cs => (.le, cs)
  | '>' :: '=' :: cs => (.ge, cs)
  | '<' :: cs => (.lt, cs)
  | '>' :: cs => (.gt, cs)
  | '=' :: cs => (.eq, cs)
  | cs => (.eq, cs)

/-- Reads `A..B` with `A` not above `B`. -/
def range? (cs : List Char) : Option Clause :=
  match cs.dropWhile Char.isDigit with
  | '.' :: '.' :: rest => do
    let lo ← level? (cs.takeWhile Char.isDigit)
    let hi ← level? rest
    if lo ≤ hi then some (.priorityRange lo hi) else none
  | _ => none

/-- Reads a level behind an optional comparison sign. -/
def compared? (cs : List Char) : Option Clause :=
  let (comparison, rest) := comparison cs
  (level? rest).map (.priority comparison)

/-- The clause that a text spells. -/
def read? (s : String) : Option Clause :=
  range? s.toList <|> compared? s.toList

end PriorityExpression

/-! ## Tokens

The words of a query after they have been classified. -/

/-- What a word of a query says. -/
inductive TokenKind
  /-- The domain, as the first word. -/
  | domain (domain : Domain)
  /-- A project: `@name`. -/
  | projectRef (name : String)
  /-- A condition on the priority: what follows the `p`. -/
  | priorityExpr (expr : String)
  /-- A condition on the due date: what follows `due:`. -/
  | dateExpr (expr : String)
  /-- The word `overdue`. -/
  | overdue
  /-- A status: what follows `status:`. -/
  | statusExpr (value : String)
  /-- A tag, `#name`, or the absence of one, `-#name`. -/
  | tagExpr (tag : String) (negated : Bool)
  /-- A word or phrase to search for. -/
  | textTerm (term : String)
  /-- A directive, `key:value,value`, with the key in lower case. -/
  | directive (name : String) (values : List String)
deriving DecidableEq

/-- A classified word. -/
structure Token where
  kind : TokenKind
  /-- The word as it was written, quotes included. -/
  raw : String
  /-- The byte offset of the word in the text of the query. -/
  position : Nat
deriving DecidableEq

end Agenda
