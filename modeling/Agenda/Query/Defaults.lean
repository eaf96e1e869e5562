import Agenda.Query.Basic

/-!
# Defaults

Directives that follow from the filters where the query says nothing: a query about due dates or
priorities is sorted by them, and one grouped by status is shown as a board. Each rule looks at what
the query says, never at what another rule has filled in.
-/

namespace Agenda

/-- The sort keys that the filters ask for. -/
def defaultSort (filters : List Clause) : List SortKey :=
  (if filters.any Clause.isAboutDue then [⟨"due", .ascending⟩] else []) ++
    (if filters.any Clause.isAboutPriority then [⟨"priority", .descending⟩] else [])

/-- The directives with everything filled in that the query leaves open. -/
def Directives.withDefaults (d : Directives) (filters : List Clause) : Directives :=
  { d with
    sort := if d.sort = [] then defaultSort filters else d.sort
    view := if d.view = none ∧ d.group = some "status" then some .kanban else d.view }

/-- The query with everything filled in that it leaves open. -/
def Query.withDefaults (q : Query) : Query :=
  { q with directives := q.directives.withDefaults q.filters }

/-! ## What filling in keeps -/

namespace Directives

/-- Whether directives say all that others say, and the same about it. -/
structure Keeps (d given : Directives) : Prop where
  columns : d.columns = given.columns
  sort : given.sort ≠ [] → d.sort = given.sort
  metrics : d.metrics = given.metrics
  relations : d.relations = given.relations
  group : d.group = given.group
  view : given.view ≠ none → d.view = given.view
  save : d.save = given.save

variable (d : Directives) (filters : List Clause)

theorem keeps_withDefaults : (d.withDefaults filters).Keeps d where
  columns := rfl
  sort hsort := if_neg hsort
  metrics := rfl
  relations := rfl
  group := rfl
  view hview := if_neg fun h => hview h.1
  save := rfl

/-- **Filling in once is enough.** -/
theorem withDefaults_idem : (d.withDefaults filters).withDefaults filters =
    d.withDefaults filters := by
  unfold withDefaults
  by_cases hsort : d.sort = [] <;>
    by_cases hview : d.view = none ∧ d.group = some "status" <;> simp [hsort, hview]

end Directives

end Agenda
