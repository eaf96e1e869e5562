import Agenda.Proofs.Query.Lexing
import Agenda.Proofs.Query.PriorityExpressions
import Agenda.Proofs.Query.Steps
import Agenda.Query.Defaults

/-!
# Well-formed queries

What compilation promises of a query: every clause belongs to a family that the domain accepts and
compares with values that occur, every name stands in the table that it is looked up in, and
whatever a column or a sort key needs to have a value has been asked for.

The promise is an invariant of compilation: the query that a domain word starts satisfies it, and
every token of a lexed text keeps it (`Query.addToken_wellFormed`). Defaults keep it too
(`Query.WellFormed.withDefaults`), because the families that bring a default sort key exist only
where that key can be sorted by.
-/

namespace Agenda

/-! ## §1. The invariant -/

/-- The family of filters that the clause belongs to. -/
def Clause.family : Clause → FilterKind
  | .project _ => .project
  | .priority _ _ | .priorityRange _ _ => .priority
  | .due _ | .overdue => .due
  | .status _ => .status
  | .tag _ _ => .tag
  | .text _ => .text

/-- The clause compares with values that occur: levels from 1 to 3, ranges that are not empty, and
statuses of the domain. -/
def Clause.HasValidValues (schema : Schema) : Clause → Prop
  | .priority _ level => 1 ≤ level ∧ level ≤ 3
  | .priorityRange lo hi => 1 ≤ lo ∧ lo ≤ hi ∧ hi ≤ 3
  | .status name => name ∈ schema.statuses
  | _ => True

/-- What compilation promises of a clause. -/
structure Clause.WellFormed (schema : Schema) (c : Clause) : Prop where
  allowed : schema.allows c.family = true
  values : c.HasValidValues schema

/-- Every name of the directives stands in its table, and what columns and sort keys need has been
asked for. -/
structure Directives.Resolved (schema : Schema) (d : Directives) : Prop where
  columns_nodup : (d.columns.getD []).Nodup
  columns_mem : ∀ c ∈ d.columns.getD [], c ∈ schema.columns
  sort_mem : ∀ key ∈ d.sort, key.field ∈ schema.sortable
  metrics_mem : ∀ m ∈ d.metrics, m ∈ schema.metrics
  relations_mem : ∀ r ∈ d.relations, r ∈ schema.relations
  group_mem : ∀ f, d.group = some f → f ∈ schema.groupable
  column_metric : ∀ c ∈ d.columns.getD [], c ∈ schema.metrics → c ∈ d.metrics
  sort_metric : ∀ key ∈ d.sort, key.field ∈ schema.metrics → key.field ∈ d.metrics
  column_relation : ∀ c ∈ d.columns.getD [],
    c ∉ schema.fields → c ∉ schema.metrics → c ∈ schema.relations → c ∈ d.relations

/-- What compilation promises of directives. -/
structure Directives.WellFormed (schema : Schema) (d : Directives) : Prop
    extends Directives.Resolved schema d where
  columns_ne_nil : d.columns ≠ some []

/-- What compilation promises of a query. -/
structure Query.WellFormed (q : Query) : Prop where
  filters : ∀ c ∈ q.filters, c.WellFormed q.domain.schema
  directives : q.directives.WellFormed q.domain.schema

/-! ## §2. The tables -/

namespace Domain

theorem metric_not_field (domain : Domain) :
    ∀ m ∈ domain.schema.metrics, m ∉ domain.schema.fields := by
  cases domain <;> decide

/-- Where records have a due date, they can be sorted by it. -/
theorem due_mem_fields {domain : Domain} (h : domain.schema.allows .due = true) :
    "due" ∈ domain.schema.fields := by
  cases domain <;> revert h <;> decide

/-- Only tasks have a due date. -/
theorem eq_task_of_allows_due {domain : Domain} (h : domain.schema.allows .due = true) :
    domain = .task := by
  cases domain <;> revert h <;> decide

/-- Where records have a priority, they can be sorted by it. -/
theorem priority_mem_fields {domain : Domain} (h : domain.schema.allows .priority = true) :
    "priority" ∈ domain.schema.fields := by
  cases domain <;> revert h <;> decide

end Domain

/-! ## §3. Clauses -/

theorem Clause.family_of_isAboutDue {c : Clause} (h : c.isAboutDue = true) : c.family = .due := by
  cases c with
  | due | overdue => rfl
  | _ => cases h

theorem Clause.family_of_isAboutPriority {c : Clause} (h : c.isAboutPriority = true) :
    c.family = .priority := by
  cases c with
  | priority | priorityRange => rfl
  | _ => cases h

namespace PriorityExpression

/-- A priority expression says a level or a range of levels, and nothing else. -/
theorem read?_valid {s : String} {c : Clause} (schema : Schema) (h : read? s = some c) :
    c.family = .priority ∧ c.HasValidValues schema := by
  rcases read?_eq_some_iff.1 h with h | ⟨_, h⟩
  · obtain ⟨as, bs, _, has, hbs, hle, rfl⟩ := range?_eq_some_iff.1 h
    exact ⟨rfl, has.one_le, hle, hbs.le_three⟩
  · obtain ⟨level, hlevel, rfl⟩ := Option.map_eq_some_iff.1 h
    obtain ⟨hspelled, rfl⟩ := level?_eq_some_iff.1 hlevel
    exact ⟨rfl, hspelled.one_le, hspelled.le_three⟩

end PriorityExpression

/-- A filter token states a clause of its own family, with values that occur. -/
theorem Token.clause_valid {domain : Domain} {t : Token} {kind : FilterKind} {c : Clause}
    (hkind : t.kind.filterKind? = some kind) (h : t.clause domain = .ok c) :
    c.family = kind ∧ c.HasValidValues domain.schema := by
  obtain ⟨tokenKind, raw, position⟩ := t
  cases tokenKind
  case domain | overdue | tagExpr | textTerm =>
    obtain rfl := Except.ok.inj h
    exact ⟨Option.some.inj hkind, trivial⟩
  case projectRef name =>
    simp only [Token.clause] at h
    split at h
    · cases h
    · obtain rfl := Except.ok.inj h
      exact ⟨Option.some.inj hkind, trivial⟩
  case priorityExpr expr =>
    simp only [Token.clause] at h
    split at h
    next hread =>
      obtain rfl := Except.ok.inj h
      obtain rfl := Option.some.inj hkind
      exact PriorityExpression.read?_valid _ hread
    next => cases h
  case dateExpr expr =>
    simp only [Token.clause] at h
    split at h
    next =>
      obtain rfl := Except.ok.inj h
      exact ⟨Option.some.inj hkind, trivial⟩
    next => cases h
  case statusExpr value =>
    obtain ⟨hmem, rfl⟩ := ite_eq_ok.1 h
    exact ⟨Option.some.inj hkind, hmem⟩
  case directive => cases hkind

/-! ## §4. Directives -/

namespace Directives

variable {domain : Domain} {d d' : Directives} {value : String}

/-- Nothing has been said yet. -/
theorem WellFormed.initial (schema : Schema) : ({} : Directives).WellFormed schema where
  columns_nodup := List.nodup_nil
  columns_mem := nofun
  sort_mem := nofun
  metrics_mem := nofun
  relations_mem := nofun
  group_mem := nofun
  column_metric := nofun
  sort_metric := nofun
  column_relation := nofun
  columns_ne_nil := nofun

/-- Asking for what a name needs keeps every name in its table. -/
theorem Resolved.imply {schema : Schema} (hd : d.Resolved schema) (name : String) :
    (d.imply schema name).Resolved schema := by
  constructor
  case columns_nodup =>
    rw [columns_imply]
    exact hd.columns_nodup
  case columns_mem =>
    rw [columns_imply]
    exact hd.columns_mem
  case sort_mem =>
    rw [sort_imply]
    exact hd.sort_mem
  case metrics_mem =>
    intro m hm
    rcases mem_metrics_imply.1 hm with hm | ⟨rfl, _, hm⟩
    · exact hd.metrics_mem m hm
    · exact hm
  case relations_mem =>
    intro r hr
    rcases mem_relations_imply.1 hr with hr | ⟨rfl, _, _, hr⟩
    · exact hd.relations_mem r hr
    · exact hr
  case group_mem =>
    rw [group_imply]
    exact hd.group_mem
  case column_metric =>
    intro c hc hm
    rw [columns_imply] at hc
    exact mem_metrics_imply.2 (.inl (hd.column_metric c hc hm))
  case sort_metric =>
    intro key hkey hm
    rw [sort_imply] at hkey
    exact mem_metrics_imply.2 (.inl (hd.sort_metric key hkey hm))
  case column_relation =>
    intro c hc hf hm hr
    rw [columns_imply] at hc
    exact mem_relations_imply.2 (.inl (hd.column_relation c hc hf hm hr))

theorem Resolved.addColumn (hd : d.Resolved domain.schema)
    (h : addColumn domain d value = .ok d') : d'.WellFormed domain.schema := by
  obtain ⟨hmem, rfl⟩ := addColumn_eq_ok.1 h
  generalize Text.lower value = name at hmem
  refine ⟨{ hd.imply name with
    columns_nodup := nodup_columnsWith hd.columns_nodup
    columns_mem := ?_
    column_metric := ?_
    column_relation := ?_ }, ?_⟩
  · intro c hc
    rcases mem_columnsWith.1 hc with hc | rfl
    · exact hd.columns_mem c hc
    · exact hmem
  · -- a new column that is a metric has just been asked for
    intro c hc hm
    apply mem_metrics_imply.2
    rcases mem_columnsWith.1 hc with hc | rfl
    · exact .inl (hd.column_metric c hc hm)
    · exact .inr ⟨rfl, domain.metric_not_field c hm, hm⟩
  · intro c hc hf hm hr
    apply mem_relations_imply.2
    rcases mem_columnsWith.1 hc with hc | rfl
    · exact .inl (hd.column_relation c hc hf hm hr)
    · exact .inr ⟨rfl, hf, hm, hr⟩
  · intro hnil
    have hin : name ∈ d.columnsWith name := mem_columnsWith.2 (.inr rfl)
    rw [Option.some.inj hnil] at hin
    cases hin

theorem WellFormed.addSortKey (hd : d.WellFormed domain.schema)
    (h : addSortKey domain d value = .ok d') : d'.WellFormed domain.schema := by
  obtain ⟨key, hkey, rfl⟩ := addSortKey_eq_ok.1 h
  obtain ⟨hmem, rfl⟩ := Domain.sortKey_eq_ok.1 hkey
  generalize Text.lower (splitDirection value).1 = name at hmem
  refine ⟨{ hd.toResolved.imply name with sort_mem := ?_, sort_metric := ?_ }, ?_⟩
  · intro key hkey
    rcases List.mem_append.1 hkey with hkey | hkey
    · exact hd.sort_mem key hkey
    · obtain rfl := List.mem_singleton.1 hkey
      exact hmem
  · -- a new key that is a metric has just been asked for
    intro key hkey hm
    apply mem_metrics_imply.2
    rcases List.mem_append.1 hkey with hkey | hkey
    · exact .inl (hd.sort_metric key hkey hm)
    · obtain rfl := List.mem_singleton.1 hkey
      exact .inr ⟨rfl, domain.metric_not_field name hm, hm⟩
  · rw [columns_imply]
    exact hd.columns_ne_nil

theorem WellFormed.addMetric (hd : d.WellFormed domain.schema)
    (h : addMetric domain d value = .ok d') : d'.WellFormed domain.schema := by
  obtain ⟨hmem, rfl⟩ := addMetric_eq_ok.1 h
  refine ⟨{ hd with metrics_mem := ?_, column_metric := ?_, sort_metric := ?_ }, hd.columns_ne_nil⟩
  · intro m hm
    rcases NameSet.mem_insert.1 hm with rfl | hm
    · exact hmem
    · exact hd.metrics_mem m hm
  · intro c hc hm
    exact NameSet.mem_insert.2 (.inr (hd.column_metric c hc hm))
  · intro key hkey hm
    exact NameSet.mem_insert.2 (.inr (hd.sort_metric key hkey hm))

theorem WellFormed.addRelation (hd : d.WellFormed domain.schema)
    (h : addRelation domain d value = .ok d') : d'.WellFormed domain.schema := by
  obtain ⟨hmem, rfl⟩ := addRelation_eq_ok.1 h
  refine ⟨{ hd with relations_mem := ?_, column_relation := ?_ }, hd.columns_ne_nil⟩
  · intro r hr
    rcases NameSet.mem_insert.1 hr with rfl | hr
    · exact hmem
    · exact hd.relations_mem r hr
  · intro c hc hf hm hr
    exact NameSet.mem_insert.2 (.inr (hd.column_relation c hc hf hm hr))

/-- A `cols:` token has a value, so the list of columns that it leaves is not empty. -/
theorem Resolved.addColumns {values : List String} (hne : values ≠ [])
    (hd : d.Resolved domain.schema)
    (h : values.foldlM (Directives.addColumn domain) d = .ok d') :
    d'.WellFormed domain.schema := by
  cases values with
  | nil => exact absurd rfl hne
  | cons v rest =>
    rw [List.foldlM_cons] at h
    obtain ⟨e, he, h⟩ := bind_eq_ok.1 h
    exact foldlM_preserves
      (fun _ _ _ _ hb hstep => Resolved.addColumn hb.toResolved hstep) (hd.addColumn he) h

/-- **Every directive of a lexed text keeps the invariant.** -/
theorem WellFormed.add {t : Token} {key : String} {values : List String}
    (hd : d.WellFormed domain.schema) (hvalues : (TokenKind.directive key values).WellFormed)
    (h : d.add domain t key values = .ok d') : d'.WellFormed domain.schema := by
  rcases add_cases h with ⟨_, h⟩ | ⟨_, h⟩ | ⟨_, h⟩ | ⟨_, h⟩ | ⟨_, _, v, field, k, _, hfield, rfl⟩ |
    ⟨_, _, v, view, k, _, _, rfl⟩ | ⟨_, _, v, k, _, rfl⟩
  · -- the loop over columns starts from a list that may be empty, which is only resolved
    have hstart : ({ d with columns := some (d.columns.getD []) } : Directives).Resolved
        domain.schema := { hd.toResolved with }
    exact hstart.addColumns hvalues.1 h
  · exact foldlM_preserves (fun _ _ _ _ hb hstep => hb.addSortKey hstep) hd h
  · exact foldlM_preserves (fun _ _ _ _ hb hstep => hb.addMetric hstep) hd h
  · exact foldlM_preserves (fun _ _ _ _ hb hstep => hb.addRelation hstep) hd h
  · obtain ⟨hmem, rfl⟩ := Domain.groupField_eq_ok.1 hfield
    refine ⟨{ hd.toResolved with group_mem := ?_ }, hd.columns_ne_nil⟩
    intro f hf
    obtain rfl := Option.some.inj hf
    exact hmem
  · exact ⟨{ hd.toResolved with }, hd.columns_ne_nil⟩
  · exact ⟨{ hd.toResolved with }, hd.columns_ne_nil⟩

end Directives

/-! ## §5. Queries -/

namespace Query

/-- **Every token of a lexed text keeps the invariant.** -/
theorem addToken_wellFormed {q q' : Query} {t : Token} (hq : q.WellFormed)
    (ht : t.kind.WellFormed) (h : q.addToken t = .ok q') :
    q'.WellFormed ∧ q'.domain = q.domain := by
  rcases addToken_cases h with ⟨kind, clause, hkind, hallows, hclause, rfl⟩ |
    ⟨key, values, d, hkey, hadd, rfl⟩
  · obtain ⟨rfl, hvalues⟩ := Token.clause_valid hkind hclause
    refine ⟨⟨?_, hq.directives⟩, rfl⟩
    intro c hc
    rcases List.mem_append.1 hc with hc | hc
    · exact hq.filters c hc
    · obtain rfl := List.mem_singleton.1 hc
      exact ⟨hallows, hvalues⟩
  · rw [hkey] at ht
    exact ⟨⟨hq.filters, hq.directives.add ht hadd⟩, rfl⟩

theorem ofTokens_wellFormed {domain : Domain} {tokens : List Token} {q : Query}
    (ht : ∀ t ∈ tokens, t.kind.WellFormed) (h : ofTokens domain tokens = .ok q) :
    q.WellFormed :=
  foldlM_preserves (fun t hmem _ _ hq hstep => (addToken_wellFormed hq (ht t hmem) hstep).1)
    ⟨fun _ hc => absurd hc List.not_mem_nil, .initial _⟩ h

/-- **The query that a text compiles to is well formed.** -/
theorem WellFormed.of_compileText {text : String} {q : Query}
    (h : compileText text = .ok (.ready q)) : q.WellFormed := by
  obtain ⟨domain, raw, position, rest, hlex, hq⟩ := compileText_ready h
  exact ofTokens_wellFormed (fun t ht => lex_wellFormed hlex t (List.mem_cons_of_mem _ ht)) hq

/-! ## §6. Defaults -/

/-- A default sort key is a stored field of the domain. -/
theorem WellFormed.defaultSort_mem {q : Query} (hq : q.WellFormed) :
    ∀ key ∈ defaultSort q.filters, key.field ∈ q.domain.schema.fields := by
  intro key hkey
  rcases List.mem_append.1 hkey with hkey | hkey
  · split at hkey
    next hdue =>
      obtain rfl := List.mem_singleton.1 hkey
      obtain ⟨c, hc, habout⟩ := List.any_eq_true.1 hdue
      have hallowed := (hq.filters c hc).allowed
      rw [Clause.family_of_isAboutDue habout] at hallowed
      exact Domain.due_mem_fields hallowed
    next => cases hkey
  · split at hkey
    next hpriority =>
      obtain rfl := List.mem_singleton.1 hkey
      obtain ⟨c, hc, habout⟩ := List.any_eq_true.1 hpriority
      have hallowed := (hq.filters c hc).allowed
      rw [Clause.family_of_isAboutPriority habout] at hallowed
      exact Domain.priority_mem_fields hallowed
    next => cases hkey

theorem mem_sort_withDefaults {q : Query} {key : SortKey}
    (h : key ∈ q.withDefaults.directives.sort) :
    key ∈ q.directives.sort ∨ key ∈ defaultSort q.filters := by
  have h : key ∈ if q.directives.sort = [] then defaultSort q.filters else q.directives.sort := h
  split at h
  · exact .inr h
  · exact .inl h

/-- **Defaults keep a query well formed.** -/
theorem WellFormed.withDefaults {q : Query} (hq : q.WellFormed) : q.withDefaults.WellFormed := by
  refine ⟨hq.filters, { hq.directives.toResolved with sort_mem := ?_, sort_metric := ?_ },
    hq.directives.columns_ne_nil⟩
  · intro key hkey
    rcases mem_sort_withDefaults hkey with hkey | hkey
    · exact hq.directives.sort_mem key hkey
    · exact List.mem_append_left _ (hq.defaultSort_mem key hkey)
  · intro key hkey hm
    rcases mem_sort_withDefaults hkey with hkey | hkey
    · exact hq.directives.sort_metric key hkey hm
    · -- a default key is a stored field, so it needs no metric
      exact absurd (hq.defaultSort_mem key hkey) (q.domain.metric_not_field _ hm)

end Query

end Agenda
