import Mathlib.Data.List.Forall2
import Agenda.Proofs.Evaluation.Outcome
import Agenda.Proofs.Evaluation.SortedRows

/-!
# What stands in the cells

The value of a row under a name is looked up in three places, and a name that is found in none of
them has no value, without an error. For a compiled query this never happens: a column or sort key
that is a metric has been asked for, and so has a column that is only a relation, so that the value
under it has been computed.

Main results:
  * `Gauge.measure_ne_none` — every metric of a domain is computed for every record of it;
  * `Row.value_field`, `Row.value_metric`, `Row.value_relation` — the three places of a value;
  * `compiled_cells` — the cells of every row of a compiled query.
-/

namespace Agenda

/-! ## §1. The tables -/

theorem Schema.mem_columns {s : Schema} {name : String} :
    name ∈ s.columns ↔ name ∈ s.fields ∨ name ∈ s.metrics ∨ name ∈ s.relations := by
  unfold columns
  rw [List.mem_eraseDups, List.mem_append, List.mem_append, or_assoc]

namespace Domain

theorem relation_not_metric (domain : Domain) :
    ∀ r ∈ domain.schema.relations, r ∉ domain.schema.metrics := by
  cases domain <;> decide

theorem defaultColumns_ne_nil (domain : Domain) : domain.schema.defaultColumns ≠ [] := by
  cases domain <;> decide

theorem defaultColumns_mem_fields (domain : Domain) :
    ∀ c ∈ domain.schema.defaultColumns, c ∈ domain.schema.fields := by
  cases domain <;> decide

end Domain

/-- Every metric of a domain is computed for every record of it. -/
theorem Gauge.measure_ne_none (g : Gauge) (r : Record) {metric : String}
    (h : metric ∈ r.domain.schema.metrics) : ∃ n, g.measure r metric = some n := by
  cases r with
  | task t =>
    simp only [Record.domain, Domain.schema, Schema.task, List.mem_cons, List.not_mem_nil,
      or_false] at h
    rcases h with rfl | rfl | rfl | rfl <;> exact ⟨_, rfl⟩
  | project p =>
    simp only [Record.domain, Domain.schema, Schema.project, List.mem_cons, List.not_mem_nil,
      or_false] at h
    rcases h with rfl | rfl | rfl | rfl <;> exact ⟨_, rfl⟩
  | timeLog l => cases h

/-! ## §2. The value of a row -/

namespace Row

section

variable {row : Row} {name : String}

theorem value_field (h : name ∈ row.record.domain.schema.fields) :
    row.value name = row.record.field name := if_pos h

theorem value_metric {v : Value} (hfield : name ∉ row.record.domain.schema.fields)
    (h : row.metrics.lookup name = some v) : row.value name = v := by
  unfold value
  rw [if_neg hfield, h]

theorem value_relation {records : List Record}
    (hfield : name ∉ row.record.domain.schema.fields) (hmetric : row.metrics.lookup name = none)
    (h : row.related.lookup name = some records) : row.value name = .int records.length := by
  unfold value
  rw [if_neg hfield, hmetric, h]
  rfl

end

variable {links : Links} {ctx : Context} {d : Directives} {record : Record} {name : String}

/-- The value of a metric that has been asked for is the number that is measured. -/
theorem value_asked_metric {g : Gauge} (hg : Gauge.of links ctx = .ok g)
    (hmetric : name ∈ record.domain.schema.metrics) (hasked : name ∈ d.metrics) :
    ∃ n, g.measure record name = some n ∧ (ofRecord links ctx d record).value name = .int n := by
  obtain ⟨n, hn⟩ := g.measure_ne_none record hmetric
  have hmeasure : ctx.measure links record name = some n := by
    unfold Context.measure
    rw [hg]
    exact hn
  have hlookup : (ofRecord links ctx d record).metrics.lookup name = some (.int n) := by
    rw [lookup_metrics_ofRecord, if_pos hasked, hmeasure]
    rfl
  exact ⟨n, hn, value_metric (Domain.metric_not_field _ name hmetric) hlookup⟩

/-- The value of a relation that has been asked for is the number of related records. -/
theorem value_asked_relation (hmetrics : ∀ m ∈ d.metrics, m ∈ record.domain.schema.metrics)
    (hrelation : name ∈ record.domain.schema.relations)
    (hfield : name ∉ record.domain.schema.fields) (hasked : name ∈ d.relations) :
    (ofRecord links ctx d record).value name = .int (links.related record name).length := by
  have hmetric : (ofRecord links ctx d record).metrics.lookup name = none := by
    rw [lookup_metrics_ofRecord, if_neg]
    -- no table has a relation among its metrics
    exact fun h => Domain.relation_not_metric _ name hrelation (hmetrics name h)
  have hrelated : (ofRecord links ctx d record).related.lookup name =
      some (links.related record name) := by
    rw [lookup_related_ofRecord, if_pos hasked]
  exact value_relation hfield hmetric hrelated

end Row

/-! ## §3. Columns -/

/-- The columns of an output are columns of the domain, whatever the query asks for. -/
theorem Directives.mem_columns_of_outputColumns {d : Directives} {domain : Domain}
    {columns : List String} (h : d.outputColumns domain = .ok columns) :
    ∀ column ∈ columns, column ∈ domain.schema.columns := by
  have hdefault : ∀ column ∈ domain.schema.defaultColumns, column ∈ domain.schema.columns :=
    fun column hcolumn => Schema.mem_columns.2 (.inl (domain.defaultColumns_mem_fields _ hcolumn))
  unfold outputColumns at h
  split at h
  next =>
    obtain rfl := Except.ok.inj h
    exact hdefault
  next asked hasked =>
    split at h
    next => cases h
    next hnone =>
      obtain rfl := Except.ok.inj h
      split
      · exact hdefault
      · simpa using hnone

/-- A column of the output is one that the query asks for, or a stored field. -/
theorem Directives.WellFormed.mem_outputColumns {d : Directives} {domain : Domain}
    {columns : List String} (hd : d.WellFormed domain.schema)
    (h : d.outputColumns domain = .ok columns) :
    columns ≠ [] ∧ ∀ c ∈ columns, c ∈ d.columns.getD [] ∨ c ∈ domain.schema.fields := by
  unfold outputColumns at h
  split at h
  next =>
    obtain rfl := Except.ok.inj h
    exact ⟨domain.defaultColumns_ne_nil, fun c hc => .inr (domain.defaultColumns_mem_fields c hc)⟩
  next asked hasked =>
    -- a directive without columns does not compile
    have hne : asked ≠ [] := fun hnil => hd.columns_ne_nil (hasked.trans (congrArg some hnil))
    split at h
    next => cases h
    next =>
      rw [if_neg hne] at h
      obtain rfl := Except.ok.inj h
      refine ⟨hne, fun c hc => .inl ?_⟩
      rw [hasked]
      exact hc

/-- What stands in the cell of a column: the stored field, or else the metric, or else the number of
related records. -/
structure Row.CellOf (records : Records) (g : Gauge) (record : Record) (column : String)
    (cell : Value) : Prop where
  field : column ∈ record.domain.schema.fields → cell = record.field column
  metric : column ∈ record.domain.schema.metrics →
    ∃ n, g.measure record column = some n ∧ cell = .int n
  relation : column ∈ record.domain.schema.relations → column ∉ record.domain.schema.fields →
    cell = .int ((Links.of records).related record column).length

theorem Row.cellOf_value {records : Records} {ctx : Context} {g : Gauge} {d : Directives}
    {record : Record} {column : String} (hg : Gauge.of (.of records) ctx = .ok g)
    (hd : d.WellFormed record.domain.schema)
    (hcolumn : column ∈ d.columns.getD [] ∨ column ∈ record.domain.schema.fields) :
    CellOf records g record column ((ofRecord (.of records) ctx d record).value column) where
  field hfield := value_field hfield
  metric hmetric := by
    rcases hcolumn with hcolumn | hfield
    · -- a column that is a metric has been asked for with it
      exact value_asked_metric hg hmetric (hd.column_metric column hcolumn hmetric)
    · exact absurd hfield (Domain.metric_not_field _ column hmetric)
  relation hrelation hfield := by
    have hmetric : column ∉ record.domain.schema.metrics :=
      Domain.relation_not_metric _ column hrelation
    have hcolumn : column ∈ d.columns.getD [] := hcolumn.resolve_right hfield
    exact value_asked_relation hd.metrics_mem hrelation hfield
      (hd.column_relation column hcolumn hfield hmetric hrelation)

/-! ## §4. Compiled queries -/

/-- Whether a row is shown by an output, among its rows or in one of its groups. -/
def Output.Shows (out : Output) (row : Row) : Prop :=
  row ∈ out.rows ∨ ∃ groups, out.groups = some groups ∧ ∃ group ∈ groups, row ∈ group.rows

/-- Groups have no rows of their own. -/
theorem Group.mem_of_mem_gather {field : String} {rows : List Row} {group : Group} {row : Row}
    (hgroup : group ∈ gather field rows) (h : row ∈ group.rows) : row ∈ rows := by
  obtain ⟨key, _, rfl⟩ := List.mem_map.1 hgroup
  exact (List.mem_filter.1 h).1

/-- Whatever row an output shows, it is one of its rows, made from a record of the domain. -/
theorem exists_record_of_shows {q : Query} {records : Records} {ctx : Context} {out : Output}
    (h : evaluate q records ctx = .ok out) {row : Row} (hrow : out.Shows row) :
    ∃ record ∈ records.ofDomain q.domain,
      row = (Row.ofRecord (.of records) ctx q.directives record).withCells out.columns := by
  obtain ⟨columns, -, rfl⟩ := evaluate_eq_ok h
  have hrow : row ∈ Row.sorted q.directives.sort (q.rows records ctx columns) := by
    rcases hrow with hrow | ⟨groups, hgroups, group, hgroup, hrow⟩
    · exact hrow
    · obtain ⟨field, _, rfl⟩ := Option.map_eq_some_iff.1 hgroups
      exact Group.mem_of_mem_gather hgroup hrow
  obtain ⟨record, hrecord, rfl⟩ := List.mem_map.1 (Row.sorted_perm.mem_iff.1 hrow)
  exact ⟨record, (List.mem_filter.1 hrecord).1, rfl⟩

/-- Two rows with numbers under a name are in the order of these numbers. -/
theorem Row.compareBy_of_int {a b : Row} {key : SortKey} {m n : Int}
    (ha : a.value key.field = .int m) (hb : b.value key.field = .int n) :
    compareBy a b [key] = match key.direction with
      | .ascending => compare m n
      | .descending => compare n m := by
  unfold compareBy
  rw [ha, hb, compareBy, Ordering.then_eq]
  cases key.direction with
  | ascending => rfl
  | descending =>
    have hswap : compare n m = (compare m n).swap := Std.OrientedCmp.eq_swap
    exact hswap.symm

namespace Query.WellFormed

variable {q : Query} {records : Records} {ctx : Context} {g : Gauge} {out : Output}

/-- The columns of a well-formed query are there, and they are columns of the domain. -/
theorem columns_valid (hq : q.WellFormed) (h : evaluate q records ctx = .ok out) :
    out.columns ≠ [] ∧ ∀ c ∈ out.columns, c ∈ q.domain.schema.columns := by
  obtain ⟨hne, -⟩ := hq.directives.mem_outputColumns (outputColumns_of_evaluate h)
  exact ⟨hne, Directives.mem_columns_of_outputColumns (outputColumns_of_evaluate h)⟩

/-- The cells of a well-formed query hold what belongs to their columns, one for each. -/
theorem cells_computed (hq : q.WellFormed) (hg : Gauge.of (.of records) ctx = .ok g)
    (h : evaluate q records ctx = .ok out) {row : Row} (hrow : out.Shows row) :
    row.record.domain = q.domain ∧
      List.Forall₂ (Row.CellOf records g row.record) out.columns row.cells := by
  obtain ⟨record, hrecord, rfl⟩ := exists_record_of_shows h hrow
  obtain ⟨-, hmem⟩ := hq.directives.mem_outputColumns (outputColumns_of_evaluate h)
  have hdomain : record.domain = q.domain := Records.domain_of_mem_ofDomain hrecord
  refine ⟨hdomain, List.forall₂_map_right_iff.2 (List.forall₂_same.2 fun column hcolumn => ?_)⟩
  have hcolumn := hmem column hcolumn
  have hd := hq.directives
  rw [← hdomain] at hcolumn hd
  exact Row.cellOf_value hg hd hcolumn

/-- The value under a sort key that is a metric is the number that is measured. -/
theorem sort_value_measured (hq : q.WellFormed) (hg : Gauge.of (.of records) ctx = .ok g)
    (h : evaluate q records ctx = .ok out) {key : SortKey} (hkey : key ∈ q.directives.sort)
    (hmetric : key.field ∈ q.domain.schema.metrics) {row : Row} (hrow : row ∈ out.rows) :
    ∃ n, g.measure row.record key.field = some n ∧ row.value key.field = .int n := by
  have hasked : key.field ∈ q.directives.metrics := hq.directives.sort_metric key hkey hmetric
  obtain ⟨record, hrecord, rfl⟩ := exists_record_of_shows h (.inl hrow)
  rw [← Records.domain_of_mem_ofDomain hrecord] at hmetric
  exact Row.value_asked_metric hg hmetric hasked

end Query.WellFormed

/-- **EVERY CELL IS COMPUTED**: on a day whose week lies in the calendar, a text that compiles is
answered with its defaults; the output has columns, all of them of the domain; every row that it
shows, in a group or not, has one cell for each column, which is the stored field, or the number
that is measured, or the number of related records; and a sort key that is a metric orders the rows
by the numbers that are measured. -/
theorem compiled_cells {text : String} {q : Query} (h : compileText text = .ok (.ready q))
    (records : Records) {ctx : Context} {week : Window}
    (hweek : Window.week? ctx.today = some week) :
    ∃ g out, Gauge.of (.of records) ctx = .ok g ∧ evaluate q.withDefaults records ctx = .ok out ∧
      out.columns ≠ [] ∧ (∀ c ∈ out.columns, c ∈ q.domain.schema.columns) ∧
      (∀ row, out.Shows row → row.record.domain = q.domain ∧
        List.Forall₂ (Row.CellOf records g row.record) out.columns row.cells) ∧
      ∀ key ∈ q.withDefaults.directives.sort, key.field ∈ q.domain.schema.metrics →
        ∀ a ∈ out.rows, ∀ b ∈ out.rows, ∃ m n, g.measure a.record key.field = some m ∧
          g.measure b.record key.field = some n ∧
          Row.compareBy a b [key] = match key.direction with
            | .ascending => compare m n
            | .descending => compare n m := by
  have hq : q.withDefaults.WellFormed := (Query.WellFormed.of_compileText h).withDefaults
  have hg : Gauge.of (.of records) ctx = .ok ⟨.of records, ctx.today, week⟩ := Gauge.of_eq_ok hweek
  obtain ⟨out, hout⟩ := hq.exists_output records hweek
  obtain ⟨hne, hvalid⟩ := hq.columns_valid hout
  refine ⟨_, out, hg, hout, hne, hvalid, fun row hrow => hq.cells_computed hg hout hrow, ?_⟩
  intro key hkey hmetric a ha b hb
  obtain ⟨m, hm, ha⟩ := hq.sort_value_measured hg hout hkey hmetric ha
  obtain ⟨n, hn, hb⟩ := hq.sort_value_measured hg hout hkey hmetric hb
  exact ⟨m, n, hm, hn, Row.compareBy_of_int ha hb⟩

/-- A column that is a field and a relation, one that is only a relation, a metric that is only a
column, one that is only a sort key, and groups. -/
theorem compiled_cells_mixed :
    let today : Date := ⟨2024, 3, 13, by decide, by decide, by decide⟩
    let records : Records := {
      tasks := [.new 1 "write" "home", .new 2 "call" "work", .new 3 "read" "home"]
      projects := [⟨"home", none, .active⟩]
      timeLogs := [⟨1, "home", some 1, today, 30, none⟩, ⟨2, "home", some 3, today, 5, none⟩] }
    let q : Query := {
      domain := .task
      directives := {
        columns := some ["project", "time", "time_today"]
        sort := [⟨"time_week", .descending⟩]
        metrics := .ofList ["time_today", "time_week"]
        relations := .ofList ["time"]
        group := some "project" } }
    ∃ g out, Gauge.of (.of records) ⟨today, .nextYear⟩ = .ok g ∧
      evaluate q.withDefaults records ⟨today, .nextYear⟩ = .ok out ∧
      out.columns ≠ [] ∧ (∀ c ∈ out.columns, c ∈ q.domain.schema.columns) ∧
      (∀ row, out.Shows row → row.record.domain = q.domain ∧
        List.Forall₂ (Row.CellOf records g row.record) out.columns row.cells) ∧
      ∀ key ∈ q.withDefaults.directives.sort, key.field ∈ q.domain.schema.metrics →
        ∀ a ∈ out.rows, ∀ b ∈ out.rows, ∃ m n, g.measure a.record key.field = some m ∧
          g.measure b.record key.field = some n ∧
          Row.compareBy a b [key] = match key.direction with
            | .ascending => compare m n
            | .descending => compare n m :=
  @compiled_cells "tasks cols:project,time,time_today sort:time_week- group:project" _
    (by decide +kernel) _ ⟨_, .nextYear⟩
    ⟨⟨2024, 3, 11, by decide, by decide, by decide⟩, ⟨2024, 3, 17, by decide, by decide, by decide⟩⟩
    (by decide +kernel)

end Agenda
