import Agenda.Evaluation.Evaluate
import Agenda.Proofs.Names
import Agenda.Proofs.Outcomes

/-!
# The stages of an evaluation that succeeds

What the stages make of the records, put together: the records of the domain that satisfy every
clause, each turned into a row of its own, and the rows sorted. What a row holds depends on its
record and on the collections, never on the other rows.

Main results:
  * `Clause.select_eq_ok` — filtering keeps the records that satisfy every clause, in order;
  * `evaluate_eq_ok` — the output of an evaluation that succeeds.
-/

namespace Agenda

/-! ## §1. Filtering -/

theorem Records.domain_of_mem_ofDomain {records : Records} {r : Record} {domain : Domain}
    (h : r ∈ records.ofDomain domain) : r.domain = domain := by
  cases domain with
  | task => obtain ⟨t, _, rfl⟩ := List.mem_map.1 h; rfl
  | project => obtain ⟨p, _, rfl⟩ := List.mem_map.1 h; rfl
  | timeLog => obtain ⟨l, _, rfl⟩ := List.mem_map.1 h; rfl

/-- Whether a record satisfies every clause of a query. -/
def Query.Selects (q : Query) (ctx : Context) (record : Record) : Prop :=
  ∀ clause ∈ q.filters, clause.holds record ctx = .ok true

instance (q : Query) (ctx : Context) : DecidablePred (q.Selects ctx) := fun record =>
  inferInstanceAs (Decidable (∀ clause ∈ q.filters, clause.holds record ctx = .ok true))

namespace Clause

variable {ctx : Context}

/-- A record is kept exactly if it satisfies every clause, also those that are not tried. -/
theorem allHold_eq_ok {record : Record} : ∀ {clauses : List Clause} {kept : Bool},
    allHold record ctx clauses = .ok kept →
      (kept = true ↔ ∀ clause ∈ clauses, clause.holds record ctx = .ok true)
  | [], kept, h => by
    obtain rfl : true = kept := Except.ok.inj h
    simp
  | clause :: rest, kept, h => by
    obtain ⟨first, hfirst, h⟩ := bind_eq_ok.1 h
    rw [List.forall_mem_cons, hfirst]
    cases first with
    | true => simpa using allHold_eq_ok h
    | false =>
      -- the rest is not tried, and may fail
      obtain rfl : false = kept := Except.ok.inj h
      simp

/-- Filtering keeps the records that satisfy every clause, in order. -/
theorem select_eq_ok {q : Query} : ∀ {records selected : List Record},
    select q.filters ctx records = .ok selected → selected = records.filter (q.Selects ctx)
  | [], selected, h => (Except.ok.inj h).symm
  | record :: rest, selected, h => by
    obtain ⟨kept, hkept, h⟩ := bind_eq_ok.1 h
    obtain ⟨others, hothers, h⟩ := bind_eq_ok.1 h
    obtain rfl : (if kept then record :: others else others) = selected := Except.ok.inj h
    have hselects : kept = true ↔ q.Selects ctx record := allHold_eq_ok hkept
    rw [select_eq_ok hothers, List.filter_cons]
    by_cases hkept : kept = true
    · rw [if_pos hkept, if_pos (by simpa using hselects.1 hkept)]
    · rw [if_neg hkept, if_neg (by simpa using mt hselects.2 hkept)]

end Clause

/-! ## §2. Rows -/

/-- Metrics can be measured on every day whose week lies in the calendar. -/
theorem Gauge.of_eq_ok {links : Links} {ctx : Context} {week : Window}
    (hweek : Window.week? ctx.today = some week) :
    Gauge.of links ctx = .ok ⟨links, ctx.today, week⟩ := by
  unfold Gauge.of
  rw [hweek]

/-- The metric of a record in a context; none where there is no week to measure in. -/
def Context.measure (ctx : Context) (links : Links) (record : Record) (metric : String) :
    Option Int :=
  match Gauge.of links ctx with
  | .ok g => g.measure record metric
  | .error _ => none

namespace Row

/-- The row of a record, before its columns are known: with the metrics and related records that are
asked for. -/
def ofRecord (links : Links) (ctx : Context) (d : Directives) (record : Record) : Row :=
  { record
    metrics := d.metrics.toList.map fun m => (m, .ofOption .int (ctx.measure links record m))
    related := d.relations.toList.map fun r => (r, links.related record r)
    cells := [] }

section

variable {links : Links} {ctx : Context} {d : Directives} {record : Record} {name : String}

theorem lookup_metrics_ofRecord : (ofRecord links ctx d record).metrics.lookup name =
    if name ∈ d.metrics then some (.ofOption .int (ctx.measure links record name)) else none :=
  lookup_map_self

theorem lookup_related_ofRecord : (ofRecord links ctx d record).related.lookup name =
    if name ∈ d.relations then some (links.related record name) else none :=
  lookup_map_self

end

/-- Every row has the metrics that are asked for. -/
theorem measureAll_eq_ok {links : Links} {q : Query} {ctx : Context} {records : List Record}
    {rows : List Row}
    (h : measureAll links q ctx (records.map (withRelated links q.directives)) = .ok rows) :
    rows = records.map (ofRecord links ctx q.directives) := by
  unfold measureAll at h
  split at h
  · cases h
  · by_cases hempty : q.directives.metrics.isEmpty = true
    · rw [if_pos hempty] at h
      obtain rfl := Except.ok.inj h
      -- nothing is measured then, and no metrics are what a row of its record has
      have hnil : q.directives.metrics.toList = [] := List.isEmpty_iff.1 hempty
      refine List.map_congr_left fun record _ => ?_
      unfold withRelated ofRecord
      rw [hnil]
      rfl
    · rw [if_neg hempty] at h
      split at h
      next g hg =>
        obtain rfl := Except.ok.inj h
        rw [List.map_map]
        refine List.map_congr_left fun record _ => ?_
        unfold ofRecord Context.measure
        rw [hg]
        rfl
      next => cases h

end Row

/-! ## §3. The output -/

/-- The rows of a query over some records, in the order of the collection. -/
def Query.rows (q : Query) (records : Records) (ctx : Context) (columns : List String) : List Row :=
  ((records.ofDomain q.domain).filter (q.Selects ctx)).map fun record =>
    (Row.ofRecord (.of records) ctx q.directives record).withCells columns

/-- **The output of an evaluation that succeeds.** -/
theorem evaluate_eq_ok {q : Query} {records : Records} {ctx : Context} {out : Output}
    (h : evaluate q records ctx = .ok out) :
    ∃ columns, q.directives.outputColumns q.domain = .ok columns ∧
      out = {
        domain := q.domain
        columns
        view := q.directives.view.getD .list
        rows := Row.sorted q.directives.sort (q.rows records ctx columns)
        groups := q.directives.group.map
          (Group.gather · (Row.sorted q.directives.sort (q.rows records ctx columns))) } := by
  obtain ⟨selected, hselected, h⟩ := bind_eq_ok.1 h
  obtain ⟨rows, hrows, h⟩ := bind_eq_ok.1 h
  obtain ⟨columns, hcolumns, h⟩ := bind_eq_ok.1 h
  obtain rfl := Clause.select_eq_ok (mapError_eq_ok.1 hselected)
  obtain rfl := Row.measureAll_eq_ok hrows
  refine ⟨columns, mapError_eq_ok.1 hcolumns, ?_⟩
  rw [List.map_map] at h
  exact (Except.ok.inj h).symm

theorem outputColumns_of_evaluate {q : Query} {records : Records} {ctx : Context} {out : Output}
    (h : evaluate q records ctx = .ok out) :
    q.directives.outputColumns q.domain = .ok out.columns := by
  obtain ⟨columns, hcolumns, rfl⟩ := evaluate_eq_ok h
  exact hcolumns

end Agenda
