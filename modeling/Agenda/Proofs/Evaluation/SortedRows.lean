import Agenda.Proofs.Evaluation.Order

/-!
# The rows of an output

An evaluation that succeeds gives the records that satisfy every clause, each once, sorted by the
chain of keys. Rows that no key tells apart keep the order of the collection, and where the keys
before it do not decide, a key puts the rows without a value behind all others, whichever way it
sorts.

Main results:
  * `Row.pairwise_nulls_last` — sorted rows have absent values at the end, key by key;
  * `rows_sorted_stably` — the rows of every evaluation that succeeds.
-/

namespace Agenda

/-! ## §1. Chains of keys -/

/-- A present value stands before an absent one. -/
theorem Value.compareIn_eq_gt_of_isNull {direction : Direction} {v w : Value}
    (hv : v.isNull = true) (hw : w.isNull = false) : compareIn direction v w = .gt := by
  unfold compareIn
  rw [hv, hw]

namespace Row

theorem compareBy_append (a b : Row) (keys keys' : List SortKey) :
    compareBy a b (keys ++ keys') = (compareBy a b keys).then (compareBy a b keys') := by
  induction keys with
  | nil => rfl
  | cons key rest ih => rw [List.cons_append, compareBy, compareBy, ih, Ordering.then_assoc]

/-- Where the keys before it do not decide, a key puts absent values at the end. -/
theorem pairwise_nulls_last {rows : List Row} {before after : List SortKey} {key : SortKey}
    (h : rows.Pairwise fun a b => compareBy a b (before ++ key :: after) ≠ .gt) :
    rows.Pairwise fun a b => compareBy a b before = .eq →
      (a.value key.field).isNull = true → (b.value key.field).isNull = true := by
  refine h.imp fun {a b} hab hbefore hnull => ?_
  rw [compareBy_append, hbefore] at hab
  by_contra hpresent
  have hgt : Value.compareIn key.direction (a.value key.field) (b.value key.field) = .gt :=
    Value.compareIn_eq_gt_of_isNull hnull (Bool.eq_false_iff.2 hpresent)
  apply hab
  show (Value.compareIn key.direction (a.value key.field) (b.value key.field)).then _ = .gt
  rw [hgt]
  rfl

/-! ## §2. Sorted rows -/

variable {domain : Domain} {rows : List Row} {keys : List SortKey}

theorem sorted_perm : (sorted keys rows).Perm rows :=
  List.mergeSort_perm _ _

/-- Without keys nothing is moved. -/
theorem sorted_nil (rows : List Row) : sorted [] rows = rows :=
  List.mergeSort_of_pairwise (List.pairwise_of_forall fun _ _ => rfl)

theorem pairwise_sorted_rows (hrows : ∀ row ∈ rows, row.Regular domain) :
    (sorted keys rows).Pairwise fun a b => compareBy a b keys ≠ .gt :=
  pairwise_sorted (compareBy · · keys) hrows

theorem filter_sorted_rows (hrows : ∀ row ∈ rows, row.Regular domain) {a : Row}
    (ha : a.Regular domain) :
    (sorted keys rows).filter (fun b => compareBy a b keys = .eq) =
      rows.filter fun b => compareBy a b keys = .eq :=
  filter_sorted (compareBy · · keys) hrows ha

theorem sorted_filter_rows (hrows : ∀ row ∈ rows, row.Regular domain) (p : Row → Bool) :
    sorted keys (rows.filter p) = (sorted keys rows).filter p :=
  sorted_filter (compareBy · · keys) hrows p

end Row

/-! ## §3. The rows of an evaluation -/

namespace Query

variable {q : Query} {records : Records} {ctx : Context} {columns : List String}

theorem regular_of_mem_rows {row : Row} (h : row ∈ q.rows records ctx columns) :
    row.Regular q.domain := by
  obtain ⟨record, hrecord, rfl⟩ := List.mem_map.1 h
  have hdomain : record.domain = q.domain :=
    Records.domain_of_mem_ofDomain (List.mem_filter.1 hrecord).1
  exact (Row.regular_ofRecord hdomain).withCells columns

/-- The rows of an output are those of records of the domain. -/
theorem domain_of_mem_rows {out : Output} (h : evaluate q records ctx = .ok out) {row : Row}
    (hrow : row ∈ out.rows) : row.record.domain = q.domain := by
  obtain ⟨columns, -, rfl⟩ := evaluate_eq_ok h
  exact (regular_of_mem_rows (Row.sorted_perm.mem_iff.1 hrow)).domain_eq

theorem map_record_rows : (q.rows records ctx columns).map (·.record) =
    (records.ofDomain q.domain).filter (q.Selects ctx) := by
  unfold rows
  rw [List.map_map]
  exact List.map_id _

end Query

/-- **THE ROWS ARE SORTED STABLY**: whatever the query, if its evaluation succeeds, the records of
the rows are those of the domain that satisfy every clause; no row is greater under the chain of
keys than one behind it; rows that tie on every key are in the order of the collection; and among
rows that tie on the keys before it, every key, ascending or descending, has the rows without a
value at the end. -/
theorem rows_sorted_stably {q : Query} {records : Records} {ctx : Context} {out : Output}
    (h : evaluate q records ctx = .ok out) :
    (out.rows.map (·.record)).Perm ((records.ofDomain q.domain).filter (q.Selects ctx)) ∧
      out.rows.Pairwise (fun a b => Row.compareBy a b q.directives.sort ≠ .gt) ∧
      (∀ a ∈ out.rows, ((out.rows.filter fun b => Row.compareBy a b q.directives.sort = .eq).map
        (·.record)).Sublist (records.ofDomain q.domain)) ∧
      ∀ before key after, q.directives.sort = before ++ key :: after →
        out.rows.Pairwise fun a b => Row.compareBy a b before = .eq →
          (a.value key.field).isNull = true → (b.value key.field).isNull = true := by
  obtain ⟨columns, -, rfl⟩ := evaluate_eq_ok h
  dsimp only
  have hregular : ∀ row ∈ q.rows records ctx columns, row.Regular q.domain :=
    fun _ => Query.regular_of_mem_rows
  have hperm : (Row.sorted q.directives.sort (q.rows records ctx columns)).Perm
      (q.rows records ctx columns) := Row.sorted_perm
  have hpairwise : (Row.sorted q.directives.sort (q.rows records ctx columns)).Pairwise
      fun a b => Row.compareBy a b q.directives.sort ≠ .gt := Row.pairwise_sorted_rows hregular
  refine ⟨?_, hpairwise, ?_, ?_⟩
  · have hrecords := hperm.map (·.record)
    rwa [Query.map_record_rows] at hrecords
  · intro a ha
    rw [Row.filter_sorted_rows hregular (hregular a (hperm.mem_iff.1 ha))]
    -- the rows are in the order of the collection, and so is each part of them
    have hsub : ((q.rows records ctx columns).map (·.record)).Sublist
        (records.ofDomain q.domain) := by
      rw [Query.map_record_rows]
      exact List.filter_sublist
    exact (List.filter_sublist.map _).trans hsub
  · intro before key after hkeys
    rw [hkeys] at hpairwise ⊢
    exact Row.pairwise_nulls_last hpairwise

/-- Tasks with and without a due date, two of them the same, under keys that no compiled query has:
a relation that is not followed, and a name that does not exist. -/
theorem rows_sorted_stably_odd_keys :
    let today : Date := ⟨2024, 3, 13, by decide, by decide, by decide⟩
    let dated : Task := { Task.new 1 "write" "home" with due := some today }
    let records : Records :=
      ⟨[.new 3 "call" "work", dated, .new 2 "read" "Home", dated, (Task.new 4 "rest" "").finished],
        [], []⟩
    let q : Query := {
      domain := .task
      filters := [.status "pending"]
      directives := {
        columns := some []
        sort := [⟨"time", .ascending⟩, ⟨"due", .descending⟩, ⟨"nothing", .descending⟩] } }
    ∃ out, evaluate q records ⟨today, .nextYear⟩ = .ok out ∧
      (out.rows.map (·.record)).Perm
        ((records.ofDomain q.domain).filter (q.Selects ⟨today, .nextYear⟩)) ∧
      out.rows.Pairwise (fun a b => Row.compareBy a b q.directives.sort ≠ .gt) ∧
      (∀ a ∈ out.rows, ((out.rows.filter fun b => Row.compareBy a b q.directives.sort = .eq).map
        (·.record)).Sublist (records.ofDomain q.domain)) ∧
      ∀ before key after, q.directives.sort = before ++ key :: after →
        out.rows.Pairwise fun a b => Row.compareBy a b before = .eq →
          (a.value key.field).isNull = true → (b.value key.field).isNull = true := by
  intro today dated records q
  obtain ⟨out, hout⟩ : ∃ out, evaluate q records ⟨today, .nextYear⟩ = .ok out := ⟨_, rfl⟩
  exact ⟨out, hout, rows_sorted_stably hout⟩

end Agenda
