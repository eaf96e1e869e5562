import Agenda.Proofs.Evaluation.Grouping
import Agenda.Proofs.Evaluation.SortedRows

/-!
# Narrowing a query

One more clause leaves rows out and changes nothing else. What a row holds does not depend on the
other rows, a stable sort commutes with leaving rows out, and so does gathering, except that groups
can become empty and that the first row of a group can be one that is left out.

Main results:
  * `Query.rows_addFilter` — the rows of the narrowed query before they are sorted;
  * `Group.gather_filter_perm` — the groups of the rows that are left;
  * `evaluate_addFilter_ok` — a clause that can be decided breaks nothing off;
  * `narrowed_output` — the output of a query with one more clause, and a tag with its negation.
-/

namespace Agenda

/-! ## §1. Rows that satisfy a clause -/

/-- Whether the record of a row satisfies a clause. -/
def Clause.keeps (clause : Clause) (ctx : Context) (row : Row) : Bool :=
  decide (clause.holds row.record ctx = .ok true)

/-- Whether a row is that of a task with a tag. -/
def Row.hasTag (name : String) (row : Row) : Bool :=
  match row.record with
  | .task t => t.hasTag name
  | _ => false

namespace Query

variable {q : Query} {clause : Clause} {records : Records} {ctx : Context} {columns : List String}

theorem selects_addFilter {record : Record} : (q.addFilter clause).Selects ctx record ↔
    q.Selects ctx record ∧ clause.holds record ctx = .ok true := by
  unfold Selects addFilter
  rw [List.forall_mem_append, List.forall_mem_singleton]

/-- Before they are sorted, the rows are those of the query that satisfy the clause. -/
theorem rows_addFilter : (q.addFilter clause).rows records ctx columns =
    (q.rows records ctx columns).filter (clause.keeps ctx) := by
  unfold rows
  rw [List.filter_map, List.filter_filter]
  refine congrArg _ (List.filter_congr fun record _ => ?_)
  rw [decide_eq_decide.2 selects_addFilter, Bool.decide_and, Bool.and_comm]
  rfl

end Query

/-! ## §2. Groups of the rows that are left -/

namespace Group

/-- The group without the rows that do not satisfy a property. -/
def restrict (p : Row → Bool) (g : Group) : Group :=
  { g with rows := g.rows.filter p }

/-- The groups without the rows that do not satisfy a property; those that become empty are
dropped. -/
def narrow (p : Row → Bool) (groups : List Group) : List Group :=
  (groups.map (restrict p)).filter (·.rows ≠ [])

variable {field : String} {rows : List Row} {p : Row → Bool}

theorem mem_narrow_gather {g : Group} :
    g ∈ narrow p (gather field rows) ↔ g ∈ gather field (rows.filter p) := by
  unfold narrow
  rw [mem_gather, List.filter_comm, List.mem_filter, List.mem_map, decide_eq_true_iff, and_comm]
  refine and_congr_right fun hne => ?_
  constructor
  · rintro ⟨whole, hwhole, rfl⟩
    show whole.rows.filter p = _
    rw [(mem_gather.1 hwhole).2]
    rfl
  · intro hrows
    have hwhole : (rows.filter fun row => row.groupKey field == g.key) ≠ [] := by
      intro hnil
      rw [hnil] at hrows
      exact hne hrows
    refine ⟨⟨g.key, rows.filter fun row => row.groupKey field == g.key⟩,
      mem_gather.2 ⟨hwhole, rfl⟩, ?_⟩
    unfold restrict
    rw [← hrows]

theorem nodup_narrow_gather : (narrow p (gather field rows)).Nodup := by
  have hkeys : (((gather field rows).map (restrict p)).map (·.key)).Nodup := by
    rw [List.map_map]
    exact nodup_keys_gather
  exact (List.Nodup.of_map _ hkeys).filter _

/-- **The groups of the rows that are left** are the groups of all rows, narrowed; only their order
can be another. -/
theorem gather_filter_perm :
    (gather field (rows.filter p)).Perm (narrow p (gather field rows)) :=
  (List.perm_ext_iff_of_nodup (.of_map _ nodup_keys_gather) nodup_narrow_gather).2 fun _ =>
    mem_narrow_gather.symm

end Group

/-! ## §3. One more clause -/

section

variable {q : Query} {clause : Clause} {records : Records} {ctx : Context} {out out' : Output}

namespace Clause

theorem allHold_concat {record : Record} {kept : Bool}
    (hclause : clause.holds record ctx = .ok kept) : ∀ {clauses : List Clause} {before : Bool},
      allHold record ctx clauses = .ok before →
        allHold record ctx (clauses ++ [clause]) = .ok (before && kept)
  | [], before, h => by
    obtain rfl : true = before := Except.ok.inj h
    show (clause.holds record ctx >>= _) = _
    rw [hclause]
    cases kept <;> rfl
  | first :: rest, before, h => by
    obtain ⟨holds, hfirst, h⟩ := bind_eq_ok.1 h
    show (first.holds record ctx >>= _) = _
    rw [hfirst]
    cases holds with
    | true => exact allHold_concat hclause h
    | false =>
      obtain rfl : false = before := Except.ok.inj h
      rfl

/-- Where filtering succeeds, it succeeds with one more clause that can be decided. -/
theorem select_concat {clauses : List Clause} : ∀ {records selected : List Record},
    (∀ record ∈ records, ∃ kept, clause.holds record ctx = .ok kept) →
      select clauses ctx records = .ok selected →
        ∃ selected', select (clauses ++ [clause]) ctx records = .ok selected'
  | [], _, _, _ => ⟨[], rfl⟩
  | record :: rest, selected, hclause, h => by
    obtain ⟨before, hbefore, h⟩ := bind_eq_ok.1 h
    obtain ⟨others, hothers, _⟩ := bind_eq_ok.1 h
    obtain ⟨⟨kept, hkept⟩, hrest⟩ := List.forall_mem_cons.1 hclause
    obtain ⟨others', hothers'⟩ := select_concat hrest hothers
    exact ⟨_, bind_eq_ok.2 ⟨_, allHold_concat hkept hbefore, bind_eq_ok.2 ⟨_, hothers', rfl⟩⟩⟩

end Clause

/-- Whether the metrics can be measured does not depend on the rows. -/
theorem Row.measureAll_ok {links : Links} {rows rows' measured : List Row}
    (h : measureAll links q ctx rows = .ok measured) :
    ∃ measured', measureAll links q ctx rows' = .ok measured' := by
  unfold measureAll at h ⊢
  split at h
  next => cases h
  next =>
    by_cases hempty : q.directives.metrics.isEmpty = true
    · exact ⟨rows', if_pos hempty⟩
    · rw [if_neg hempty] at h ⊢
      split at h
      next => exact ⟨_, rfl⟩
      next => cases h

/-- **A clause that can be decided breaks nothing off.** -/
theorem evaluate_addFilter_ok
    (hclause : ∀ record ∈ records.ofDomain q.domain, ∃ kept, clause.holds record ctx = .ok kept)
    (h : evaluate q records ctx = .ok out) :
    ∃ out', evaluate (q.addFilter clause) records ctx = .ok out' := by
  obtain ⟨selected, hselected, h⟩ := bind_eq_ok.1 h
  obtain ⟨rows, hrows, h⟩ := bind_eq_ok.1 h
  obtain ⟨columns, hcolumns, _⟩ := bind_eq_ok.1 h
  obtain ⟨selected', hselected'⟩ := Clause.select_concat hclause (mapError_eq_ok.1 hselected)
  obtain ⟨rows', hrows'⟩ := Row.measureAll_ok hrows
  exact ⟨_, bind_eq_ok.2 ⟨selected', mapError_eq_ok.2 hselected',
    bind_eq_ok.2 ⟨rows', hrows', bind_eq_ok.2 ⟨columns, hcolumns, rfl⟩⟩⟩⟩

/-- An output that holds the rows of another one that satisfy a property, and the groups of the
other one, narrowed to these rows. -/
structure Output.Narrows (p : Row → Bool) (out out' : Output) : Prop where
  domain : out'.domain = out.domain
  columns : out'.columns = out.columns
  view : out'.view = out.view
  rows : out'.rows = out.rows.filter p
  groups : Option.Rel (fun groups groups' => groups'.Perm (Group.narrow p groups) ∧
    Group.InOrder out'.rows groups') out.groups out'.groups

/-- **One more clause** leaves out the rows that do not satisfy it. -/
theorem Query.narrows_addFilter (h : evaluate q records ctx = .ok out)
    (h' : evaluate (q.addFilter clause) records ctx = .ok out') :
    out.Narrows (clause.keeps ctx) out' := by
  obtain ⟨columns, hcolumns, rfl⟩ := evaluate_eq_ok h
  obtain ⟨columns', hcolumns', rfl⟩ := evaluate_eq_ok h'
  obtain rfl : columns = columns' := Except.ok.inj (hcolumns.symm.trans hcolumns')
  have hrows : Row.sorted q.directives.sort ((q.addFilter clause).rows records ctx columns) =
      (Row.sorted q.directives.sort (q.rows records ctx columns)).filter (clause.keeps ctx) := by
    rw [rows_addFilter, Row.sorted_filter_rows fun _ => regular_of_mem_rows]
  refine ⟨rfl, rfl, rfl, hrows, ?_⟩
  show Option.Rel _ (q.directives.group.map _) (q.directives.group.map _)
  cases q.directives.group with
  | none => exact .none
  | some field =>
    refine .some ⟨?_, Group.inOrder_gather⟩
    show (Group.gather field (Row.sorted q.directives.sort _)).Perm _
    rw [hrows]
    exact Group.gather_filter_perm

/-! ## §4. Tags -/

theorem Clause.keeps_tag {name : String} {negated : Bool} {row : Row}
    (hrow : row.record.domain = .task) :
    (Clause.tag name negated).keeps ctx row = (row.hasTag name != negated) := by
  unfold keeps Row.hasTag
  cases hrecord : row.record with
  | task t => simp only [holds, holdsForTask, Except.ok.injEq, Bool.decide_eq_true]
  | project | timeLog => simp [hrecord, Record.domain] at hrow

/-- Whether a task has a tag can always be decided. -/
theorem exists_output_tag (hdomain : q.domain = .task) (name : String) (negated : Bool)
    (h : evaluate q records ctx = .ok out) :
    ∃ out', evaluate (q.addFilter (.tag name negated)) records ctx = .ok out' ∧
      out'.rows = out.rows.filter fun row => row.hasTag name != negated := by
  have hclause : ∀ record ∈ records.ofDomain q.domain,
      ∃ kept, (Clause.tag name negated).holds record ctx = .ok kept := by
    rintro (t | p | l) _ <;> exact ⟨_, rfl⟩
  obtain ⟨out', hout'⟩ := evaluate_addFilter_ok hclause h
  refine ⟨out', hout', (q.narrows_addFilter h hout').rows.trans ?_⟩
  refine List.filter_congr fun row hrow => Clause.keeps_tag ?_
  rw [Query.domain_of_mem_rows h hrow, hdomain]

/-- **ONE MORE CLAUSE NARROWS THE OUTPUT**: whatever the query and the clause, if both evaluations
succeed, the rows with the clause are the rows without it that satisfy it, in the same order and
with everything that they hold; and the groups are the same groups cut down to these rows, without
those that become empty, in the order of the first row that is left. For tasks, a tag and its
negation both have an output then, and split the rows between them. -/
theorem narrowed_output (h : evaluate q records ctx = .ok out) :
    (∀ clause out', evaluate (q.addFilter clause) records ctx = .ok out' →
      out.Narrows (clause.keeps ctx) out') ∧
    (q.domain = .task → ∀ name, ∃ tagged untagged,
      evaluate (q.addFilter (.tag name false)) records ctx = .ok tagged ∧
      evaluate (q.addFilter (.tag name true)) records ctx = .ok untagged ∧
      tagged.rows = out.rows.filter (·.hasTag name) ∧
      untagged.rows = out.rows.filter (!·.hasTag name)) := by
  refine ⟨fun clause out' hout' => q.narrows_addFilter h hout', fun hdomain name => ?_⟩
  obtain ⟨tagged, htagged, hrows⟩ := exists_output_tag hdomain name false h
  obtain ⟨untagged, huntagged, hrows'⟩ := exists_output_tag hdomain name true h
  refine ⟨tagged, untagged, htagged, huntagged, ?_, ?_⟩
  · simpa using hrows
  · simpa using hrows'

end

/-- A clause that empties a group, and leaves out the row that put another group in front. -/
theorem narrowed_output_regrouped :
    let today : Date := ⟨2024, 3, 13, by decide, by decide, by decide⟩
    let ctx : Context := ⟨today, .nextYear⟩
    let records : Records :=
      ⟨[.new 1 "rest" "garden", (Task.new 2 "read" "home").withTag "a",
        (Task.new 3 "call" "work").withTag "a", .new 4 "write" "home"], [], []⟩
    let q : Query := {
      domain := .task
      directives := { sort := [⟨"id", .descending⟩], group := some "project" } }
    ∃ out out', evaluate q records ctx = .ok out ∧
      evaluate (q.addFilter (.tag "A" false)) records ctx = .ok out' ∧
      out.Narrows ((Clause.tag "A" false).keeps ctx) out' ∧
      ∃ tagged untagged,
        evaluate (q.addFilter (.tag "A" false)) records ctx = .ok tagged ∧
        evaluate (q.addFilter (.tag "A" true)) records ctx = .ok untagged ∧
        tagged.rows = out.rows.filter (·.hasTag "A") ∧
        untagged.rows = out.rows.filter (!·.hasTag "A") := by
  intro today ctx records q
  obtain ⟨out, hout⟩ : ∃ out, evaluate q records ctx = .ok out := ⟨_, rfl⟩
  obtain ⟨out', hout'⟩ : ∃ out', evaluate (q.addFilter (.tag "A" false)) records ctx = .ok out' :=
    ⟨_, rfl⟩
  obtain ⟨hnarrows, htags⟩ := narrowed_output hout
  exact ⟨out, out', hout, hout', hnarrows _ _ hout', htags rfl "A"⟩

end Agenda
