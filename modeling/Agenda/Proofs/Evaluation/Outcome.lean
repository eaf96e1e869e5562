import Agenda.Evaluation.Evaluate
import Agenda.Proofs.Calendar.Windows
import Agenda.Proofs.Names
import Agenda.Proofs.Query.WellFormed

/-!
# When evaluation has a result

An evaluation can end without a result for two reasons: the query names a metric or a column that
the domain does not have, or the week of today leaves the calendar. A well-formed query never gives
the first reason, so over any collections it is answered on every day whose week lies in the
calendar.

Main results:
  * `evaluate_eq_error_iff` — the only error of a well-formed query, and when it arises;
  * `compiled_query_answered` — what compilation promises, and that its queries are answered, with
    the defaults and without them.
-/

namespace Agenda

/-! ## §1. Filters break off at the end of the week, and nowhere else -/

/-- Whether the first `due:eow` among the clauses is tried on a task: the task has a due date and
satisfies every clause in front. -/
def Task.MeetsEndOfWeek (t : Task) (ctx : Context) (clauses : List Clause) : Prop :=
  t.due.isSome = true ∧ .due .endOfWeek ∈ clauses ∧
    ∀ c ∈ clauses.takeWhile (· ≠ .due .endOfWeek), c.holds (.task t) ctx = .ok true

instance : Subsingleton WeekOverflow :=
  ⟨fun .weekLeavesCalendar .weekLeavesCalendar => rfl⟩

section

variable {ctx : Context} {e : WeekOverflow}

theorem Due.window_eq_error_iff {due : Due} :
    due.window ctx = .error e ↔ due = .endOfWeek ∧ Window.week? ctx.today = none := by
  obtain rfl : .weekLeavesCalendar = e := Subsingleton.elim _ e
  cases due with
  | endOfWeek =>
    -- the end of the week is the one expression that needs the Sunday
    unfold window
    cases Window.week? ctx.today with
    | none => exact ⟨fun _ => ⟨rfl, rfl⟩, fun _ => rfl⟩
    | some week => exact ⟨nofun, nofun⟩
  | _ => exact ⟨nofun, nofun⟩

/-- The clauses in front of the first `due:eow`, one clause at a time. -/
theorem Task.meetsEndOfWeek_cons {t : Task} {c : Clause} {rest : List Clause}
    (h : c ≠ .due .endOfWeek) : t.MeetsEndOfWeek ctx (c :: rest) ↔
      c.holds (.task t) ctx = .ok true ∧ t.MeetsEndOfWeek ctx rest := by
  unfold MeetsEndOfWeek
  rw [List.takeWhile_cons_of_pos (by simpa using h), List.forall_mem_cons, List.mem_cons]
  constructor
  · rintro ⟨hdue, heow | heow, hholds, hrest⟩
    · exact absurd heow.symm h
    · exact ⟨hholds, hdue, heow, hrest⟩
  · rintro ⟨hholds, hdue, heow, hrest⟩
    exact ⟨hdue, .inr heow, hholds, hrest⟩

namespace Clause

theorem holds_eq_error_iff {c : Clause} {r : Record} :
    c.holds r ctx = .error e ↔ c = .due .endOfWeek ∧
      (∃ t, r = .task t ∧ t.due.isSome = true) ∧ Window.week? ctx.today = none := by
  cases r with
  | task t =>
    cases c with
    | due expr =>
      cases hdue : t.due with
      | none => simp [holds, holdsForTask, hdue]
      | some date =>
        simp only [holds, holdsForTask, hdue, Due.selects, map_eq_error, Due.window_eq_error_iff]
        simp [hdue]
    | _ => simp [holds, holdsForTask]
  | _ => simp [holds]

theorem allHold_eq_error_iff {r : Record} {clauses : List Clause} :
    allHold r ctx clauses = .error e ↔
      (∃ t, r = .task t ∧ t.MeetsEndOfWeek ctx clauses) ∧ Window.week? ctx.today = none := by
  induction clauses with
  | nil =>
    constructor
    · exact nofun
    · rintro ⟨⟨t, _, _, hmem, _⟩, _⟩
      cases hmem
  | cons c rest ih =>
    have hcons : allHold r ctx (c :: rest) = .error e ↔ c.holds r ctx = .error e ∨
        (c.holds r ctx = .ok true ∧ allHold r ctx rest = .error e) := by
      refine bind_eq_error.trans (or_congr_right ⟨?_, fun h => ⟨true, h⟩⟩)
      rintro ⟨holds, hholds, h⟩
      cases holds with
      | true => exact ⟨hholds, h⟩
      | false => cases h
    rw [hcons, ih, holds_eq_error_iff]
    by_cases heow : c = .due .endOfWeek
    · -- the clause itself is the first of its kind, and nothing stands in front of it
      subst heow
      constructor
      · rintro (⟨_, ⟨t, rfl, hdue⟩, hweek⟩ | ⟨hholds, ⟨t, rfl, hdue, _⟩, hweek⟩)
        · exact ⟨⟨t, rfl, hdue, List.mem_cons_self, by simp⟩, hweek⟩
        · have herror : (due .endOfWeek).holds (.task t) ctx = .error .weekLeavesCalendar :=
            holds_eq_error_iff.2 ⟨rfl, ⟨t, rfl, hdue⟩, hweek⟩
          rw [herror] at hholds
          cases hholds
      · rintro ⟨⟨t, rfl, hdue, _⟩, hweek⟩
        exact .inl ⟨rfl, ⟨t, rfl, hdue⟩, hweek⟩
    · constructor
      · rintro (⟨hc, _⟩ | ⟨hholds, ⟨t, rfl, hmeets⟩, hweek⟩)
        · exact absurd hc heow
        · exact ⟨⟨t, rfl, (Task.meetsEndOfWeek_cons heow).2 ⟨hholds, hmeets⟩⟩, hweek⟩
      · rintro ⟨⟨t, rfl, hmeets⟩, hweek⟩
        obtain ⟨hholds, hmeets⟩ := (Task.meetsEndOfWeek_cons heow).1 hmeets
        exact .inr ⟨hholds, ⟨t, rfl, hmeets⟩, hweek⟩

theorem select_eq_error_iff {clauses : List Clause} {records : List Record} :
    select clauses ctx records = .error e ↔ ∃ r ∈ records, allHold r ctx clauses = .error e := by
  induction records with
  | nil => simp [select]
  | cons r rest ih =>
    simp only [List.mem_cons, exists_eq_or_imp, ← ih]
    constructor
    · intro h
      rcases bind_eq_error.1 h with h | ⟨kept, _, h⟩
      · exact .inl h
      · rcases bind_eq_error.1 h with h | ⟨others, _, h⟩
        · exact .inr h
        · cases h
    · intro h
      cases hkept : allHold r ctx clauses with
      | error e' =>
        obtain rfl : e = e' := Subsingleton.elim e e'
        exact bind_eq_error.2 (.inl hkept)
      | ok kept =>
        rw [hkept] at h
        rcases h with h | h
        · cases h
        · exact bind_eq_error.2 (.inr ⟨kept, hkept, bind_eq_error.2 (.inl h)⟩)

end Clause

end

/-! ## §2. Metrics and columns of a well-formed query are there -/

theorem Gauge.of_eq_error_iff {links : Links} {ctx : Context} {e : WeekOverflow} :
    Gauge.of links ctx = .error e ↔ Window.week? ctx.today = none := by
  obtain rfl : .weekLeavesCalendar = e := Subsingleton.elim _ e
  unfold Gauge.of
  cases Window.week? ctx.today with
  | none => exact ⟨fun _ => rfl, fun _ => rfl⟩
  | some week => exact ⟨nofun, nofun⟩

theorem Row.measureAll_eq_error_iff {links : Links} {q : Query} {ctx : Context} {rows : List Row}
    {e : EvaluationError} (hq : q.WellFormed) :
    measureAll links q ctx rows = .error e ↔ e = .overflow .weekLeavesCalendar ∧
      q.directives.metrics ≠ ∅ ∧ Window.week? ctx.today = none := by
  have hfind : q.directives.metrics.toList.find? (· ∉ q.domain.schema.metrics) = none := by
    rw [List.find?_eq_none]
    intro m hm
    simpa using hq.directives.metrics_mem m hm
  -- no metric is unknown, so what is left is the gauge, which needs the week of today
  unfold measureAll
  rw [hfind]
  dsimp only
  by_cases hempty : q.directives.metrics = ∅
  · rw [if_pos (NameSet.isEmpty_iff.2 hempty)]
    exact ⟨nofun, fun h => absurd hempty h.2.1⟩
  · rw [if_neg (mt NameSet.isEmpty_iff.1 hempty)]
    cases hgauge : Gauge.of links ctx with
    | ok g =>
      have hweek : Window.week? ctx.today ≠ none := fun hnone => by
        rw [Gauge.of_eq_error_iff (e := .weekLeavesCalendar) |>.2 hnone] at hgauge
        cases hgauge
      exact ⟨nofun, fun h => absurd h.2.2 hweek⟩
    | error cause =>
      have hweek : Window.week? ctx.today = none := Gauge.of_eq_error_iff.1 hgauge
      constructor
      · intro h
        exact ⟨(Except.error.inj h).symm, hempty, hweek⟩
      · rintro ⟨rfl, _⟩
        rfl

theorem Directives.outputColumns_ok {d : Directives} {domain : Domain}
    (hd : d.WellFormed domain.schema) : ∃ columns, d.outputColumns domain = .ok columns := by
  unfold outputColumns
  split
  next => exact ⟨_, rfl⟩
  next columns hcolumns =>
    have hfind : columns.find? (· ∉ domain.schema.columns) = none := by
      rw [List.find?_eq_none]
      intro c hc
      have hmem := hd.columns_mem c (by rw [hcolumns]; exact hc)
      simpa using hmem
    rw [hfind]
    exact ⟨_, rfl⟩

/-! ## §3. The only error -/

/-- Whether a query needs the week of today over some collections: it asks for a metric, or one of
the tasks meets `due:eow`. -/
def Query.NeedsWeek (q : Query) (records : Records) (ctx : Context) : Prop :=
  q.directives.metrics ≠ ∅ ∨ ∃ t ∈ records.tasks, t.MeetsEndOfWeek ctx q.filters

/-- The filter of a well-formed query breaks off exactly if a task meets `due:eow`. -/
theorem Query.WellFormed.select_eq_error_iff {q : Query} {records : Records} {ctx : Context}
    {e : WeekOverflow} (hq : q.WellFormed) :
    Clause.select q.filters ctx (records.ofDomain q.domain) = .error e ↔
      (∃ t ∈ records.tasks, t.MeetsEndOfWeek ctx q.filters) ∧ Window.week? ctx.today = none := by
  -- only tasks have due dates, and `due:eow` is a clause of no other domain
  have hrecords : ∀ t : Task, t.MeetsEndOfWeek ctx q.filters →
      records.ofDomain q.domain = records.tasks.map .task := by
    intro t hmeets
    rw [Domain.eq_task_of_allows_due (hq.filters _ hmeets.2.1).allowed]
    rfl
  simp only [Clause.select_eq_error_iff, Clause.allHold_eq_error_iff]
  constructor
  · rintro ⟨r, hr, ⟨t, rfl, hmeets⟩, hweek⟩
    rw [hrecords t hmeets] at hr
    obtain ⟨t', ht, heq⟩ := List.mem_map.1 hr
    obtain rfl := Record.task.inj heq
    exact ⟨⟨t', ht, hmeets⟩, hweek⟩
  · rintro ⟨⟨t, ht, hmeets⟩, hweek⟩
    refine ⟨.task t, ?_, ⟨t, rfl, hmeets⟩, hweek⟩
    rw [hrecords t hmeets]
    exact List.mem_map_of_mem ht

/-- **The only error of a well-formed query is a week that leaves the calendar and is needed.** -/
theorem evaluate_eq_error_iff {q : Query} {records : Records} {ctx : Context} {e : EvaluationError}
    (hq : q.WellFormed) : evaluate q records ctx = .error e ↔
      e = .overflow .weekLeavesCalendar ∧ Window.week? ctx.today = none ∧
        q.NeedsWeek records ctx := by
  constructor
  · intro h
    rcases bind_eq_error.1 h with h | ⟨selected, _, h⟩
    · obtain ⟨cause, hcause, rfl⟩ := mapError_eq_error.1 h
      obtain ⟨hmeets, hweek⟩ := hq.select_eq_error_iff.1 hcause
      exact ⟨congrArg _ (Subsingleton.elim _ _), hweek, .inr hmeets⟩
    · -- the stages behind the filter: metrics, then columns, then nothing that can fail
      rcases bind_eq_error.1 h with h | ⟨rows, _, h⟩
      · obtain ⟨he, hmetrics, hweek⟩ := (Row.measureAll_eq_error_iff hq).1 h
        exact ⟨he, hweek, .inl hmetrics⟩
      · rcases bind_eq_error.1 h with h | ⟨columns, _, h⟩
        · obtain ⟨cause, hcause, _⟩ := mapError_eq_error.1 h
          obtain ⟨columns, hcolumns⟩ := Directives.outputColumns_ok hq.directives
          rw [hcolumns] at hcause
          cases hcause
        · cases h
  · rintro ⟨rfl, hweek, hneeds⟩
    cases hselect : Clause.select q.filters ctx (records.ofDomain q.domain) with
    | error cause =>
      refine bind_eq_error.2 (.inl (mapError_eq_error.2 ⟨cause, hselect, ?_⟩))
      exact congrArg _ (Subsingleton.elim _ _)
    | ok selected =>
      rcases hneeds with hmetrics | hmeets
      · -- whatever has been selected, there is no gauge to measure it with
        exact bind_eq_error.2 (.inr ⟨selected, mapError_eq_ok.2 hselect,
          bind_eq_error.2 (.inl ((Row.measureAll_eq_error_iff hq).2 ⟨rfl, hmetrics, hweek⟩))⟩)
      · have herror : Clause.select q.filters ctx (records.ofDomain q.domain) =
            .error .weekLeavesCalendar := hq.select_eq_error_iff.2 ⟨hmeets, hweek⟩
        rw [hselect] at herror
        cases herror

/-! ## §4. Compiled queries are answered -/

/-- The query is answered over the collections, unless the week of today leaves the calendar. -/
def Query.AnsweredOver (q : Query) (records : Records) (ctx : Context) : Prop :=
  (∃ out, evaluate q records ctx = .ok out) ∨
    (Window.week? ctx.today = none ∧
      evaluate q records ctx = .error (.overflow .weekLeavesCalendar))

theorem Query.WellFormed.answered {q : Query} (hq : q.WellFormed) (records : Records)
    (ctx : Context) : q.AnsweredOver records ctx := by
  unfold AnsweredOver
  cases h : evaluate q records ctx with
  | ok out => exact .inl ⟨out, rfl⟩
  | error e =>
    obtain ⟨rfl, hweek, _⟩ := (evaluate_eq_error_iff hq).1 h
    exact .inr ⟨hweek, rfl⟩

theorem Query.WellFormed.exists_output {q : Query} (hq : q.WellFormed) (records : Records)
    {ctx : Context} {week : Window} (hweek : Window.week? ctx.today = some week) :
    ∃ out, evaluate q records ctx = .ok out := by
  rcases hq.answered records ctx with hout | ⟨hnone, _⟩
  · exact hout
  · rw [hweek] at hnone
    cases hnone

/-- **COMPILED QUERIES ARE WELL FORMED AND ANSWERED**: whatever text compiles to a query, the query
keeps every promise of the compiler, so does the query with its defaults, and both are answered over
all collections on all days whose week lies in the calendar. -/
theorem compiled_query_answered {text : String} {q : Query}
    (h : compileText text = .ok (.ready q)) :
    q.WellFormed ∧ q.withDefaults.WellFormed ∧ ∀ (records : Records) (ctx : Context),
      q.AnsweredOver records ctx ∧ q.withDefaults.AnsweredOver records ctx := by
  have hq : q.WellFormed := Query.WellFormed.of_compileText h
  exact ⟨hq, hq.withDefaults, fun records ctx =>
    ⟨hq.answered records ctx, hq.withDefaults.answered records ctx⟩⟩

/-- A range of priorities, a repeated column, and a column and a sort key that imply what they
need. -/
theorem compiled_query_answered_implied :
    let q : Query := {
      domain := .task
      filters := [.priorityRange 1 2, .status "pending"]
      directives := {
        columns := some ["id", "time_today", "time"]
        sort := [⟨"overdue_days", .descending⟩]
        metrics := .ofList ["time_today", "overdue_days"]
        relations := .ofList ["time"] } }
    q.WellFormed ∧ q.withDefaults.WellFormed ∧ ∀ (records : Records) (ctx : Context),
      q.AnsweredOver records ctx ∧ q.withDefaults.AnsweredOver records ctx :=
  @compiled_query_answered
    "tasks p1..2 status:pending cols:id,time_today,ID,time sort:overdue_days-" _ (by decide +kernel)

end Agenda
