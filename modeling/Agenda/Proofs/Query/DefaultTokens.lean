import Agenda.Proofs.Query.Meaning
import Agenda.Proofs.Query.WellFormed

/-!
# Defaults spelled out

Whatever the defaults fill in could have been typed. A query that is sorted by default gets the keys
that a `sort:` token behind its last token gives it, and a board by default is the board of a
`view:kanban` token; compiling the longer sequence gives the query with its defaults.

WHY THE LONGER SEQUENCE COMPILES: the domain accepts a clause about due dates or priorities only
where its records have that field, so that they can be sorted by it; a stored field needs no metric
and no relation, so that nothing else is asked for on the side; and the view is filled in only where
no view has been given, so that it is not a second one.

Main results:
  * `Query.foldlM_defaultSort`, `Query.foldlM_defaultView` — what the typed defaults do;
  * `defaults_spelled_out` — a query with its defaults is what the longer sequence compiles to.
-/

namespace Agenda

/-! ## §1. The tokens that say what the defaults fill in -/

/-- The values of a `sort:` directive that asks for the default keys. -/
def defaultSortValues (filters : List Clause) : List String :=
  (if filters.any Clause.isAboutDue then ["due"] else []) ++
    (if filters.any Clause.isAboutPriority then ["priority-"] else [])

namespace Query

/-- The `sort:` directive that a query leaves open. -/
def defaultSortKinds (q : Query) : List TokenKind :=
  if q.directives.sort = [] ∧ defaultSortValues q.filters ≠ [] then
    [.directive "sort" (defaultSortValues q.filters)]
  else []

/-- The `view:` directive that a query leaves open. -/
def defaultViewKinds (q : Query) : List TokenKind :=
  if q.directives.view = none ∧ q.directives.group = some "status" then
    [.directive "view" ["kanban"]]
  else []

/-- What tokens say that are typed in place of the defaults. -/
def defaultKinds (q : Query) : List TokenKind :=
  q.defaultSortKinds ++ q.defaultViewKinds

theorem directive_of_mem_defaultKinds {q : Query} {kind : TokenKind} (h : kind ∈ q.defaultKinds) :
    (∃ values, kind = .directive "sort" values) ∨ ∃ values, kind = .directive "view" values := by
  unfold defaultKinds defaultSortKinds defaultViewKinds at h
  rcases List.mem_append.1 h with h | h
  · exact .inl ⟨_, List.mem_singleton.1 (List.mem_ite_nil_right.1 h).2⟩
  · exact .inr ⟨_, List.mem_singleton.1 (List.mem_ite_nil_right.1 h).2⟩

theorem not_load_of_defaultKinds {q : Query} {t : Token} (ht : t.kind ∈ q.defaultKinds) :
    t.isDirective "load" = false := by
  rcases directive_of_mem_defaultKinds ht with ⟨values, hkind⟩ | ⟨values, hkind⟩ <;>
    rw [Token.isDirective_directive hkind] <;> decide

end Query

/-- The values spell the default keys. -/
theorem map_ofValue_defaultSortValues (filters : List Clause) :
    (defaultSortValues filters).map SortKey.ofValue = defaultSort filters := by
  have hdue : SortKey.ofValue "due" = ⟨"due", .ascending⟩ := by decide +kernel
  have hpriority : SortKey.ofValue "priority-" = ⟨"priority", .descending⟩ := by decide +kernel
  unfold defaultSortValues defaultSort
  cases filters.any Clause.isAboutDue <;> cases filters.any Clause.isAboutPriority <;>
    simp [hdue, hpriority]

/-! ## §2. What the tokens do -/

/-- Stored fields are there anyway. -/
theorem Directives.implyAll_of_fields {d : Directives} {schema : Schema} {names : List String}
    (h : ∀ n ∈ names, n ∈ schema.fields) : d.implyAll schema names = d := by
  have hmetrics : schema.impliedMetrics names = [] := by
    rw [Schema.impliedMetrics, List.filter_eq_nil_iff]
    intro n hn
    simp [h n hn]
  have hrelations : schema.impliedRelations names = [] := by
    rw [Schema.impliedRelations, List.filter_eq_nil_iff]
    intro n hn
    simp [h n hn]
  unfold implyAll
  rw [hmetrics, hrelations]
  rfl

namespace Query

variable {q : Query} {added : List Token}

/-- **The `sort:` token in place of the default keys.** -/
theorem foldlM_defaultSort (hq : q.WellFormed) (hadded : added.map (·.kind) = q.defaultSortKinds) :
    added.foldlM addToken q = .ok { q with directives := { q.directives with
      sort := if q.directives.sort = [] then defaultSort q.filters else q.directives.sort } } := by
  have hkeys := map_ofValue_defaultSortValues q.filters
  unfold defaultSortKinds at hadded
  split at hadded
  next h =>
    obtain ⟨t, rfl, hkind⟩ : ∃ t, added = [t] ∧ t.kind = .directive "sort" _ :=
      List.map_eq_singleton_iff.1 hadded
    have hfields : ∀ n ∈ (defaultSortValues q.filters).map fun v => (SortKey.ofValue v).field,
        n ∈ q.domain.schema.fields := by
      intro n hn
      obtain ⟨v, hv, rfl⟩ := List.mem_map.1 hn
      exact hq.defaultSort_mem _ (hkeys ▸ List.mem_map_of_mem hv)
    have htakes : q.domain.Takes "sort" (defaultSortValues q.filters) :=
      fun v hv => List.mem_append_left _ (hfields _ (List.mem_map_of_mem hv))
    have hadd : q.directives.add q.domain t "sort" (defaultSortValues q.filters) =
        .ok { q.directives with sort := q.directives.sort ++ defaultSort q.filters } := by
      refine Directives.foldlM_addSortKey.2 ⟨htakes, ?_⟩
      rw [Directives.implyAll_of_fields hfields, hkeys]
    rw [List.foldlM_cons, addToken_directive hkind, hadd, h.1, if_pos rfl, List.nil_append]
    rfl
  next h =>
    obtain rfl := List.map_eq_nil_iff.1 hadded
    by_cases hsort : q.directives.sort = []
    · -- there is no key to fill in
      have hnone : defaultSortValues q.filters = [] :=
        Classical.byContradiction fun hne => h ⟨hsort, hne⟩
      rw [hnone] at hkeys
      rw [if_pos hsort, ← hkeys, List.map_nil, ← hsort]
      rfl
    · rw [if_neg hsort]
      rfl

/-- **The `view:` token in place of the default board.** -/
theorem foldlM_defaultView (hadded : added.map (·.kind) = q.defaultViewKinds) :
    added.foldlM addToken q = .ok { q with directives := { q.directives with
      view := if q.directives.view = none ∧ q.directives.group = some "status" then some .kanban
        else q.directives.view } } := by
  unfold defaultViewKinds at hadded
  split at hadded
  next h =>
    obtain ⟨t, rfl, hkind⟩ : ∃ t, added = [t] ∧ t.kind = .directive "view" _ :=
      List.map_eq_singleton_iff.1 hadded
    have hview : View.ofValue "kanban" = .ok .kanban := by decide +kernel
    have hvalue : Directives.onlyValue t "view" q.directives.view.isSome = .ok "kanban" :=
      Directives.onlyValue_eq_ok.2 ⟨by rw [h.1]; rfl, "view", hkind⟩
    have hadd : q.directives.add q.domain t "view" ["kanban"] =
        .ok { q.directives with view := some .kanban } :=
      bind_eq_ok.2 ⟨"kanban", hvalue, bind_eq_ok.2 ⟨.kanban, hview, rfl⟩⟩
    rw [List.foldlM_cons, addToken_directive hkind, hadd, if_pos h]
    rfl
  next h =>
    obtain rfl := List.map_eq_nil_iff.1 hadded
    rw [if_neg h]
    rfl

/-- Both tokens together fill in what the defaults fill in. -/
theorem foldlM_defaultKinds (hq : q.WellFormed) (hadded : added.map (·.kind) = q.defaultKinds) :
    added.foldlM addToken q = .ok q.withDefaults := by
  obtain ⟨sorts, views, rfl, hsorts, hviews⟩ := List.map_eq_append_iff.1 hadded
  rw [List.foldlM_append, foldlM_defaultSort hq hsorts]
  -- the view that is left open does not depend on the sort keys
  exact foldlM_defaultView hviews

end Query

/-! ## §3. Texts -/

/-- **DEFAULTS ARE SPELLED OUT BY TOKENS**: when the tokens of a text compile to a query, they compile
to the query with its defaults once the directives that it leaves open stand behind them: `sort:` with
`due`, with `priority-` or with both, as its clauses ask, and `view:kanban` if it groups by status.
Filling in the defaults a second time changes nothing, and they leave alone what the query says. -/
theorem defaults_spelled_out {text : String} {tokens : List Token} {q : Query}
    (hlex : lex text = .ok tokens) (hq : compile tokens = .ok (.ready q)) :
    (∀ added : List Token, added.map (·.kind) = q.defaultKinds →
      compile (tokens ++ added) = .ok (.ready q.withDefaults)) ∧
    q.withDefaults.withDefaults = q.withDefaults ∧
    q.withDefaults.directives.Keeps q.directives := by
  have hready : compileText text = .ok (.ready q) := by
    unfold compileText
    rw [hlex]
    exact hq
  refine ⟨fun added hadded => ?_, ?_, Directives.keeps_withDefaults _ _⟩
  · obtain ⟨hname, domain, raw, position, rest, rfl, hrest⟩ := compile_ready hq
    have hload : ∀ t ∈ rest ++ added, t.isDirective "load" = false := by
      intro t ht
      rcases List.mem_append.1 ht with ht | ht
      · exact not_load_of_loadName? hname t (List.mem_cons_of_mem _ ht)
      · exact Query.not_load_of_defaultKinds (hadded ▸ List.mem_map_of_mem ht)
    have hall : Query.ofTokens domain (rest ++ added) = .ok q.withDefaults := by
      unfold Query.ofTokens at hrest ⊢
      rw [List.foldlM_append, hrest]
      exact Query.foldlM_defaultKinds (.of_compileText hready) hadded
    rw [List.cons_append, compile_domain rfl hload, hall]
    rfl
  · exact congrArg (fun d => { q with directives := d })
      (Directives.withDefaults_idem q.directives q.filters)

/-- Both sort keys and the board, with the tokens that their words are read as. -/
theorem defaults_spelled_out_both :
    let tokens : List Token := [
      ⟨.domain .task, "tasks", 0⟩, ⟨.priorityExpr "<=2", "p<=2", 6⟩, ⟨.overdue, "overdue", 11⟩,
      ⟨.directive "group" ["status"], "group:status", 19⟩]
    let added : List Token := [
      ⟨.directive "sort" ["due", "priority-"], "sort:due,priority-", 32⟩,
      ⟨.directive "view" ["kanban"], "view:kanban", 51⟩]
    let q : Query :=
      { domain := .task
        filters := [.priority .le 2, .overdue]
        directives := { group := some "status" } }
    lex "tasks p<=2 overdue group:status" = .ok tokens ∧
    lex "tasks p<=2 overdue group:status sort:due,priority- view:kanban" =
      .ok (tokens ++ added) ∧
    compile (tokens ++ added) = .ok (.ready q.withDefaults) ∧
    q.withDefaults.withDefaults = q.withDefaults ∧
    q.withDefaults.directives.Keeps q.directives := by
  intro tokens added q
  have hlex : lex "tasks p<=2 overdue group:status" = .ok tokens := by decide +kernel
  have hlonger : lex "tasks p<=2 overdue group:status sort:due,priority- view:kanban" =
      .ok (tokens ++ added) := by decide +kernel
  have hq : compile tokens = .ok (.ready q) := by decide +kernel
  obtain ⟨hcompile, hidem, hkeeps⟩ := defaults_spelled_out hlex hq
  exact ⟨hlex, hlonger, hcompile added (by decide), hidem, hkeeps⟩

end Agenda
