import Agenda.Proofs.Evaluation.Outcome
import Agenda.Proofs.Evaluation.Stages
import Agenda.Proofs.Query.Meaning

/-!
# The order of tokens

The tokens behind the domain word can be written in any order that keeps the columns and the sort
keys as they follow each other. Compilation then accepts the same tokens, fills the directives in
the same way and collects the same clauses in another order; neither the defaults nor the evaluation
look at the order of the clauses.

Nothing here runs the compiler step by step: the query is the one that the tokens state
(`Query.ofTokens_eq_ok`), and each of its parts is read off tokens whose order is either kept or of
no account.

Main results:
  * `Reordering.stated_directives` — the directives that reordered tokens state;
  * `evaluate_eq_of_perm` — clauses in another order select the same records;
  * `compile_reordered` — the order of tokens is free.
-/

namespace Agenda

/-! ## §1. Reordered tokens -/

/-- The same tokens in an order that keeps the columns and the sort keys as they follow each
other. -/
structure Reordering (tokens tokens' : List Token) : Prop where
  perm : tokens.Perm tokens'
  cols : tokens.filter (·.isDirective "cols") = tokens'.filter (·.isDirective "cols")
  sort : tokens.filter (·.isDirective "sort") = tokens'.filter (·.isDirective "sort")

section

variable {domain : Domain} {tokens tokens' : List Token} {key : String}

/-- Tokens are accepted together in every order. -/
theorem Acceptable.of_perm (h : Acceptable domain tokens) (hperm : tokens.Perm tokens') :
    Acceptable domain tokens' where
  admitted t ht := h.admitted t (hperm.mem_iff.2 ht)
  once key hkey := (hperm.filter _).length_eq ▸ h.once key hkey

theorem askedBy_perm (hperm : tokens.Perm tokens') :
    (askedBy tokens key).Perm (askedBy tokens' key) :=
  hperm.flatMap_right _

theorem askedBy_of_filter (h : tokens.filter (·.isDirective key) =
    tokens'.filter (·.isDirective key)) : askedBy tokens key = askedBy tokens' key := by
  rw [askedBy_eq_filter, h, ← askedBy_eq_filter]

/-- A directive that appears once has no order. -/
theorem Acceptable.askedBy_once (h : Acceptable domain tokens) (hperm : tokens.Perm tokens')
    (hkey : key ∈ onceKeys) : askedBy tokens key = askedBy tokens' key := by
  have hfilter : (tokens.filter (·.isDirective key)).Perm (tokens'.filter (·.isDirective key)) :=
    hperm.filter _
  apply askedBy_of_filter
  match hasked : tokens.filter (·.isDirective key) with
  | [] =>
    rw [hasked] at hfilter ⊢
    exact hfilter.nil_eq
  | [t] =>
    rw [hasked] at hfilter ⊢
    exact (List.perm_singleton.1 hfilter.symm).symm
  | _ :: _ :: _ =>
    have honce := h.once key hkey
    rw [hasked] at honce
    simp at honce

namespace Reordering

theorem mem_shownBy (h : Reordering tokens tokens') {name : String} :
    name ∈ shownBy tokens ↔ name ∈ shownBy tokens' := by
  unfold shownBy
  rw [askedBy_of_filter h.cols, askedBy_of_filter h.sort]

/-- **Reordered tokens state the same directives.** -/
theorem stated_directives (h : Reordering tokens tokens') (htokens : Acceptable domain tokens) :
    Directives.stated domain.schema tokens = Directives.stated domain.schema tokens' := by
  have hasked : ∀ key name, name ∈ (askedBy tokens key).map Text.lower ↔
      name ∈ (askedBy tokens' key).map Text.lower :=
    fun key _ => ((askedBy_perm h.perm).map Text.lower).mem_iff
  have honce : ∀ key ∈ onceKeys, askedBy tokens key = askedBy tokens' key :=
    fun key hkey => htokens.askedBy_once h.perm hkey
  refine Directives.eq_of_parts ?columns ?sort ?metrics ?relations ?group ?view ?save
  case columns =>
    unfold Directives.stated
    rw [h.perm.any_eq, askedBy_of_filter h.cols]
  case sort =>
    unfold Directives.stated
    rw [askedBy_of_filter h.sort]
  case metrics =>
    intro m
    simp only [Directives.stated, NameSet.mem_ofList, List.mem_append, hasked,
      Schema.mem_impliedMetrics, h.mem_shownBy]
  case relations =>
    intro r
    simp only [Directives.stated, NameSet.mem_ofList, List.mem_append, hasked,
      Schema.mem_impliedRelations, h.mem_shownBy]
  case group => rw [Directives.group_stated, honce "group" (by simp [onceKeys])]; rfl
  case view => rw [Directives.view_stated, honce "view" (by simp [onceKeys])]; rfl
  case save => rw [Directives.save_stated, honce "save" (by simp [onceKeys])]; rfl

end Reordering

end

/-! ## §2. Clauses in another order -/

section

variable {q q' : Query}

/-- The defaults ask what kinds of clauses there are, not where they stand. -/
theorem Query.withDefaults_directives_perm (hdirectives : q.directives = q'.directives)
    (hfilters : q.filters.Perm q'.filters) :
    q.withDefaults.directives = q'.withDefaults.directives := by
  have hsort : defaultSort q.filters = defaultSort q'.filters := by
    unfold defaultSort
    rw [hfilters.any_eq, hfilters.any_eq]
  unfold Query.withDefaults Directives.withDefaults
  rw [hdirectives, hsort]

/-- **Clauses in another order select the same records**, and so give the same output. -/
theorem evaluate_eq_of_perm {records : Records} {ctx : Context} {out out' : Output}
    (hdomain : q.domain = q'.domain) (hdirectives : q.directives = q'.directives)
    (hfilters : q.filters.Perm q'.filters) (h : evaluate q records ctx = .ok out)
    (h' : evaluate q' records ctx = .ok out') : out = out' := by
  have hselects : ∀ record, q.Selects ctx record ↔ q'.Selects ctx record := by
    intro record
    unfold Query.Selects
    exact forall_congr' fun clause => by rw [hfilters.mem_iff]
  have hrows : ∀ columns, q.rows records ctx columns = q'.rows records ctx columns := by
    intro columns
    unfold Query.rows
    simp only [hselects, hdomain, hdirectives]
  obtain ⟨columns, hcolumns, rfl⟩ := evaluate_eq_ok h
  obtain ⟨columns', hcolumns', rfl⟩ := evaluate_eq_ok h'
  rw [hdomain, hdirectives, hcolumns'] at hcolumns
  obtain rfl := Except.ok.inj hcolumns
  rw [hrows, hdomain, hdirectives]

end

/-! ## §3. Reordered queries -/

/-- **THE ORDER OF TOKENS IS FREE**: behind the domain word, and with the columns and the sort keys
kept as they follow each other, every order of the tokens of a text compiles if one does; the
queries have the same domain, the same directives and the same clauses, and with their defaults they
give the same output over all collections on all days whose week lies in the calendar. -/
theorem compile_reordered {text : String} {first : Token} {rest rest' : List Token}
    {domain : Domain} (hlex : lex text = .ok (first :: rest)) (hfirst : first.kind = .domain domain)
    (hload : ∀ t ∈ rest, t.isDirective "load" = false) (h : Reordering rest rest') :
    ((∃ c, compile (first :: rest) = .ok c) ↔ ∃ c, compile (first :: rest') = .ok c) ∧
    ∀ c c', compile (first :: rest) = .ok c → compile (first :: rest') = .ok c' →
      ∃ q q', c = .ready q ∧ c' = .ready q' ∧ q.domain = q'.domain ∧
        q.directives = q'.directives ∧ q.filters.Perm q'.filters ∧
        ∀ (records : Records) (ctx : Context) (week : Window),
          Window.week? ctx.today = some week → ∃ out,
            evaluate q.withDefaults records ctx = .ok out ∧
            evaluate q'.withDefaults records ctx = .ok out := by
  have hload' : ∀ t ∈ rest', t.isDirective "load" = false :=
    fun t ht => hload t (h.perm.mem_iff.2 ht)
  have htokens : ∀ t ∈ rest, t.kind.WellFormed :=
    fun t ht => lex_wellFormed hlex t (List.mem_cons_of_mem _ ht)
  have htokens' : ∀ t ∈ rest', t.kind.WellFormed :=
    fun t ht => htokens t (h.perm.mem_iff.2 ht)
  simp only [compile_domain_eq_ok hfirst hload, compile_domain_eq_ok hfirst hload']
  constructor
  · constructor
    · rintro ⟨c, haccept, -⟩
      exact ⟨_, haccept.of_perm h.perm, rfl⟩
    · rintro ⟨c, haccept, -⟩
      exact ⟨_, haccept.of_perm h.perm.symm, rfl⟩
  · rintro _ _ ⟨haccept, rfl⟩ ⟨haccept', rfl⟩
    have hdirectives := h.stated_directives haccept
    have hfilters : (Query.stated domain rest).filters.Perm (Query.stated domain rest').filters :=
      h.perm.filterMap _
    refine ⟨_, _, rfl, rfl, rfl, hdirectives, hfilters, fun records ctx week hweek => ?_⟩
    have hq := Query.ofTokens_wellFormed htokens (Query.ofTokens_eq_ok.2 ⟨haccept, rfl⟩)
    have hq' := Query.ofTokens_wellFormed htokens' (Query.ofTokens_eq_ok.2 ⟨haccept', rfl⟩)
    obtain ⟨out, hout⟩ := hq.withDefaults.exists_output records hweek
    obtain ⟨out', hout'⟩ := hq'.withDefaults.exists_output records hweek
    have hdefaults : (Query.stated domain rest).withDefaults.directives =
        (Query.stated domain rest').withDefaults.directives :=
      Query.withDefaults_directives_perm hdirectives hfilters
    have hsame : out = out' := evaluate_eq_of_perm (by rfl) hdefaults hfilters hout hout'
    exact ⟨out, hout, hsame ▸ hout'⟩

/-- Two `cols:` tokens that keep their order among clauses and directives that do not; the second
column implies its metric. -/
theorem compile_reordered_mixed :
    let first : Token := ⟨.domain .task, "tasks", 0⟩
    let rest : List Token := [
      ⟨.directive "cols" ["id", "text"], "cols:id,text", 6⟩, ⟨.priorityExpr "1", "p1", 19⟩,
      ⟨.directive "group" ["status"], "group:status", 22⟩, ⟨.tagExpr "a" false, "#a", 35⟩,
      ⟨.directive "cols" ["time_week"], "cols:time_week", 38⟩, ⟨.tagExpr "b" true, "-#b", 53⟩]
    let rest' : List Token := [
      ⟨.tagExpr "b" true, "-#b", 53⟩, ⟨.directive "group" ["status"], "group:status", 22⟩,
      ⟨.directive "cols" ["id", "text"], "cols:id,text", 6⟩, ⟨.tagExpr "a" false, "#a", 35⟩,
      ⟨.directive "cols" ["time_week"], "cols:time_week", 38⟩, ⟨.priorityExpr "1", "p1", 19⟩]
    lex "tasks cols:id,text p1 group:status #a cols:time_week -#b" = .ok (first :: rest) ∧
    Reordering rest rest' ∧ ∃ c c', compile (first :: rest) = .ok c ∧
      compile (first :: rest') = .ok c' ∧ ∃ q q', c = .ready q ∧ c' = .ready q' ∧
        q.domain = q'.domain ∧ q.directives = q'.directives ∧ q.filters.Perm q'.filters ∧
        ∀ (records : Records) (ctx : Context) (week : Window),
          Window.week? ctx.today = some week → ∃ out,
            evaluate q.withDefaults records ctx = .ok out ∧
            evaluate q'.withDefaults records ctx = .ok out := by
  intro first rest rest'
  have hlex : lex "tasks cols:id,text p1 group:status #a cols:time_week -#b" =
      .ok (first :: rest) := by decide +kernel
  have hload : ∀ t ∈ rest, t.isDirective "load" = false := by decide
  have hreordering : Reordering rest rest' := ⟨by decide, by decide, by decide⟩
  obtain ⟨haccepts, hsame⟩ := compile_reordered hlex rfl hload hreordering
  obtain ⟨c, hc⟩ : ∃ c, compile (first :: rest) = .ok c := ⟨_, rfl⟩
  obtain ⟨c', hc'⟩ := haccepts.1 ⟨c, hc⟩
  exact ⟨hlex, hreordering, c, c', hc, hc', hsame c c' hc hc'⟩

end Agenda
