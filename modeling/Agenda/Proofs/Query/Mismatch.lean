import Agenda.Proofs.Query.Meaning
import Agenda.Proofs.Query.WellFormed

/-!
# Filters that other domains accept

A filter of a family that the domain does not have is rejected with the domains that have the family.
What the filter says is not looked at, neither in the domain that rejects it nor in those that are
named, so that these are all the domains that the filter can compile in, but need not be only those.

Main results:
  * `TokenKind.Fits`, `Token.exists_clause_iff` — the values that a domain can read;
  * `Token.compilesIn_iff` — the domains that a filter compiles in;
  * `compile_eq_mismatch_iff` — the domains that are named where it does not;
  * `mismatch_names_domains` — the domains that are named against those that it compiles in.
-/

namespace Agenda

/-! ## §1. What a filter says -/

/-- Whether a domain can read what a filter says, if it has the family. -/
def TokenKind.Fits (domain : Domain) : TokenKind → Prop
  | .projectRef name => name ≠ ""
  | .priorityExpr expr => ∃ c, PriorityExpression.read? expr = some c
  | .dateExpr expr => ∃ due, Due.read? expr = some due
  | .statusExpr value => value ∈ domain.schema.statuses
  | .domain _ | .overdue | .tagExpr _ _ | .textTerm _ => True
  | .directive _ _ => False

/-- Whether a token is a status. -/
def TokenKind.IsStatus (kind : TokenKind) : Prop :=
  ∃ value, kind = .statusExpr value

/-- A filter states a clause exactly if what it says can be read. -/
theorem Token.exists_clause_iff {domain : Domain} {t : Token} :
    (∃ c, t.clause domain = .ok c) ↔ t.kind.Fits domain := by
  unfold clause TokenKind.Fits
  cases t.kind with
  | domain | overdue | tagExpr | textTerm => simp
  | directive => simp
  | projectRef name => by_cases h : name = "" <;> simp [h]
  | priorityExpr expr => cases h : PriorityExpression.read? expr <;> simp [h]
  | dateExpr expr => cases h : Due.read? expr <;> simp [h]
  | statusExpr value => by_cases h : value ∈ domain.schema.statuses <;> simp [h]

/-- Only statuses are read in each domain in its own way. -/
theorem TokenKind.fits_of_not_isStatus {kind : TokenKind} {d d' : Domain} (h : ¬ kind.IsStatus)
    (hfits : kind.Fits d) : kind.Fits d' := by
  cases kind with
  | statusExpr value => exact absurd ⟨value, rfl⟩ h
  | _ => exact hfits

/-! ## §2. The tables -/

namespace Domain

theorem mem_allWhere {p : Schema → Bool} {d : Domain} : d ∈ allWhere p ↔ p d.schema = true := by
  unfold allWhere
  rw [List.mem_filter]
  exact and_iff_right (by cases d <;> decide)

/-- Tasks have all families. -/
theorem task_allows (kind : FilterKind) : Domain.task.schema.allows kind = true := by
  cases kind <;> decide

/-- No status occurs in two domains. -/
theorem eq_of_mem_statuses {value : String} {d d' : Domain} (h : value ∈ d.schema.statuses)
    (h' : value ∈ d'.schema.statuses) : d = d' := by
  have hall : ∀ v ∈ d.schema.statuses, v ∈ d'.schema.statuses → d = d' := by
    cases d <;> cases d' <;> decide
  exact hall value h h'

end Domain

/-! ## §3. One filter -/

/-- Whether a domain word and a token behind it compile to a query. -/
def Token.CompilesIn (t : Token) (domain : Domain) : Prop :=
  ∀ first : Token, first.kind = .domain domain → ∃ q, compile [first, t] = .ok (.ready q)

section

variable {domain : Domain} {first t : Token} {kind : FilterKind}

/-- A filter alone is one step of compilation. -/
theorem compile_pair (hfirst : first.kind = .domain domain)
    (hkind : t.kind.filterKind? = some kind) :
    compile [first, t] = (({ domain } : Query).addClause t kind).map .ready := by
  have hload : ∀ u ∈ [t], u.isDirective "load" = false := by
    intro u hu
    obtain rfl := List.mem_singleton.1 hu
    exact Token.isDirective_of_filterKind? hkind
  have hstep : Query.ofTokens domain [t] = ({ domain } : Query).addClause t kind := by
    show (({ domain } : Query).addToken t >>= pure) = _
    rw [bind_pure]
    unfold Query.addToken
    rw [hkind]
  rw [compile_domain hfirst hload, hstep]

/-- **The domains that a filter compiles in** have its family and can read what it says. -/
theorem Token.compilesIn_iff (hkind : t.kind.filterKind? = some kind) :
    t.CompilesIn domain ↔ domain.schema.allows kind = true ∧ t.kind.Fits domain := by
  rw [← exists_clause_iff]
  constructor
  · intro h
    obtain ⟨q, hq⟩ := h ⟨.domain domain, domain.plural, 0⟩ rfl
    rw [compile_pair rfl hkind] at hq
    obtain ⟨_, hq, _⟩ := map_eq_ok.1 hq
    unfold Query.addClause at hq
    split at hq
    next hallows =>
      split at hq
      next c hc => exact ⟨hallows, c, hc⟩
      next => cases hq
    next => cases hq
  · rintro ⟨hallows, c, hc⟩ first hfirst
    refine ⟨({ domain } : Query).addFilter c, ?_⟩
    rw [compile_pair hfirst hkind]
    unfold Query.addClause
    rw [if_pos hallows, hc]
    rfl

/-- **Where a filter is rejected for its family**, all domains with the family are named. -/
theorem compile_eq_mismatch_iff (hfirst : first.kind = .domain domain)
    (hkind : t.kind.filterKind? = some kind) {raw : String} {d : Domain} {validIn : List Domain} :
    compile [first, t] = .error (.domainMismatch raw d validIn) ↔
      domain.schema.allows kind = false ∧ raw = t.raw ∧ d = domain ∧
        validIn = Domain.allWhere (·.allows kind) := by
  rw [compile_pair hfirst hkind, map_eq_error]
  unfold Query.addClause
  cases hallows : domain.schema.allows kind with
  | true =>
    rw [if_pos rfl]
    cases t.clause domain <;> simp
  | false =>
    rw [if_neg Bool.false_ne_true]
    simp [eq_comm]

end

/-! ## §4. The domains that are named -/

/-- **THE DOMAINS THAT ARE NAMED**: where a filter is rejected for its domain, other domains are
named, and all that it compiles in are among them; it compiles in those that can read what it says.
It compiles in all of them exactly if it is no status and can be read at all. -/
theorem mismatch_names_domains {domain : Domain} {first t : Token} {kind : FilterKind}
    (hfirst : first.kind = .domain domain) (hkind : t.kind.filterKind? = some kind) {raw : String}
    {d : Domain} {validIn : List Domain}
    (h : compile [first, t] = .error (.domainMismatch raw d validIn)) :
    (raw = t.raw ∧ d = domain) ∧
    (validIn ≠ [] ∧ domain ∉ validIn) ∧
    (∀ d', t.CompilesIn d' ↔ d' ∈ validIn ∧ t.kind.Fits d') ∧
    ((∀ d' ∈ validIn, t.CompilesIn d') ↔ ¬ t.kind.IsStatus ∧ t.kind.Fits .task) := by
  obtain ⟨hallows, rfl, rfl, rfl⟩ := (compile_eq_mismatch_iff hfirst hkind).1 h
  have hmem : ∀ {d'}, d' ∈ Domain.allWhere (·.allows kind) ↔ d'.schema.allows kind = true :=
    Domain.mem_allWhere
  have htask : .task ∈ Domain.allWhere (·.allows kind) := hmem.2 (Domain.task_allows kind)
  have hcompiles : ∀ d', t.CompilesIn d' ↔
      d' ∈ Domain.allWhere (·.allows kind) ∧ t.kind.Fits d' := by
    intro d'
    rw [Token.compilesIn_iff hkind, hmem]
  refine ⟨⟨rfl, rfl⟩, ⟨List.ne_nil_of_mem htask, ?_⟩, hcompiles, ?_, ?_⟩
  · rw [hmem, hallows]
    exact Bool.false_ne_true
  · intro hall
    have hfits : ∀ d' ∈ Domain.allWhere (·.allows kind), t.kind.Fits d' := fun d' hd' =>
      ((hcompiles d').1 (hall d' hd')).2
    refine ⟨?_, hfits .task htask⟩
    -- tasks and projects have statuses, and none in common
    rintro ⟨value, hstatus⟩
    have hproject : .project ∈ Domain.allWhere (·.allows kind) := by
      rw [hstatus] at hkind
      obtain rfl := Option.some.inj hkind
      decide
    have hvalues : ∀ d' ∈ Domain.allWhere (·.allows kind), value ∈ d'.schema.statuses := by
      intro d' hd'
      have hfit := hfits d' hd'
      rwa [hstatus] at hfit
    have hsame := Domain.eq_of_mem_statuses (hvalues .task htask) (hvalues .project hproject)
    cases hsame
  · rintro ⟨hno, hfits⟩ d' hd'
    exact (hcompiles d').2 ⟨hd', TokenKind.fits_of_not_isStatus hno hfits⟩

/-- A status that projects have is rejected by time logs, with tasks named beside projects. -/
theorem mismatch_names_domains_status :
    let first : Token := ⟨.domain .timeLog, "timelogs", 0⟩
    let t : Token := ⟨.statusExpr "active", "status:Active", 9⟩
    lex "timelogs status:Active" = .ok [first, t] ∧
    first.kind = .domain .timeLog ∧ t.kind.filterKind? = some .status ∧
    compile [first, t] =
      .error (.domainMismatch "status:Active" .timeLog [.task, .project]) ∧
    (∀ d', t.CompilesIn d' ↔ d' ∈ [Domain.task, .project] ∧ t.kind.Fits d') ∧
    ((∀ d' ∈ [Domain.task, .project], t.CompilesIn d') ↔
      ¬ t.kind.IsStatus ∧ t.kind.Fits .task) := by
  intro first t
  have hlex : lex "timelogs status:Active" = .ok [first, t] := by decide +kernel
  have hmismatch : compile [first, t] =
      .error (.domainMismatch "status:Active" .timeLog [.task, .project]) := by decide +kernel
  obtain ⟨_, _, hcompiles, hall⟩ := mismatch_names_domains rfl rfl hmismatch
  exact ⟨hlex, rfl, rfl, hmismatch, hcompiles, hall⟩

/-- **DOMAINS ARE NAMED THAT REJECT THE FILTER**: a status of tasks is said to apply to projects, which
do not know it, and a priority that does not exist is said to apply to tasks. -/
theorem mismatch_names_rejecting :
    (compileText "timelogs status:pending" =
        .error (.domainMismatch "status:pending" .timeLog [.task, .project]) ∧
      compileText "projects status:pending" =
        .error (.compile (.invalidStatus "status:pending" .project ["active", "archived"]))) ∧
    (compileText "projects p9" = .error (.domainMismatch "p9" .project [.task]) ∧
      compileText "tasks p9" = .error (.compile (.invalidPriority "p9"))) ∧
    ¬ ∀ text domain (first t : Token) raw d validIn, lex text = .ok [first, t] →
      first.kind = .domain domain → t.kind.filterKind? ≠ none →
      compile [first, t] = .error (.domainMismatch raw d validIn) →
      validIn ≠ [] ∧ domain ∉ validIn ∧ ∀ d' ∈ validIn, t.CompilesIn d' := by
  refine ⟨by decide +kernel, by decide +kernel, fun hall => ?_⟩
  have hnamed := hall "timelogs status:pending" .timeLog ⟨.domain .timeLog, "timelogs", 0⟩
    ⟨.statusExpr "pending", "status:pending", 9⟩ "status:pending" .timeLog [.task, .project]
    (by decide +kernel) rfl (by decide) (by decide +kernel)
  have hcompiles := hnamed.2.2 .project (by decide)
  have hvalue := ((Token.compilesIn_iff rfl).1 hcompiles).2
  exact absurd hvalue (by decide : "pending" ∉ Domain.project.schema.statuses)

end Agenda
