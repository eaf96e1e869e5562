import Agenda.Proofs.Outcomes
import Agenda.Query.Compile

/-!
# What each token does to a query

Everything that one step of compilation can do when it succeeds, guards included, so that no later
proof has to open the compiler again.

Main results:
  * `Directives.mem_metrics_imply`, `Directives.mem_relations_imply` — what a column or sort key
    asks for on the side;
  * `Directives.addColumn_eq_ok` and its three siblings — the exact effect of one value;
  * `Directives.add_cases` — the seven things that a directive can do;
  * `Query.addToken_cases` — a token adds one clause, or changes the directives;
  * `compileText_ready` — a compiled text is a domain word and tokens that were taken over in order.
-/

namespace Agenda

/-! ## §1. Names -/

namespace Domain

variable {domain : Domain} {value name : String}

theorem column_eq_ok :
    domain.column value = .ok name ↔ Text.lower value ∈ domain.schema.columns ∧
      Text.lower value = name := ite_eq_ok

theorem metric_eq_ok :
    domain.metric value = .ok name ↔ Text.lower value ∈ domain.schema.metrics ∧
      Text.lower value = name := ite_eq_ok

theorem relation_eq_ok :
    domain.relation value = .ok name ↔ Text.lower value ∈ domain.schema.relations ∧
      Text.lower value = name := ite_eq_ok

theorem groupField_eq_ok :
    domain.groupField value = .ok name ↔ Text.lower value ∈ domain.schema.groupable ∧
      Text.lower value = name := ite_eq_ok

theorem sortKey_eq_ok {key : SortKey} :
    domain.sortKey value = .ok key ↔
      Text.lower (splitDirection value).1 ∈ domain.schema.sortable ∧
      ⟨Text.lower (splitDirection value).1, (splitDirection value).2⟩ = key := ite_eq_ok

end Domain

/-! ## §2. Directive tokens -/

namespace Token

variable {t : Token} {key : String} {values : List String}

theorem singleValue_eq_ok {name v : String} :
    t.singleValue name = .ok v ↔ ∃ key, t.kind = .directive key [v] := by
  unfold singleValue
  split
  next key w hkind => simp [hkind]
  next hkind =>
    constructor
    · exact nofun
    · rintro ⟨key, h⟩
      exact absurd h (hkind key v)

theorem isDirective_iff : t.isDirective key = true ↔ ∃ values, t.kind = .directive key values := by
  unfold isDirective
  split
  next name values hkind => simp [hkind]
  next hkind =>
    constructor
    · exact nofun
    · rintro ⟨values, h⟩
      exact absurd h (hkind key values)

end Token

/-! ## §3. What a column or sort key asks for on the side -/

namespace Directives

variable {d d' : Directives} {schema : Schema} {domain : Domain} {name value : String}

/-- Only metrics and relations are asked for. -/
theorem imply_frame :
    d.imply schema name = { d with
      metrics := (d.imply schema name).metrics
      relations := (d.imply schema name).relations } := by
  unfold imply
  split
  · rfl
  · split
    · rfl
    · split <;> rfl

@[simp] theorem columns_imply : (d.imply schema name).columns = d.columns := by
  rw [imply_frame]

@[simp] theorem sort_imply : (d.imply schema name).sort = d.sort := by
  rw [imply_frame]

@[simp] theorem group_imply : (d.imply schema name).group = d.group := by
  rw [imply_frame]

theorem mem_metrics_imply {m : String} :
    m ∈ (d.imply schema name).metrics ↔
      m ∈ d.metrics ∨ (m = name ∧ name ∉ schema.fields ∧ name ∈ schema.metrics) := by
  unfold imply
  by_cases hf : name ∈ schema.fields
  · simp [hf]
  · by_cases hm : name ∈ schema.metrics
    · simp [hf, hm, or_comm]
    · by_cases hr : name ∈ schema.relations <;> simp [hf, hm, hr]

theorem mem_relations_imply {r : String} :
    r ∈ (d.imply schema name).relations ↔
      r ∈ d.relations ∨
        (r = name ∧ name ∉ schema.fields ∧ name ∉ schema.metrics ∧ name ∈ schema.relations) := by
  unfold imply
  by_cases hf : name ∈ schema.fields
  · simp [hf]
  · by_cases hm : name ∈ schema.metrics
    · simp [hf, hm]
    · by_cases hr : name ∈ schema.relations
      · simp [hf, hm, hr, or_comm]
      · simp [hf, hm, hr]

/-! ## §4. Values of directives -/

/-- The columns with one more, unless it is there. -/
def columnsWith (d : Directives) (name : String) : List String :=
  if name ∈ d.columns.getD [] then d.columns.getD [] else d.columns.getD [] ++ [name]

theorem mem_columnsWith {c : String} :
    c ∈ d.columnsWith name ↔ c ∈ d.columns.getD [] ∨ c = name := by
  unfold columnsWith
  split
  next h =>
    constructor
    · exact .inl
    · rintro (hc | rfl)
      · exact hc
      · exact h
  next => simp

theorem nodup_columnsWith (h : (d.columns.getD []).Nodup) : (d.columnsWith name).Nodup := by
  unfold columnsWith
  split
  next => exact h
  next hname =>
    refine List.nodup_append.2 ⟨h, by simp, ?_⟩
    intro c hc n hn
    obtain rfl := List.mem_singleton.1 hn
    intro heq
    exact hname (heq ▸ hc)

theorem addColumn_eq_ok :
    addColumn domain d value = .ok d' ↔
      Text.lower value ∈ domain.schema.columns ∧
      d' = { d.imply domain.schema (Text.lower value) with
        columns := some (d.columnsWith (Text.lower value)) } := by
  unfold addColumn
  rw [bind_eq_ok]
  constructor
  · rintro ⟨name, hname, h⟩
    obtain ⟨hmem, rfl⟩ := Domain.column_eq_ok.1 hname
    have h := (Except.ok.inj h).symm
    simp only [columns_imply] at h
    exact ⟨hmem, h⟩
  · rintro ⟨hmem, rfl⟩
    refine ⟨_, Domain.column_eq_ok.2 ⟨hmem, rfl⟩, ?_⟩
    simp only [columns_imply]
    rfl

theorem addSortKey_eq_ok :
    addSortKey domain d value = .ok d' ↔ ∃ key, domain.sortKey value = .ok key ∧
      d' = { d.imply domain.schema key.field with sort := d.sort ++ [key] } := by
  unfold addSortKey
  rw [bind_eq_ok]
  refine exists_congr fun key => and_congr_right fun _ => ?_
  simp only [sort_imply]
  exact ⟨fun h => (Except.ok.inj h).symm, fun h => congrArg Except.ok h.symm⟩

theorem addMetric_eq_ok :
    addMetric domain d value = .ok d' ↔
      Text.lower value ∈ domain.schema.metrics ∧
      d' = { d with metrics := d.metrics.insert (Text.lower value) } := by
  unfold addMetric
  rw [bind_eq_ok]
  constructor
  · rintro ⟨name, hname, h⟩
    obtain ⟨hmem, rfl⟩ := Domain.metric_eq_ok.1 hname
    exact ⟨hmem, (Except.ok.inj h).symm⟩
  · rintro ⟨hmem, rfl⟩
    exact ⟨_, Domain.metric_eq_ok.2 ⟨hmem, rfl⟩, rfl⟩

theorem addRelation_eq_ok :
    addRelation domain d value = .ok d' ↔
      Text.lower value ∈ domain.schema.relations ∧
      d' = { d with relations := d.relations.insert (Text.lower value) } := by
  unfold addRelation
  rw [bind_eq_ok]
  constructor
  · rintro ⟨name, hname, h⟩
    obtain ⟨hmem, rfl⟩ := Domain.relation_eq_ok.1 hname
    exact ⟨hmem, (Except.ok.inj h).symm⟩
  · rintro ⟨hmem, rfl⟩
    exact ⟨_, Domain.relation_eq_ok.2 ⟨hmem, rfl⟩, rfl⟩

theorem onlyValue_eq_ok {token : Token} {present : Bool} {v : String} :
    onlyValue token name present = .ok v ↔
      present = false ∧ ∃ key, token.kind = .directive key [v] := by
  unfold onlyValue
  cases present with
  | true => simp
  | false => simp [Token.singleValue_eq_ok]

/-- **The seven things that a directive can do.** -/
theorem add_cases {token : Token} {key : String} {values : List String}
    (h : d.add domain token key values = .ok d') :
    (key = "cols" ∧
      values.foldlM (addColumn domain) { d with columns := some (d.columns.getD []) } = .ok d') ∨
    (key = "sort" ∧ values.foldlM (addSortKey domain) d = .ok d') ∨
    (key = "metrics" ∧ values.foldlM (addMetric domain) d = .ok d') ∨
    (key = "with" ∧ values.foldlM (addRelation domain) d = .ok d') ∨
    (key = "group" ∧ d.group = none ∧ ∃ v field k, token.kind = .directive k [v] ∧
      domain.groupField v = .ok field ∧ d' = { d with group := some field }) ∨
    (key = "view" ∧ d.view = none ∧ ∃ v view k, token.kind = .directive k [v] ∧
      View.ofValue v = .ok view ∧ d' = { d with view := some view }) ∨
    (key = "save" ∧ d.save = none ∧ ∃ v k, token.kind = .directive k [v] ∧
      d' = { d with save := some v }) := by
  unfold add at h
  split at h
  · exact .inl ⟨rfl, h⟩
  · exact .inr (.inl ⟨rfl, h⟩)
  · exact .inr (.inr (.inl ⟨rfl, h⟩))
  · exact .inr (.inr (.inr (.inl ⟨rfl, h⟩)))
  · obtain ⟨v, hv, h⟩ := bind_eq_ok.1 h
    obtain ⟨field, hfield, h⟩ := bind_eq_ok.1 h
    obtain ⟨habsent, k, hk⟩ := onlyValue_eq_ok.1 hv
    exact .inr (.inr (.inr (.inr (.inl ⟨rfl, by simpa using habsent, v, field, k, hk, hfield,
      (Except.ok.inj h).symm⟩))))
  · obtain ⟨v, hv, h⟩ := bind_eq_ok.1 h
    obtain ⟨view, hview, h⟩ := bind_eq_ok.1 h
    obtain ⟨habsent, k, hk⟩ := onlyValue_eq_ok.1 hv
    exact .inr (.inr (.inr (.inr (.inr (.inl ⟨rfl, by simpa using habsent, v, view, k, hk, hview,
      (Except.ok.inj h).symm⟩)))))
  · obtain ⟨v, hv, h⟩ := bind_eq_ok.1 h
    obtain ⟨habsent, k, hk⟩ := onlyValue_eq_ok.1 hv
    exact .inr (.inr (.inr (.inr (.inr (.inr ⟨rfl, by simpa using habsent, v, k, hk,
      (Except.ok.inj h).symm⟩)))))
  · cases h

end Directives

/-! ## §5. Tokens and texts -/

namespace Query

/-- **A token adds one clause, or changes the directives.** -/
theorem addToken_cases {q q' : Query} {t : Token} (h : q.addToken t = .ok q') :
    (∃ kind clause, t.kind.filterKind? = some kind ∧ q.domain.schema.allows kind = true ∧
      t.clause q.domain = .ok clause ∧ q' = q.addFilter clause) ∨
    (∃ key values d, t.kind = .directive key values ∧
      q.directives.add q.domain t key values = .ok d ∧ q' = { q with directives := d }) := by
  unfold addToken at h
  split at h
  next kind hkind =>
    unfold addClause at h
    split at h
    next hallows =>
      split at h
      next clause hclause =>
        exact .inl ⟨kind, clause, hkind, hallows, hclause, (Except.ok.inj h).symm⟩
      next => cases h
    next => cases h
  next key values _ hkey =>
    obtain ⟨d, hd, rfl⟩ := map_eq_ok.1 h
    exact .inr ⟨key, values, d, hkey, hd, rfl⟩
  next hnone hother =>
    -- only a directive is no filter
    cases hk : t.kind with
    | directive key values => exact absurd hk (hother key values)
    | _ => simp [TokenKind.filterKind?, hk] at hnone

theorem addToken_filter {q : Query} {t : Token} {kind : FilterKind} {clause : Clause}
    (hkind : t.kind.filterKind? = some kind) (hallows : q.domain.schema.allows kind = true)
    (hclause : t.clause q.domain = .ok clause) : q.addToken t = .ok (q.addFilter clause) := by
  unfold addToken addClause
  rw [hkind]
  dsimp only
  rw [if_pos hallows, hclause]

theorem addToken_directive {q : Query} {t : Token} {key : String} {values : List String}
    (h : t.kind = .directive key values) : q.addToken t =
      (q.directives.add q.domain t key values).map ({ q with directives := · }) := by
  unfold addToken
  rw [h]
  rfl

end Query

theorem not_load_of_loadName? {tokens : List Token} (h : loadName? tokens = .ok none) :
    ∀ t ∈ tokens, t.isDirective "load" = false := by
  unfold loadName? at h
  split at h
  next hnone =>
    intro t ht
    simpa using List.filter_eq_nil_iff.1 hnone t ht
  next =>
    obtain ⟨name, _, hname⟩ := map_eq_ok.1 h
    cases hname
  next => cases h

theorem loadName?_of_not_load {tokens : List Token}
    (h : ∀ t ∈ tokens, t.isDirective "load" = false) : loadName? tokens = .ok none := by
  have hnone : tokens.filter (·.isDirective "load") = [] := by
    rw [List.filter_eq_nil_iff]
    intro t ht
    simp [h t ht]
  unfold loadName?
  rw [hnone]

/-- A saved query is asked for by the only `load:` directive, which has one value. -/
theorem loadName?_eq_some_iff {tokens : List Token} {name : String} :
    loadName? tokens = .ok (some name) ↔ ∃ t, tokens.filter (·.isDirective "load") = [t] ∧
      t.kind = .directive "load" [name] := by
  unfold loadName?
  constructor
  · intro h
    split at h
    next => cases h
    next t hfilter =>
      refine ⟨t, hfilter, ?_⟩
      obtain ⟨v, hv, hname⟩ := map_eq_ok.1 h
      obtain rfl := Option.some.inj hname
      obtain ⟨key, hkind⟩ := Token.singleValue_eq_ok.1 hv
      have ht : t ∈ tokens.filter (·.isDirective "load") := hfilter ▸ List.mem_cons_self
      obtain ⟨values, hload⟩ := Token.isDirective_iff.1 (List.mem_filter.1 ht).2
      obtain ⟨rfl, _⟩ := TokenKind.directive.inj (hkind.symm.trans hload)
      exact hkind
    next => cases h
  · rintro ⟨t, hfilter, hkind⟩
    rw [hfilter]
    exact map_eq_ok.2 ⟨name, Token.singleValue_eq_ok.2 ⟨"load", hkind⟩, rfl⟩

theorem compile_load {tokens : List Token} {name : String} {discarded : List String}
    (h : compile tokens = .ok (.load name discarded)) : loadName? tokens = .ok (some name) := by
  obtain ⟨found, hfound, h⟩ := bind_eq_ok.1 h
  cases found with
  | some found =>
    obtain ⟨rfl, _⟩ := Compiled.load.inj (Except.ok.inj h)
    exact hfound
  | none =>
    simp only at h
    split at h
    next =>
      obtain ⟨q, _, hq⟩ := bind_eq_ok.1 h
      cases hq
    next => cases h
    next => cases h

theorem compile_ready {tokens : List Token} {q : Query} (h : compile tokens = .ok (.ready q)) :
    loadName? tokens = .ok none ∧ ∃ domain raw position rest,
      tokens = ⟨.domain domain, raw, position⟩ :: rest ∧ Query.ofTokens domain rest = .ok q := by
  obtain ⟨name, hname, h⟩ := bind_eq_ok.1 h
  cases name with
  | some name => cases h
  | none =>
    refine ⟨hname, ?_⟩
    simp only at h
    split at h
    next domain raw position rest _ =>
      obtain ⟨q', hq', h⟩ := bind_eq_ok.1 h
      obtain rfl : q' = q := Compiled.ready.inj (Except.ok.inj h)
      exact ⟨domain, raw, position, rest, rfl, hq'⟩
    next => cases h
    next => cases h

/-- Where no saved query is asked for, the first token decides what becomes of the others. -/
theorem compile_cons {first : Token} {rest : List Token}
    (hload : ∀ t ∈ first :: rest, t.isDirective "load" = false) :
    compile (first :: rest) = match first.kind with
      | .domain domain => (Query.ofTokens domain rest).map .ready
      | .textTerm _ => .error (.compile (.unknownDomain first.raw Domain.keywords))
      | _ => .error (.compile (.missingDomain Domain.keywords)) := by
  obtain ⟨kind, raw, position⟩ := first
  unfold compile
  rw [loadName?_of_not_load hload]
  cases kind with
  | domain domain =>
    show (Query.ofTokens domain rest >>= fun q => pure (Compiled.ready q)) =
      (Query.ofTokens domain rest).map .ready
    cases Query.ofTokens domain rest <;> rfl
  | _ => rfl

/-- Behind a domain word and without a saved query, compilation takes over the tokens in order. -/
theorem compile_domain {domain : Domain} {first : Token} {rest : List Token}
    (hfirst : first.kind = .domain domain) (hload : ∀ t ∈ rest, t.isDirective "load" = false) :
    compile (first :: rest) = (Query.ofTokens domain rest).map .ready := by
  have hall : ∀ t ∈ first :: rest, t.isDirective "load" = false := by
    refine List.forall_mem_cons.2 ⟨?_, hload⟩
    unfold Token.isDirective
    rw [hfirst]
  rw [compile_cons hall, hfirst]

/-- A text that compiles to a query is a domain word and tokens that were taken over in order. -/
theorem compileText_ready {text : String} {q : Query} (h : compileText text = .ok (.ready q)) :
    ∃ domain raw position rest, lex text = .ok (⟨.domain domain, raw, position⟩ :: rest) ∧
      Query.ofTokens domain rest = .ok q := by
  unfold compileText at h
  split at h
  next tokens hlex =>
    obtain ⟨_, domain, raw, position, rest, rfl, hq⟩ := compile_ready h
    exact ⟨domain, raw, position, rest, hlex, hq⟩
  next => cases h

end Agenda
