import Agenda.Proofs.Names
import Agenda.Proofs.Query.Steps

/-!
# What tokens say together

Compilation takes over one token after the other, and each step looks at what the query holds so
far. What comes out can be said without the steps: which tokens are accepted does not depend on
their neighbours, except that three directives may appear only once, and every part of the query is
read off the values of one or two kinds of directive.

The proof goes along the tokens, and the query that those before it state is the invariant:
`Query.addToken_stated` says what one more token makes of it.

Main results:
  * `Directives.add_stated` — one more directive, for all seven keys;
  * `Query.ofTokens_eq_ok`, `compile_domain_eq_ok` — **compilation without steps**: which tokens are
    accepted, and the query that they state.
-/

namespace Agenda

/-! ## §1. What a token says -/

namespace Token

/-- The values that the token gives to the directive with the given key. -/
def valuesOf (key : String) (t : Token) : List String :=
  match t.kind with
  | .directive name values => if name = key then values else []
  | _ => []

/-- The condition that the token states for a domain, if it states one. -/
def clause? (domain : Domain) (t : Token) : Option Clause :=
  (t.clause domain).toOption

variable {t : Token} {key name : String} {values : List String}

theorem valuesOf_directive (h : t.kind = .directive name values) :
    t.valuesOf key = if name = key then values else [] := by
  unfold valuesOf
  rw [h]

theorem isDirective_directive (h : t.kind = .directive name values) :
    t.isDirective key = decide (name = key) := by
  unfold isDirective
  rw [h]
  rfl

theorem isDirective_of_filterKind? {kind : FilterKind} (h : t.kind.filterKind? = some kind) :
    t.isDirective key = false := by
  unfold isDirective
  cases hk : t.kind with
  | directive name values => simp [TokenKind.filterKind?, hk] at h
  | _ => rfl

theorem valuesOf_of_not_isDirective (h : t.isDirective key = false) : t.valuesOf key = [] := by
  unfold valuesOf
  cases hk : t.kind with
  | directive name values =>
    rw [isDirective_directive hk, decide_eq_false_iff_not] at h
    exact if_neg h
  | _ => rfl

theorem clause?_directive {domain : Domain} (h : t.kind = .directive name values) :
    t.clause? domain = none := by
  unfold clause? clause
  rw [h]
  rfl

theorem clause?_eq_some_iff {domain : Domain} {c : Clause} :
    t.clause? domain = some c ↔ t.clause domain = .ok c := by
  unfold clause?
  cases t.clause domain <;> simp [Except.toOption]

end Token

/-- The values that the tokens give to the directive with the given key. -/
def askedBy (tokens : List Token) (key : String) : List String :=
  tokens.flatMap (·.valuesOf key)

theorem askedBy_concat {tokens : List Token} {t : Token} {key : String} :
    askedBy (tokens ++ [t]) key = askedBy tokens key ++ t.valuesOf key := by
  unfold askedBy
  rw [List.flatMap_append, List.flatMap_singleton]

/-- Only the tokens with that key count. -/
theorem askedBy_eq_filter {tokens : List Token} {key : String} :
    askedBy tokens key = (tokens.filter (·.isDirective key)).flatMap (·.valuesOf key) := by
  unfold askedBy
  induction tokens with
  | nil => rfl
  | cons t rest ih =>
    rw [List.flatMap_cons, ih]
    cases h : t.isDirective key with
    | true => rw [List.filter_cons, if_pos h, List.flatMap_cons]
    | false =>
      rw [List.filter_cons, if_neg (by simp [h]), Token.valuesOf_of_not_isDirective h,
        List.nil_append]

/-! ## §2. The query that tokens state -/

/-- The sort key that a value of `sort:` spells. -/
def SortKey.ofValue (value : String) : SortKey :=
  ⟨Text.lower (splitDirection value).1, (splitDirection value).2⟩

namespace Schema

variable (schema : Schema)

/-- The metrics that columns and sort keys with the given names need. -/
def impliedMetrics (names : List String) : List String :=
  names.filter fun n => n ∉ schema.fields ∧ n ∈ schema.metrics

/-- The relations that columns and sort keys with the given names need. -/
def impliedRelations (names : List String) : List String :=
  names.filter fun n => n ∉ schema.fields ∧ n ∉ schema.metrics ∧ n ∈ schema.relations

variable {schema : Schema} {names : List String} {n : String}

theorem mem_impliedMetrics : n ∈ schema.impliedMetrics names ↔
    n ∈ names ∧ n ∉ schema.fields ∧ n ∈ schema.metrics := by
  simp [impliedMetrics]

theorem mem_impliedRelations : n ∈ schema.impliedRelations names ↔
    n ∈ names ∧ n ∉ schema.fields ∧ n ∉ schema.metrics ∧ n ∈ schema.relations := by
  simp [impliedRelations]

end Schema

/-- The names of the columns and sort keys that tokens ask for. -/
def shownBy (tokens : List Token) : List String :=
  (askedBy tokens "cols").map Text.lower ++
    (askedBy tokens "sort").map fun v => (SortKey.ofValue v).field

/-- The directives that tokens state. -/
def Directives.stated (schema : Schema) (tokens : List Token) : Directives where
  columns :=
    if tokens.any (·.isDirective "cols") then
      some ((askedBy tokens "cols").map Text.lower).eraseDups
    else none
  sort := (askedBy tokens "sort").map SortKey.ofValue
  metrics := .ofList
    ((askedBy tokens "metrics").map Text.lower ++ schema.impliedMetrics (shownBy tokens))
  relations := .ofList
    ((askedBy tokens "with").map Text.lower ++ schema.impliedRelations (shownBy tokens))
  group := (askedBy tokens "group").head?.map Text.lower
  view := (askedBy tokens "view").head?.bind View.ofName?
  save := (askedBy tokens "save").head?

/-- The query over a domain that tokens state. -/
def Query.stated (domain : Domain) (tokens : List Token) : Query where
  domain := domain
  filters := tokens.filterMap (·.clause? domain)
  directives := .stated domain.schema tokens

section

variable {schema : Schema} {tokens : List Token}

@[simp] theorem Directives.group_stated :
    (stated schema tokens).group = (askedBy tokens "group").head?.map Text.lower := rfl

@[simp] theorem Directives.view_stated :
    (stated schema tokens).view = (askedBy tokens "view").head?.bind View.ofName? := rfl

@[simp] theorem Directives.save_stated :
    (stated schema tokens).save = (askedBy tokens "save").head? := rfl

theorem Query.mem_filters_stated {domain : Domain} {c : Clause} :
    c ∈ (stated domain tokens).filters ↔ ∃ t ∈ tokens, t.clause domain = .ok c := by
  simp [stated, Token.clause?_eq_some_iff]

end

/-! ## §3. The tokens that are accepted -/

/-- The keys of the directives that may appear only once, with one value. -/
def onceKeys : List String :=
  ["group", "view", "save"]

namespace Domain

/-- Whether the domain takes the values for the directive with the given key. -/
def Takes (domain : Domain) (key : String) (values : List String) : Prop :=
  match key with
  | "cols" => ∀ v ∈ values, Text.lower v ∈ domain.schema.columns
  | "sort" => ∀ v ∈ values, (SortKey.ofValue v).field ∈ domain.schema.sortable
  | "metrics" => ∀ v ∈ values, Text.lower v ∈ domain.schema.metrics
  | "with" => ∀ v ∈ values, Text.lower v ∈ domain.schema.relations
  | "group" => ∃ v, values = [v] ∧ Text.lower v ∈ domain.schema.groupable
  | "view" => ∃ v, values = [v] ∧ ∃ view, View.ofName? v = some view
  | "save" => ∃ v, values = [v]
  | _ => False

/-- Whether the domain accepts a token, whatever stands beside it. -/
def Admits (domain : Domain) (t : Token) : Prop :=
  (∃ kind clause, t.kind.filterKind? = some kind ∧ domain.schema.allows kind = true ∧
    t.clause domain = .ok clause) ∨
  ∃ key values, t.kind = .directive key values ∧ domain.Takes key values

theorem Takes.exists_value {domain : Domain} {key : String} {values : List String}
    (h : domain.Takes key values) (hkey : key ∈ onceKeys) : ∃ v, values = [v] := by
  simp only [onceKeys, List.mem_cons, List.not_mem_nil, or_false] at hkey
  rcases hkey with rfl | rfl | rfl
  · obtain ⟨v, hv, _⟩ := h
    exact ⟨v, hv⟩
  · obtain ⟨v, hv, _⟩ := h
    exact ⟨v, hv⟩
  · exact h

end Domain

/-- Tokens that a domain accepts together. -/
structure Acceptable (domain : Domain) (tokens : List Token) : Prop where
  admitted : ∀ t ∈ tokens, domain.Admits t
  once : ∀ key ∈ onceKeys, (tokens.filter (·.isDirective key)).length ≤ 1

section

variable {domain : Domain} {tokens : List Token} {t : Token}

theorem acceptable_nil : Acceptable domain [] where
  admitted := nofun
  once := by simp

/-- Whatever stands in front of acceptable tokens is acceptable alone. -/
theorem Acceptable.of_append {rest : List Token} (h : Acceptable domain (tokens ++ rest)) :
    Acceptable domain tokens where
  admitted t ht := h.admitted t (List.mem_append_left _ ht)
  once key hkey := by
    have hall := h.once key hkey
    rw [List.filter_append, List.length_append] at hall
    omega

theorem acceptable_concat : Acceptable domain (tokens ++ [t]) ↔
    Acceptable domain tokens ∧ domain.Admits t ∧
      ∀ key ∈ onceKeys, t.isDirective key = true → tokens.filter (·.isDirective key) = [] := by
  have hlength : ∀ key, ((tokens ++ [t]).filter (·.isDirective key)).length =
      (tokens.filter (·.isDirective key)).length + if t.isDirective key then 1 else 0 := by
    intro key
    rw [List.filter_append, List.length_append]
    cases h : t.isDirective key <;> simp [h]
  constructor
  · intro h
    refine ⟨h.of_append, h.admitted t (by simp), fun key hkey ht => ?_⟩
    have hall := h.once key hkey
    rw [hlength, if_pos ht] at hall
    exact List.length_eq_zero_iff.1 (by omega)
  · rintro ⟨h, ht, honce⟩
    refine ⟨fun t' ht' => ?_, fun key hkey => ?_⟩
    · rcases List.mem_append.1 ht' with ht' | ht'
      · exact h.admitted t' ht'
      · exact List.mem_singleton.1 ht' ▸ ht
    · rw [hlength]
      by_cases hd : t.isDirective key = true
      · rw [honce key hkey hd, if_pos hd]
        exact Nat.le_refl 1
      · rw [if_neg hd]
        exact h.once key hkey

/-- A directive that is accepted has values that the domain takes for it. -/
theorem Acceptable.takes_valuesOf (h : Acceptable domain tokens) {key : String} (ht : t ∈ tokens)
    (hd : t.isDirective key = true) : domain.Takes key (t.valuesOf key) := by
  rcases h.admitted t ht with ⟨kind, _, hkind, _⟩ | ⟨name, values, hk, htakes⟩
  · rw [Token.isDirective_of_filterKind? hkind] at hd
    cases hd
  · rw [Token.isDirective_directive hk, decide_eq_true_iff] at hd
    subst hd
    rwa [Token.valuesOf_directive hk, if_pos rfl]

/-- A directive that may appear once has been given a value exactly if it has appeared. -/
theorem Acceptable.askedBy_eq_nil (h : Acceptable domain tokens) {key : String}
    (hkey : key ∈ onceKeys) :
    askedBy tokens key = [] ↔ tokens.filter (·.isDirective key) = [] := by
  rw [askedBy_eq_filter, List.flatMap_eq_nil_iff, List.eq_nil_iff_forall_not_mem]
  refine forall_congr' fun t => ?_
  constructor
  · intro hnil ht
    obtain ⟨hmem, hd⟩ := List.mem_filter.1 ht
    obtain ⟨v, hv⟩ := (h.takes_valuesOf hmem hd).exists_value hkey
    exact List.cons_ne_nil v [] (hv.symm.trans (hnil ht))
  · intro hnone ht
    exact absurd ht hnone

/-- The value of a directive that may appear once is that of any token with its key. -/
theorem Acceptable.head?_askedBy_iff (h : Acceptable domain tokens) {key v : String}
    (hkey : key ∈ onceKeys) :
    (askedBy tokens key).head? = some v ↔ ∃ t ∈ tokens, t.kind = .directive key [v] := by
  rw [askedBy_eq_filter]
  constructor
  · intro hhead
    obtain ⟨t, ht, hv⟩ := List.mem_flatMap.1 (List.mem_of_mem_head? hhead)
    obtain ⟨hmem, hd⟩ := List.mem_filter.1 ht
    obtain ⟨values, hkind⟩ := Token.isDirective_iff.1 hd
    have htakes := h.takes_valuesOf hmem hd
    rw [Token.valuesOf_directive hkind, if_pos rfl] at htakes hv
    obtain ⟨v', rfl⟩ := htakes.exists_value hkey
    obtain rfl := List.mem_singleton.1 hv
    exact ⟨t, hmem, hkind⟩
  · rintro ⟨t, hmem, hkind⟩
    have ht : t ∈ tokens.filter (·.isDirective key) :=
      List.mem_filter.2 ⟨hmem, Token.isDirective_iff.2 ⟨_, hkind⟩⟩
    -- there is no other one
    obtain ⟨t', ht'⟩ : ∃ t', tokens.filter (·.isDirective key) = [t'] := by
      refine List.length_eq_one_iff.1 (Nat.le_antisymm (h.once key hkey) ?_)
      exact List.length_pos_of_mem ht
    rw [ht'] at ht ⊢
    obtain rfl := List.mem_singleton.1 ht
    rw [List.flatMap_singleton, Token.valuesOf_directive hkind, if_pos rfl]
    rfl

/-- The first value of `view:` names a view. -/
theorem Acceptable.view_eq_none (h : Acceptable domain tokens) :
    (askedBy tokens "view").head?.bind View.ofName? = none ↔ askedBy tokens "view" = [] := by
  constructor
  · intro hnone
    cases hasked : askedBy tokens "view" with
    | nil => rfl
    | cons v rest =>
      -- the value belongs to a token that has been accepted
      have hv : v ∈ askedBy tokens "view" := hasked ▸ List.mem_cons_self
      rw [askedBy_eq_filter] at hv
      obtain ⟨t, ht, hv⟩ := List.mem_flatMap.1 hv
      obtain ⟨hmem, hd⟩ := List.mem_filter.1 ht
      obtain ⟨v', hv', view, hview⟩ := h.takes_valuesOf hmem hd
      rw [hv', List.mem_singleton] at hv
      rw [hasked, List.head?_cons, Option.bind_some, hv, hview] at hnone
      cases hnone
  · intro hnil
    rw [hnil]
    rfl

end

/-! ## §4. Loops over the values of a directive -/

theorem eraseDups_concat {names : List String} {name : String} :
    (names ++ [name]).eraseDups =
      if name ∈ names then names.eraseDups else names.eraseDups ++ [name] := by
  have hsingle : [name].eraseDups = [name] := by
    rw [List.eraseDups_cons]
    rfl
  rw [List.eraseDups_append]
  by_cases h : name ∈ names <;> simp [List.removeAll, h, hsingle]

namespace Directives

variable {schema : Schema} {domain : Domain} {d d' : Directives}

/-- The directives with everything asked for that columns and sort keys with the given names
need. -/
def implyAll (d : Directives) (schema : Schema) (names : List String) : Directives :=
  { d with
    metrics := d.metrics.insertAll (schema.impliedMetrics names)
    relations := d.relations.insertAll (schema.impliedRelations names) }

@[simp] theorem implyAll_nil : d.implyAll schema [] = d := rfl

theorem imply_implyAll {name : String} {names : List String} :
    (d.imply schema name).implyAll schema names = d.implyAll schema (name :: names) := by
  unfold imply implyAll Schema.impliedMetrics Schema.impliedRelations
  by_cases hf : name ∈ schema.fields
  · simp [hf]
  · by_cases hm : name ∈ schema.metrics
    · simp [hf, hm, NameSet.insertAll]
    · by_cases hr : name ∈ schema.relations <;> simp [hf, hm, hr, NameSet.insertAll]

/-- The directives with one more column. -/
def withColumn (schema : Schema) (d : Directives) (value : String) : Directives :=
  { d.imply schema (Text.lower value) with columns := some (d.columnsWith (Text.lower value)) }

/-- The directives with one more sort key. -/
def withSortKey (schema : Schema) (d : Directives) (value : String) : Directives :=
  { d.imply schema (SortKey.ofValue value).field with sort := d.sort ++ [SortKey.ofValue value] }

theorem foldl_withColumn {values seen : List String} (h : d.columns = some seen.eraseDups) :
    values.foldl (withColumn schema) d = { d.implyAll schema (values.map Text.lower) with
      columns := some (seen ++ values.map Text.lower).eraseDups } := by
  induction values generalizing d seen with
  | nil =>
    rw [List.map_nil, implyAll_nil, List.append_nil, ← h]
    rfl
  | cons v rest ih =>
    have hcolumns : d.columnsWith (Text.lower v) = (seen ++ [Text.lower v]).eraseDups := by
      unfold columnsWith
      rw [h, eraseDups_concat]
      simp only [Option.getD_some, List.mem_eraseDups]
    have hstep : (withColumn schema d v).columns = some (seen ++ [Text.lower v]).eraseDups :=
      congrArg some hcolumns
    rw [List.foldl_cons, ih hstep, List.map_cons, ← imply_implyAll, List.append_assoc]
    rfl

theorem foldl_withSortKey {values : List String} :
    values.foldl (withSortKey schema) d =
      { d.implyAll schema (values.map fun v => (SortKey.ofValue v).field) with
        sort := d.sort ++ values.map SortKey.ofValue } := by
  induction values generalizing d with
  | nil =>
    rw [List.map_nil, List.map_nil, implyAll_nil, List.append_nil]
    rfl
  | cons v rest ih =>
    rw [List.foldl_cons, ih, List.map_cons, List.map_cons, ← imply_implyAll]
    show _ = { (d.imply schema (SortKey.ofValue v).field).implyAll schema _ with
      sort := d.sort ++ ([SortKey.ofValue v] ++ rest.map SortKey.ofValue) }
    rw [← List.append_assoc]
    rfl

theorem foldlM_addColumn {values seen : List String} (h : d.columns = some seen.eraseDups) :
    values.foldlM (addColumn domain) d = .ok d' ↔ domain.Takes "cols" values ∧
      d' = { d.implyAll domain.schema (values.map Text.lower) with
        columns := some (seen ++ values.map Text.lower).eraseDups } := by
  have hstep : ∀ d v d', addColumn domain d v = .ok d' ↔
      Text.lower v ∈ domain.schema.columns ∧ d' = withColumn domain.schema d v :=
    fun _ _ _ => addColumn_eq_ok
  rw [foldlM_eq_ok hstep, foldl_withColumn h]
  exact Iff.rfl

theorem foldlM_addSortKey {values : List String} :
    values.foldlM (addSortKey domain) d = .ok d' ↔ domain.Takes "sort" values ∧
      d' = { d.implyAll domain.schema (values.map fun v => (SortKey.ofValue v).field) with
        sort := d.sort ++ values.map SortKey.ofValue } := by
  have hstep : ∀ d v d', addSortKey domain d v = .ok d' ↔
      (SortKey.ofValue v).field ∈ domain.schema.sortable ∧
        d' = withSortKey domain.schema d v := by
    intro d v d'
    rw [addSortKey_eq_ok]
    constructor
    · rintro ⟨key, hkey, rfl⟩
      obtain ⟨hmem, rfl⟩ := Domain.sortKey_eq_ok.1 hkey
      exact ⟨hmem, rfl⟩
    · rintro ⟨hmem, rfl⟩
      exact ⟨_, Domain.sortKey_eq_ok.2 ⟨hmem, rfl⟩, rfl⟩
  rw [foldlM_eq_ok hstep, foldl_withSortKey]
  exact Iff.rfl

theorem foldlM_addMetric {values : List String} :
    values.foldlM (addMetric domain) d = .ok d' ↔ domain.Takes "metrics" values ∧
      d' = { d with metrics := d.metrics.insertAll (values.map Text.lower) } := by
  have hloop : values.foldl (fun d v => { d with metrics := d.metrics.insert (Text.lower v) }) d =
      { d with metrics := d.metrics.insertAll (values.map Text.lower) } := by
    induction values generalizing d with
    | nil => rfl
    | cons v rest ih => exact ih
  have hstep : ∀ d v d', addMetric domain d v = .ok d' ↔ Text.lower v ∈ domain.schema.metrics ∧
      d' = { d with metrics := d.metrics.insert (Text.lower v) } :=
    fun _ _ _ => addMetric_eq_ok
  rw [foldlM_eq_ok hstep, hloop]
  exact Iff.rfl

theorem foldlM_addRelation {values : List String} :
    values.foldlM (addRelation domain) d = .ok d' ↔ domain.Takes "with" values ∧
      d' = { d with relations := d.relations.insertAll (values.map Text.lower) } := by
  have hloop :
      values.foldl (fun d v => { d with relations := d.relations.insert (Text.lower v) }) d =
        { d with relations := d.relations.insertAll (values.map Text.lower) } := by
    induction values generalizing d with
    | nil => rfl
    | cons v rest ih => exact ih
  have hstep : ∀ d v d', addRelation domain d v = .ok d' ↔ Text.lower v ∈ domain.schema.relations ∧
      d' = { d with relations := d.relations.insert (Text.lower v) } :=
    fun _ _ _ => addRelation_eq_ok
  rw [foldlM_eq_ok hstep, hloop]
  exact Iff.rfl

/-! ## §5. One more token -/

variable {tokens : List Token} {t : Token} {key : String} {values : List String}

/-- Directives are equal if their parts are, with sets compared by their members. -/
theorem eq_of_parts (columns : d.columns = d'.columns) (sort : d.sort = d'.sort)
    (metrics : ∀ m, m ∈ d.metrics ↔ m ∈ d'.metrics)
    (relations : ∀ r, r ∈ d.relations ↔ r ∈ d'.relations) (group : d.group = d'.group)
    (view : d.view = d'.view) (save : d.save = d'.save) : d = d' := by
  obtain ⟨_, _, _, _, _, _, _⟩ := d
  obtain rfl := columns
  obtain rfl := sort
  obtain rfl := NameSet.eq_of_mem_iff metrics
  obtain rfl := NameSet.eq_of_mem_iff relations
  obtain rfl := group
  obtain rfl := view
  obtain rfl := save
  rfl

theorem columns_stated : (stated schema tokens).columns.getD [] =
    ((askedBy tokens "cols").map Text.lower).eraseDups := by
  unfold stated
  dsimp only
  split
  next => rfl
  next hany =>
    have hnone : tokens.filter (·.isDirective "cols") = [] := by
      rw [List.filter_eq_nil_iff]
      intro t ht hd
      exact hany (List.any_eq_true.2 ⟨t, ht, hd⟩)
    rw [askedBy_eq_filter, hnone]
    rfl

/-- What one more token adds to each part. -/
theorem stated_concat : stated schema (tokens ++ [t]) =
    let d := (stated schema tokens).implyAll schema (shownBy [t])
    { columns :=
        if t.isDirective "cols" then
          some ((askedBy tokens "cols" ++ t.valuesOf "cols").map Text.lower).eraseDups
        else d.columns
      sort := d.sort ++ (t.valuesOf "sort").map SortKey.ofValue
      metrics := d.metrics.insertAll ((t.valuesOf "metrics").map Text.lower)
      relations := d.relations.insertAll ((t.valuesOf "with").map Text.lower)
      group := (askedBy tokens "group" ++ t.valuesOf "group").head?.map Text.lower
      view := (askedBy tokens "view" ++ t.valuesOf "view").head?.bind View.ofName?
      save := (askedBy tokens "save" ++ t.valuesOf "save").head? } := by
  have hshown : ∀ n, n ∈ shownBy (tokens ++ [t]) ↔ n ∈ shownBy tokens ∨ n ∈ shownBy [t] := by
    intro n
    simp only [shownBy, askedBy, List.flatMap_append, List.map_append, List.mem_append]
    grind
  refine eq_of_parts ?columns ?sort ?metrics ?relations ?group ?view ?save
  case columns =>
    unfold stated
    cases h : t.isDirective "cols" with
    | true => simp [h, askedBy_concat]
    | false => simp [h, askedBy_concat, Token.valuesOf_of_not_isDirective h, implyAll]
  case metrics =>
    intro m
    simp only [stated, implyAll, askedBy_concat, List.map_append, NameSet.mem_insertAll,
      NameSet.mem_ofList, List.mem_append, Schema.mem_impliedMetrics, hshown]
    grind
  case relations =>
    intro r
    simp only [stated, implyAll, askedBy_concat, List.map_append, NameSet.mem_insertAll,
      NameSet.mem_ofList, List.mem_append, Schema.mem_impliedRelations, hshown]
    grind
  case sort => simp [stated, implyAll, askedBy_concat]
  all_goals simp [stated, askedBy_concat]

theorem shownBy_singleton : shownBy [t] = (t.valuesOf "cols").map Text.lower ++
    (t.valuesOf "sort").map fun v => (SortKey.ofValue v).field := by
  simp [shownBy, askedBy]

theorem stated_concat_filter {kind : FilterKind} (h : t.kind.filterKind? = some kind) :
    stated schema (tokens ++ [t]) = stated schema tokens := by
  have hd : ∀ key, t.isDirective key = false := fun _ => Token.isDirective_of_filterKind? h
  have hvalues : ∀ key, t.valuesOf key = [] := fun _ => Token.valuesOf_of_not_isDirective (hd _)
  rw [stated_concat, shownBy_singleton]
  simp [hvalues, hd]
  rfl

/-- A directive that may appear once is taken over if it is the first one. -/
theorem add_once (h : Acceptable domain tokens) (hkind : t.kind = .directive key values)
    (hkey : key ∈ onceKeys) {present : Bool} {f : String → Except QueryError Directives}
    (hpresent : present = false ↔ askedBy tokens key = [])
    (hf : ∀ v, values = [v] → askedBy tokens key = [] →
      (f v = .ok d ↔ domain.Takes key values ∧ d = d')) :
    (onlyValue t key present >>= f) = .ok d ↔ domain.Takes key values ∧
      (key ∈ onceKeys → tokens.filter (·.isDirective key) = []) ∧ d = d' := by
  rw [bind_eq_ok, ← h.askedBy_eq_nil hkey]
  constructor
  · rintro ⟨v, hv, hd⟩
    obtain ⟨habsent, key', hkind'⟩ := onlyValue_eq_ok.1 hv
    obtain ⟨-, rfl⟩ := TokenKind.directive.inj (hkind.symm.trans hkind')
    obtain ⟨htakes, rfl⟩ := (hf v rfl (hpresent.1 habsent)).1 hd
    exact ⟨htakes, fun _ => hpresent.1 habsent, rfl⟩
  · rintro ⟨htakes, hfirst, rfl⟩
    obtain ⟨v, rfl⟩ := htakes.exists_value hkey
    have hnone := hfirst hkey
    exact ⟨v, onlyValue_eq_ok.2 ⟨hpresent.2 hnone, key, hkind⟩, (hf v rfl hnone).2 ⟨htakes, rfl⟩⟩

theorem view_ofValue_eq_ok {value : String} {view : View} :
    View.ofValue value = .ok view ↔ View.ofName? value = some view := by
  unfold View.ofValue
  cases View.ofName? value <;> simp

/-- **One more directive**, for all keys: it is taken over exactly if its values are accepted and it
is not a second one where only one may be. -/
theorem add_stated (h : Acceptable domain tokens) (hkind : t.kind = .directive key values) :
    (stated domain.schema tokens).add domain t key values = .ok d ↔
      domain.Takes key values ∧
      (key ∈ onceKeys → tokens.filter (·.isDirective key) = []) ∧
      d = stated domain.schema (tokens ++ [t]) := by
  have hvalues : ∀ other, t.valuesOf other = if key = other then values else [] :=
    fun _ => Token.valuesOf_directive hkind
  have hd : ∀ other, t.isDirective other = decide (key = other) :=
    fun _ => Token.isDirective_directive hkind
  rw [stated_concat, shownBy_singleton]
  unfold add
  -- the keys in the order in which they are tried; behind them no key is left to be taken
  split
  · rw [foldlM_addColumn (congrArg some columns_stated)]
    simp [onceKeys, hvalues, hd, implyAll]
  · rw [foldlM_addSortKey]
    simp [onceKeys, hvalues, hd, implyAll]
  · rw [foldlM_addMetric]
    simp [onceKeys, hvalues, hd]
  · rw [foldlM_addRelation]
    simp [onceKeys, hvalues, hd]
  · refine add_once h hkind (by simp [onceKeys]) (by simp) fun v hv hnone => ?_
    rw [bind_pure_eq_ok]
    simp [hvalues, hd, hv, hnone, Domain.groupField_eq_ok, Domain.Takes, and_assoc]
  · refine add_once h hkind (by simp [onceKeys]) (by simp [h.view_eq_none]) fun v hv hnone => ?_
    rw [bind_pure_eq_ok]
    simp only [view_ofValue_eq_ok]
    cases hview : View.ofName? v <;> simp [hvalues, hd, hv, hnone, hview, Domain.Takes]
  · refine add_once h hkind (by simp [onceKeys]) (by simp) fun v hv hnone => ?_
    simp [hvalues, hd, hv, hnone, Domain.Takes, pure, Except.pure, eq_comm]
  · constructor
    · intro h
      cases h
    · rintro ⟨htakes, _⟩
      unfold Domain.Takes at htakes
      split at htakes <;> contradiction

end Directives

namespace Query

variable {domain : Domain} {tokens : List Token} {t : Token} {q : Query}

theorem stated_concat_filter {kind : FilterKind} {clause : Clause}
    (hkind : t.kind.filterKind? = some kind) (hclause : t.clause domain = .ok clause) :
    stated domain (tokens ++ [t]) = (stated domain tokens).addFilter clause := by
  have hclause? : t.clause? domain = some clause := Token.clause?_eq_some_iff.2 hclause
  simp [stated, addFilter, hclause?, Directives.stated_concat_filter hkind]

theorem stated_concat_directive {key : String} {values : List String}
    (hkind : t.kind = .directive key values) : stated domain (tokens ++ [t]) =
      { stated domain tokens with directives := .stated domain.schema (tokens ++ [t]) } := by
  simp [stated, Token.clause?_directive hkind]

/-- **One more token** is taken over exactly if it can stand behind the others. -/
theorem addToken_stated (h : Acceptable domain tokens) :
    (stated domain tokens).addToken t = .ok q ↔
      Acceptable domain (tokens ++ [t]) ∧ q = stated domain (tokens ++ [t]) := by
  rw [acceptable_concat, and_iff_right h]
  constructor
  · intro hq
    rcases addToken_cases hq with ⟨kind, clause, hkind, hallows, hclause, rfl⟩ |
      ⟨key, values, d, hkind, hd, rfl⟩
    · refine ⟨⟨.inl ⟨kind, clause, hkind, hallows, hclause⟩, fun key _ ht => ?_⟩,
        (stated_concat_filter hkind hclause).symm⟩
      rw [Token.isDirective_of_filterKind? hkind] at ht
      cases ht
    · obtain ⟨htakes, honce, rfl⟩ := (Directives.add_stated h hkind).1 hd
      refine ⟨⟨.inr ⟨key, values, hkind, htakes⟩, fun key' hkey' ht => ?_⟩,
        (stated_concat_directive hkind).symm⟩
      rw [Token.isDirective_directive hkind, decide_eq_true_iff] at ht
      subst ht
      exact honce hkey'
  · rintro ⟨⟨⟨kind, clause, hkind, hallows, hclause⟩ | ⟨key, values, hkind, htakes⟩, honce⟩, rfl⟩
    · rw [stated_concat_filter hkind hclause]
      exact addToken_filter hkind hallows hclause
    · have hd := (Directives.add_stated h hkind).2 ⟨htakes,
        fun hkey => honce key hkey (by simp [Token.isDirective_directive hkind]), rfl⟩
      rw [addToken_directive hkind, stated_concat_directive hkind]
      exact map_eq_ok.2 ⟨_, hd, rfl⟩

/-! ## §6. All tokens -/

/-- The tokens behind those that have been taken over. -/
theorem foldlM_addToken_stated : ∀ {rest seen : List Token} {q : Query}, Acceptable domain seen →
    (rest.foldlM addToken (stated domain seen) = .ok q ↔
      Acceptable domain (seen ++ rest) ∧ q = stated domain (seen ++ rest))
  | [], seen, q, h => by
    rw [List.append_nil, and_iff_right h]
    exact ⟨fun hq => (Except.ok.inj hq).symm, fun hq => congrArg _ hq.symm⟩
  | t :: rest, seen, q, h => by
    have hsplit : seen ++ t :: rest = (seen ++ [t]) ++ rest := by simp
    rw [List.foldlM_cons, bind_eq_ok, hsplit]
    constructor
    · rintro ⟨q', hstep, hrest⟩
      obtain ⟨ht, rfl⟩ := (addToken_stated h).1 hstep
      exact (foldlM_addToken_stated ht).1 hrest
    · rintro ⟨hall, rfl⟩
      have ht : Acceptable domain (seen ++ [t]) := hall.of_append
      exact ⟨_, (addToken_stated h).2 ⟨ht, rfl⟩, (foldlM_addToken_stated ht).2 ⟨hall, rfl⟩⟩

/-- **Compilation without steps**: the tokens that compile are the acceptable ones, and what they
compile to is the query that they state. -/
theorem ofTokens_eq_ok :
    ofTokens domain tokens = .ok q ↔ Acceptable domain tokens ∧ q = stated domain tokens :=
  foldlM_addToken_stated acceptable_nil

end Query

/-- The sequences that compile behind a domain word are the acceptable ones. -/
theorem compile_domain_eq_ok {domain : Domain} {first : Token} {rest : List Token} {c : Compiled}
    (hfirst : first.kind = .domain domain) (hload : ∀ t ∈ rest, t.isDirective "load" = false) :
    compile (first :: rest) = .ok c ↔
      Acceptable domain rest ∧ c = .ready (.stated domain rest) := by
  rw [compile_domain hfirst hload, map_eq_ok]
  constructor
  · rintro ⟨q, hq, rfl⟩
    obtain ⟨h, rfl⟩ := Query.ofTokens_eq_ok.1 hq
    exact ⟨h, rfl⟩
  · rintro ⟨h, rfl⟩
    exact ⟨_, Query.ofTokens_eq_ok.2 ⟨h, rfl⟩, rfl⟩

end Agenda
