import Agenda.Proofs.Query.Mismatch

/-!
# Names in directives

Five directives take names: columns, sort keys, metrics, relations, and the field to group by. Each
has its own table in each domain, and the compiler looks at three things for a name that it does not
find in the table of the query's domain: the tables of the other domains, the options that it lists,
and the cause that it reports.

The five are one here (`Naming`): a table, the options that are listed, and the effect of one value.
Values are taken over one after the other, so that a name is refused where it is reached, behind
tokens that compile and values that are accepted; whatever comes later is not looked at.

Main results:
  * `SortEntry`, `splitDirection_eq_iff` — one sign, and only one, is taken off a sort key;
  * `Naming.mem_options`, `Naming.nodup_options` — the options against the table;
  * `Naming.refusal_eq_mismatch`, `Naming.refusal_eq_cause` — the two ways to refuse a name;
  * `Naming.step_eq_ok`, `Naming.step_eq_error` — one value, for all five directives;
  * `Naming.mem_options_iff_accepts` — the options against the names that are accepted;
  * `names_resolved_exactly` — which names are accepted, and how the others are refused.
-/

namespace Agenda

/-! ## §1. The sign of a sort key -/

/-- How a value of `sort:` is read: as a field and a direction, given by one sign at the end. -/
inductive SortEntry : String → String → Direction → Prop
  | descending (field : String) : SortEntry (field ++ "-") field .descending
  | ascending (field : String) : SortEntry (field ++ "+") field .ascending
  | unsigned (field : String) (minus : ∀ front, field ≠ front ++ "-")
      (plus : ∀ front, field ≠ front ++ "+") : SortEntry field field .ascending

/-- A text ends in a character exactly if that is its last one. -/
theorem getLast?_toList_eq_some_iff {s : String} {c : Char} :
    s.toList.getLast? = some c ↔ s = String.ofList s.toList.dropLast ++ String.singleton c := by
  constructor
  · intro h
    apply String.toList_inj.1
    rw [String.toList_append, String.toList_ofList, String.toList_singleton]
    exact (List.dropLast_append_getLast? c h).symm
  · intro h
    rw [h, String.toList_append, String.toList_singleton, List.getLast?_concat]

theorem splitDirection_append_minus (field : String) :
    splitDirection (field ++ "-") = (field, .descending) := by
  have hlist : (field ++ "-").toList = field.toList ++ ['-'] := String.toList_append
  unfold splitDirection
  rw [hlist, List.getLast?_concat, List.dropLast_concat, String.ofList_toList]
  rfl

theorem splitDirection_append_plus (field : String) :
    splitDirection (field ++ "+") = (field, .ascending) := by
  have hlist : (field ++ "+").toList = field.toList ++ ['+'] := String.toList_append
  unfold splitDirection
  rw [hlist, List.getLast?_concat, List.dropLast_concat, String.ofList_toList]
  rfl

/-- **One sign is taken off a sort key**, the last character. -/
theorem splitDirection_eq_iff {entry field : String} {direction : Direction} :
    splitDirection entry = (field, direction) ↔ SortEntry entry field direction := by
  constructor
  · intro h
    unfold splitDirection at h
    split at h
    next hlast =>
      obtain ⟨rfl, rfl⟩ := Prod.mk.inj h
      have hentry : entry = String.ofList entry.toList.dropLast ++ "-" :=
        getLast?_toList_eq_some_iff.1 hlast
      generalize String.ofList entry.toList.dropLast = field at hentry
      rw [hentry]
      exact .descending field
    next hlast =>
      obtain ⟨rfl, rfl⟩ := Prod.mk.inj h
      have hentry : entry = String.ofList entry.toList.dropLast ++ "+" :=
        getLast?_toList_eq_some_iff.1 hlast
      generalize String.ofList entry.toList.dropLast = field at hentry
      rw [hentry]
      exact .ascending field
    next hminus hplus =>
      obtain ⟨rfl, rfl⟩ := Prod.mk.inj h
      refine .unsigned entry (fun front heq => hminus ?_) fun front heq => hplus ?_
      · rw [heq, String.toList_append]
        exact List.getLast?_concat
      · rw [heq, String.toList_append]
        exact List.getLast?_concat
  · intro h
    cases h with
    | descending => exact splitDirection_append_minus field
    | ascending => exact splitDirection_append_plus field
    | unsigned _ minus plus =>
      unfold splitDirection
      split
      next hlast => exact absurd (getLast?_toList_eq_some_iff.1 hlast) (minus _)
      next hlast => exact absurd (getLast?_toList_eq_some_iff.1 hlast) (plus _)
      next => rfl

/-! ## §2. The five directives -/

/-- The directives whose values are names. -/
inductive Naming
  | cols
  | sort
  | metrics
  | relations
  | group
deriving DecidableEq

namespace Naming

/-- The key of the directive. -/
def key : Naming → String
  | cols => "cols"
  | sort => "sort"
  | metrics => "metrics"
  | relations => "with"
  | group => "group"

/-- The names that a domain has for the directive. -/
def table (n : Naming) (schema : Schema) : List String :=
  match n with
  | cols => schema.fields ++ schema.metrics ++ schema.relations
  | sort => schema.fields ++ schema.metrics
  | metrics => schema.metrics
  | relations => schema.relations
  | group => schema.groupable

/-- The options that are listed where a name is refused. -/
def options (n : Naming) (schema : Schema) : List String :=
  match n with
  | cols => schema.columns
  | sort => schema.sortable
  | metrics => schema.metrics
  | relations => schema.relations
  | group => schema.groupable

/-- The cause that is reported where no domain has the name. Sort keys are reported as columns. -/
def cause (n : Naming) (name : String) (domain : Domain) (valid : List String) : CompileError :=
  match n with
  | cols | sort => .invalidColumn name domain valid
  | metrics => .invalidMetric name domain valid
  | relations => .invalidRelation name domain valid
  | group => .invalidGroup name domain valid

/-- The names that directives hold. -/
def taken (n : Naming) (d : Directives) : List String :=
  match n with
  | cols => d.columns.getD []
  | sort => d.sort.map (·.field)
  | metrics => d.metrics.toList
  | relations => d.relations.toList
  | group => d.group.toList

/-- A value spells the name that is its lower-case form, for `sort:` without the sign. -/
def Spells (n : Naming) (value name : String) : Prop :=
  match n with
  | sort => ∃ field direction, SortEntry value field direction ∧ name = Text.lower field
  | cols | metrics | relations | group => name = Text.lower value

/-- The name that a value spells. -/
def nameOf (n : Naming) (value : String) : String :=
  match n with
  | sort => (SortKey.ofValue value).field
  | cols | metrics | relations | group => Text.lower value

/-- A value spells exactly one name. -/
theorem spells_iff {n : Naming} {value name : String} :
    n.Spells value name ↔ name = n.nameOf value := by
  cases n with
  | sort =>
    constructor
    · intro hspelled
      obtain ⟨field, direction, hentry, hname⟩ := hspelled
      show name = Text.lower (splitDirection value).1
      rw [splitDirection_eq_iff.2 hentry, hname]
    · intro h
      exact ⟨_, _, splitDirection_eq_iff.1 rfl, h⟩
  | _ => exact Iff.rfl

@[simp] theorem suggestions_cause {n : Naming} {name : String} {domain : Domain}
    {valid : List String} : (n.cause name domain valid).suggestions = valid := by
  cases n <;> rfl

/-! ## §3. The tables -/

/-- The options are the names of the table. -/
theorem mem_options {n : Naming} {schema : Schema} {name : String} :
    name ∈ n.options schema ↔ name ∈ n.table schema := by
  cases n with
  | cols => exact List.mem_eraseDups
  | _ => exact Iff.rfl

/-- No option is listed twice. -/
theorem nodup_options (n : Naming) (domain : Domain) : (n.options domain.schema).Nodup := by
  cases n <;> cases domain <;> decide +kernel

/-- The names of the tables are in lower case and without a sign, so that each spells itself. -/
theorem nameOf_of_mem_table {n : Naming} {domain : Domain} {name : String}
    (h : name ∈ n.table domain.schema) : n.nameOf name = name := by
  have hall : ∀ m ∈ n.table domain.schema, n.nameOf m = m := by
    clear h
    cases n <;> cases domain <;> decide +kernel
  exact hall name h

/-! ## §4. One value -/

/-- What one value does. -/
def step (n : Naming) (domain : Domain) (d : Directives) (value : String) :
    Except QueryError Directives :=
  match n with
  | cols => d.addColumn domain value
  | sort => d.addSortKey domain value
  | metrics => d.addMetric domain value
  | relations => d.addRelation domain value
  | group => (domain.groupField value).map fun field => { d with group := some field }

/-- What the values start from: `cols:` says that there are columns, even if none follows. -/
def start (n : Naming) (d : Directives) : Directives :=
  match n with
  | cols => { d with columns := some (d.columns.getD []) }
  | sort | metrics | relations | group => d

/-- The error for a name that the domain does not have. -/
def refusal (n : Naming) (domain : Domain) (name : String) : QueryError :=
  unknownName domain name (fun schema => (n.options schema).contains name)
    (n.cause name domain (n.options domain.schema))

section

variable {n : Naming} {domain : Domain} {name : String}

/-- A name that other domains have is refused with those domains, in their usual order. -/
theorem refusal_eq_mismatch (h : name ∉ n.table domain.schema)
    (hother : ∃ d : Domain, name ∈ n.table d.schema) :
    ∃ validIn : List Domain, n.refusal domain name = .domainMismatch name domain validIn ∧
      validIn.Sublist Domain.all ∧ ∀ d, d ∈ validIn ↔ d ≠ domain ∧ name ∈ n.table d.schema := by
  have hmem : ∀ d : Domain,
      d ∈ Domain.all.filter (fun d => d ≠ domain ∧ (n.options d.schema).contains name) ↔
        d ≠ domain ∧ name ∈ n.table d.schema := by
    intro d
    have hall : d ∈ Domain.all := by cases d <;> decide
    simp [hall, mem_options]
  obtain ⟨d, hd⟩ := hother
  have hd' := (hmem d).2 ⟨fun heq => h (heq ▸ hd), hd⟩
  unfold refusal unknownName
  split
  next hnone =>
    rw [hnone] at hd'
    cases hd'
  next => exact ⟨_, rfl, List.filter_sublist, hmem⟩

/-- A name that no domain has is refused with the cause of the directive and its options. -/
theorem refusal_eq_cause (h : ∀ d : Domain, name ∉ n.table d.schema) :
    n.refusal domain name = .compile (n.cause name domain (n.options domain.schema)) := by
  have hnone :
      Domain.all.filter (fun d => d ≠ domain ∧ (n.options d.schema).contains name) = [] := by
    rw [List.filter_eq_nil_iff]
    intro d _
    simp [mem_options, h d]
  unfold refusal unknownName
  rw [hnone]

end

variable {n : Naming} {domain : Domain} {d : Directives} {value : String}

/-- A name of the table is taken over. -/
theorem step_eq_ok (h : n.nameOf value ∈ n.table domain.schema) :
    ∃ d', n.step domain d value = .ok d' ∧ n.nameOf value ∈ n.taken d' := by
  have hoption := mem_options.2 h
  cases n with
  | cols =>
    exact ⟨_, Directives.addColumn_eq_ok.2 ⟨hoption, rfl⟩, Directives.mem_columnsWith.2 (.inr rfl)⟩
  | sort =>
    refine ⟨_, Directives.addSortKey_eq_ok.2 ⟨_, Domain.sortKey_eq_ok.2 ⟨hoption, rfl⟩, rfl⟩, ?_⟩
    show _ ∈ (d.sort ++ [SortKey.ofValue value]).map (·.field)
    rw [List.map_append]
    exact List.mem_append_right _ List.mem_cons_self
  | metrics =>
    exact ⟨_, Directives.addMetric_eq_ok.2 ⟨hoption, rfl⟩, NameSet.mem_insert.2 (.inl rfl)⟩
  | relations =>
    exact ⟨_, Directives.addRelation_eq_ok.2 ⟨hoption, rfl⟩, NameSet.mem_insert.2 (.inl rfl)⟩
  | group =>
    exact ⟨_, map_eq_ok.2 ⟨_, Domain.groupField_eq_ok.2 ⟨hoption, rfl⟩, rfl⟩, List.mem_cons_self⟩

/-- A name that is not in the table is refused. -/
theorem step_eq_error (h : n.nameOf value ∉ n.table domain.schema) :
    n.step domain d value = .error (n.refusal domain (n.nameOf value)) := by
  have hoption : n.nameOf value ∉ n.options domain.schema := fun hmem => h (mem_options.1 hmem)
  -- each directive looks the name up first, so that its error is that of the whole step
  cases n with
  | cols =>
    have hname : domain.column value = .error (cols.refusal domain _) := if_neg hoption
    show (domain.column value >>= _) = _
    rw [hname]
    rfl
  | sort =>
    have hname : domain.sortKey value = .error (sort.refusal domain _) := if_neg hoption
    show (domain.sortKey value >>= _) = _
    rw [hname]
    rfl
  | metrics =>
    have hname : domain.metric value = .error (metrics.refusal domain _) := if_neg hoption
    show (domain.metric value >>= _) = _
    rw [hname]
    rfl
  | relations =>
    have hname : domain.relation value = .error (relations.refusal domain _) := if_neg hoption
    show (domain.relation value >>= _) = _
    rw [hname]
    rfl
  | group =>
    have hname : domain.groupField value = .error (group.refusal domain _) := if_neg hoption
    show (domain.groupField value).map _ = _
    rw [hname]
    rfl

/-! ## §5. All values -/

variable {good rest : List String}

/-- Values that spell names of the table are taken over. -/
theorem foldlM_step_eq_ok : ∀ {values : List String} {d : Directives},
    (∀ v ∈ values, n.nameOf v ∈ n.table domain.schema) →
      ∃ d', values.foldlM (n.step domain) d = .ok d'
  | [], d, _ => ⟨d, rfl⟩
  | v :: values, d, h => by
    obtain ⟨d₁, hd₁, _⟩ := step_eq_ok (d := d) (h v List.mem_cons_self)
    obtain ⟨d', hd'⟩ := foldlM_step_eq_ok (d := d₁) fun w hw => h w (List.mem_cons_of_mem v hw)
    refine ⟨d', ?_⟩
    rw [List.foldlM_cons, hd₁]
    exact hd'

/-- Behind such values one more is taken over, if it spells a name of the table. -/
theorem foldlM_step_concat (hgood : ∀ v ∈ good, n.nameOf v ∈ n.table domain.schema)
    (h : n.nameOf value ∈ n.table domain.schema) :
    ∃ d', (good ++ [value]).foldlM (n.step domain) d = .ok d' ∧ n.nameOf value ∈ n.taken d' := by
  obtain ⟨d₁, hd₁⟩ := foldlM_step_eq_ok (d := d) hgood
  obtain ⟨d', hd', hmem⟩ := step_eq_ok (d := d₁) h
  refine ⟨d', ?_, hmem⟩
  rw [List.foldlM_append, hd₁]
  show (n.step domain d₁ value >>= pure) = _
  rw [bind_pure, hd']

/-- The first value that spells no name of the table is refused, whatever follows. -/
theorem foldlM_step_eq_error (hgood : ∀ v ∈ good, n.nameOf v ∈ n.table domain.schema)
    (h : n.nameOf value ∉ n.table domain.schema) :
    (good ++ value :: rest).foldlM (n.step domain) d =
      .error (n.refusal domain (n.nameOf value)) := by
  obtain ⟨d₁, hd₁⟩ := foldlM_step_eq_ok (d := d) hgood
  rw [List.foldlM_append, hd₁]
  show (n.step domain d₁ value >>= _) = _
  rw [step_eq_error h]
  rfl

/-- **One directive is its values in order**; `group:` is if it is the first one, with one value. -/
theorem add_eq_foldlM {t : Token} {values : List String}
    (hkind : t.kind = .directive n.key values)
    (honce : n = .group → d.group = none ∧ ∃ v, values = [v]) :
    d.add domain t n.key values = values.foldlM (n.step domain) (n.start d) := by
  cases n with
  | group =>
    -- the two checks before the name, that it is the first and has one value, both pass
    obtain ⟨hnone, v, rfl⟩ := honce rfl
    have honly : Directives.onlyValue t "group" d.group.isSome = .ok v :=
      Directives.onlyValue_eq_ok.2 ⟨by rw [hnone]; rfl, _, hkind⟩
    show (Directives.onlyValue t "group" d.group.isSome >>= fun v => domain.groupField v >>= _) =
      ((domain.groupField v).map _ >>= pure)
    rw [honly, bind_pure]
    show (domain.groupField v >>= _) = _
    cases domain.groupField v <;> rfl
  | _ => rfl

end Naming

/-! ## §6. Queries -/

/-- Behind tokens that compile, compilation goes on from their query. -/
theorem compile_append {domain : Domain} {first : Token} {before rest : List Token} {q : Query}
    (hfirst : first.kind = .domain domain) (hbefore : compile (first :: before) = .ok (.ready q))
    (hload : ∀ t ∈ rest, t.isDirective "load" = false) :
    q.domain = domain ∧
      compile (first :: before ++ rest) = (rest.foldlM Query.addToken q).map .ready := by
  -- neither part asks for a saved query, so that the whole is taken over in order
  have hnone : ∀ t ∈ before, t.isDirective "load" = false := fun t ht =>
    not_load_of_loadName? (compile_ready hbefore).1 t (List.mem_cons_of_mem first ht)
  have hq : Query.ofTokens domain before = .ok q := by
    rw [compile_domain hfirst hnone, map_eq_ok] at hbefore
    obtain ⟨q', hq', hready⟩ := hbefore
    obtain rfl := Compiled.ready.inj hready
    exact hq'
  constructor
  · rw [(Query.ofTokens_eq_ok.1 hq).2]
    rfl
  · have hall : ∀ t ∈ before ++ rest, t.isDirective "load" = false := by
      intro t ht
      rcases List.mem_append.1 ht with ht | ht
      · exact hnone t ht
      · exact hload t ht
    have hbefore' : before.foldlM Query.addToken { domain } = .ok q := hq
    rw [List.cons_append, compile_domain hfirst hall]
    unfold Query.ofTokens
    rw [List.foldlM_append, hbefore']
    rfl

namespace Naming

/-- The token with other values, for the directive. -/
def tokenWith (n : Naming) (t : Token) (values : List String) : Token :=
  { t with kind := .directive n.key values }

/-- Whether a value is accepted as a name: behind earlier tokens and the earlier values of its own
token the query compiles with it, and holds the name. -/
def Accepts (n : Naming) (earlier : List Token) (t : Token) (good : List String)
    (value name : String) : Prop :=
  ∃ q, compile (earlier ++ [n.tokenWith t (good ++ [value])]) = .ok (.ready q) ∧
    name ∈ n.taken q.directives

section

variable {n : Naming} {domain : Domain} {first t : Token} {before after : List Token} {q : Query}
variable {good rest : List String} {value : String}

theorem isDirective_load (h : t.kind = .directive n.key rest) : t.isDirective "load" = false := by
  rw [Token.isDirective_directive h]
  cases n <;> decide

variable (hfirst : first.kind = .domain domain)
  (hbefore : compile (first :: before) = .ok (.ready q))

include hfirst hbefore

/-- Behind tokens that compile, a directive is its values in order, and then come the other tokens. -/
theorem compile_directive {values : List String} (hkind : t.kind = .directive n.key values)
    (honce : n = .group → q.directives.group = none ∧ ∃ v, values = [v])
    (hafter : ∀ u ∈ after, u.isDirective "load" = false) :
    compile (first :: before ++ t :: after) =
      (values.foldlM (n.step domain) (n.start q.directives) >>= fun d =>
        after.foldlM Query.addToken { q with directives := d }).map .ready := by
  have hload : ∀ u ∈ t :: after, u.isDirective "load" = false := by
    intro u hu
    rcases List.mem_cons.1 hu with rfl | hu
    · exact isDirective_load hkind
    · exact hafter u hu
  obtain ⟨hdomain, hcompile⟩ := compile_append hfirst hbefore hload
  rw [hcompile, List.foldlM_cons, Query.addToken_directive hkind, hdomain,
    add_eq_foldlM hkind honce]
  cases values.foldlM (n.step domain) (n.start q.directives) <;> rfl

variable (hgood : ∀ v ∈ good, n.nameOf v ∈ n.table domain.schema)

include hgood

/-- The query is refused at a name that is not in the table. -/
theorem compile_eq_error (hkind : t.kind = .directive n.key (good ++ value :: rest))
    (honce : n = .group → q.directives.group = none ∧ good = [] ∧ rest = [])
    (hafter : ∀ u ∈ after, u.isDirective "load" = false)
    (h : n.nameOf value ∉ n.table domain.schema) :
    compile (first :: before ++ t :: after) = .error (n.refusal domain (n.nameOf value)) := by
  have honce' : n = .group → q.directives.group = none ∧ ∃ v, good ++ value :: rest = [v] := by
    intro hn
    obtain ⟨hnone, rfl, rfl⟩ := honce hn
    exact ⟨hnone, value, rfl⟩
  rw [compile_directive hfirst hbefore hkind honce' hafter, foldlM_step_eq_error hgood h]
  rfl

/-- A value is accepted exactly if it spells a name of the table. -/
theorem accepts_iff (honce : n = .group → q.directives.group = none ∧ good = []) :
    n.Accepts (first :: before) t good value (n.nameOf value) ↔
      n.nameOf value ∈ n.table domain.schema := by
  have hkind : (n.tokenWith t (good ++ [value])).kind = .directive n.key (good ++ [value]) := rfl
  have hafter : ∀ u ∈ ([] : List Token), u.isDirective "load" = false := nofun
  constructor
  · intro haccepts
    obtain ⟨q', hq', _⟩ := haccepts
    by_contra h
    have herror := compile_eq_error hfirst hbefore hgood hkind
      (fun hn => ⟨(honce hn).1, (honce hn).2, rfl⟩) hafter h
    cases hq'.symm.trans herror
  · intro h
    have honce' : n = .group → q.directives.group = none ∧ ∃ v, good ++ [value] = [v] := by
      intro hn
      obtain ⟨hnone, rfl⟩ := honce hn
      exact ⟨hnone, value, rfl⟩
    obtain ⟨d, hd, hmem⟩ := foldlM_step_concat (d := n.start q.directives) hgood h
    refine ⟨{ q with directives := d }, ?_, hmem⟩
    rw [compile_directive hfirst hbefore hkind honce' hafter, hd]
    rfl

/-- Every name of the table is accepted as it stands there. -/
theorem accepts_self (honce : n = .group → q.directives.group = none ∧ good = []) {m : String}
    (hm : m ∈ n.table domain.schema) : n.Accepts (first :: before) t good m m := by
  have hself := nameOf_of_mem_table hm
  have haccepts : n.Accepts (first :: before) t good m (n.nameOf m) ↔
      n.nameOf m ∈ n.table domain.schema := accepts_iff hfirst hbefore hgood honce
  rw [hself] at haccepts
  exact haccepts.2 hm

/-- **The options are the names that are accepted**, for some value that spells them. -/
theorem mem_options_iff_accepts (honce : n = .group → q.directives.group = none ∧ good = [])
    {m : String} : m ∈ n.options domain.schema ↔
      ∃ w, n.Spells w m ∧ n.Accepts (first :: before) t good w m := by
  rw [mem_options]
  -- a name of the table spells itself, signs and capitals being absent from the tables
  constructor
  · intro hm
    exact ⟨m, spells_iff.2 (nameOf_of_mem_table hm).symm,
      accepts_self hfirst hbefore hgood honce hm⟩
  · intro haccepted
    obtain ⟨w, hspells, hw⟩ := haccepted
    obtain rfl := spells_iff.1 hspells
    exact (accepts_iff hfirst hbefore hgood honce).1 hw

end

end Naming

/-! ## §7. Acceptance, mismatches and options -/

/-- **NAMES IN DIRECTIVES ARE RESOLVED EXACTLY**, in any query and at any value that is reached: the
name is accepted exactly if it is in the domain's table for the directive. Otherwise the domains whose
table for the same directive has it are named, all of them and in their usual order; where there are
none, the options are listed, each once, and they are the names that the directive accepts. -/
theorem names_resolved_exactly {n : Naming} {domain : Domain} {first t : Token}
    {before after : List Token} {q : Query} {good rest : List String} {value name : String}
    (hfirst : first.kind = .domain domain)
    (hbefore : compile (first :: before) = .ok (.ready q))
    (hkind : t.kind = .directive n.key (good ++ value :: rest))
    (hgood : ∀ v ∈ good, ∃ m ∈ n.table domain.schema, n.Spells v m)
    (honce : n = .group → q.directives.group = none ∧ good = [] ∧ rest = [])
    (hafter : ∀ u ∈ after, u.isDirective "load" = false) (hname : n.Spells value name) :
    (n.Accepts (first :: before) t good value name ↔ name ∈ n.table domain.schema) ∧
    (name ∉ n.table domain.schema → (∃ d : Domain, name ∈ n.table d.schema) →
      ∃ validIn : List Domain,
        compile (first :: before ++ t :: after) = .error (.domainMismatch name domain validIn) ∧
        validIn.Sublist Domain.all ∧
        ∀ d, d ∈ validIn ↔ d ≠ domain ∧ name ∈ n.table d.schema) ∧
    ((∀ d : Domain, name ∉ n.table d.schema) →
      ∃ error : QueryError, compile (first :: before ++ t :: after) = .error error ∧
        error = .compile (n.cause name domain error.suggestions) ∧
        error.suggestions.Nodup ∧
        (∀ m, m ∈ error.suggestions ↔
          ∃ w, n.Spells w m ∧ n.Accepts (first :: before) t good w m) ∧
        ∀ m ∈ error.suggestions, n.Accepts (first :: before) t good m m) := by
  obtain rfl := Naming.spells_iff.1 hname
  have hgood' : ∀ v ∈ good, n.nameOf v ∈ n.table domain.schema := by
    intro v hv
    obtain ⟨m, hm, hspells⟩ := hgood v hv
    rwa [Naming.spells_iff.1 hspells] at hm
  have honce' : n = .group → q.directives.group = none ∧ good = [] := fun hn =>
    ⟨(honce hn).1, (honce hn).2.1⟩
  have herror : n.nameOf value ∉ n.table domain.schema →
      compile (first :: before ++ t :: after) = .error (n.refusal domain (n.nameOf value)) :=
    Naming.compile_eq_error hfirst hbefore hgood' hkind honce hafter
  refine ⟨Naming.accepts_iff hfirst hbefore hgood' honce', ?mismatch, ?options⟩
  case mismatch =>
    intro hnot hother
    obtain ⟨validIn, hrefusal, horder, hmem⟩ := Naming.refusal_eq_mismatch hnot hother
    exact ⟨validIn, (herror hnot).trans (congrArg _ hrefusal), horder, hmem⟩
  case options =>
    intro hnot
    have hsuggestions : (QueryError.compile (n.cause (n.nameOf value) domain
        (n.options domain.schema))).suggestions = n.options domain.schema :=
      Naming.suggestions_cause
    refine ⟨_, (herror (hnot domain)).trans (congrArg _ (Naming.refusal_eq_cause hnot)), ?_⟩
    rw [hsuggestions]
    refine ⟨rfl, Naming.nodup_options n domain,
      fun m => Naming.mem_options_iff_accepts hfirst hbefore hgood' honce', fun m hm => ?_⟩
    exact Naming.accepts_self hfirst hbefore hgood' honce' (Naming.mem_options.1 hm)

/-- Sort keys of tasks with a Kelvin sign, whose lower-case form is the letter `k`: one is a metric of
tasks, one is a field that only time logs have, and one key is no name at all. -/
theorem names_resolved_exactly_kelvin :
    let first : Token := ⟨.domain .task, "tasks", 0⟩
    let s : Token := ⟨.directive "sort" ["due-", "TIME_WEE\u212A-"], "sort:due-,TIME_WEE\u212A-", 6⟩
    let t : Token := ⟨.directive "sort" ["due-", "TAS\u212A_ID+", "id"],
      "sort:due-,TAS\u212A_ID+,id", 6⟩
    let u : Token := ⟨.directive "sort" ["due-", "id--"], "sort:due-,id--", 6⟩
    (lex "tasks sort:due-,TIME_WEE\u212A-" = .ok [first, s] ∧
      lex "tasks sort:due-,TAS\u212A_ID+,id" = .ok [first, t] ∧
      lex "tasks sort:due-,id--" = .ok [first, u]) ∧
    Naming.sort.Accepts [first] s ["due-"] "TIME_WEE\u212A-" "time_week" ∧
    ¬ Naming.sort.Accepts [first] t ["due-"] "TAS\u212A_ID+" "task_id" ∧
    (∃ validIn : List Domain,
      compile [first, t] = .error (.domainMismatch "task_id" .task validIn) ∧
      validIn.Sublist Domain.all ∧
      ∀ d, d ∈ validIn ↔ d ≠ .task ∧ "task_id" ∈ Naming.sort.table d.schema) ∧
    ∃ error : QueryError, compile [first, u] = .error error ∧
      error = .compile (.invalidColumn "id-" .task error.suggestions) ∧ error.suggestions.Nodup ∧
      (∀ m, m ∈ error.suggestions ↔
        ∃ w, Naming.sort.Spells w m ∧ Naming.sort.Accepts [first] u ["due-"] w m) ∧
      ∀ m ∈ error.suggestions, Naming.sort.Accepts [first] u ["due-"] m m := by
  intro first s t u
  have hlex : lex "tasks sort:due-,TIME_WEE\u212A-" = .ok [first, s] ∧
      lex "tasks sort:due-,TAS\u212A_ID+,id" = .ok [first, t] ∧
      lex "tasks sort:due-,id--" = .ok [first, u] := by decide +kernel
  have htasks : first.kind = .domain .task := rfl
  have hfirst : compile [first] = .ok (.ready { domain := .task }) := by decide +kernel
  have hgood : ∀ v ∈ ["due-"], ∃ m ∈ Naming.sort.table Domain.task.schema,
      Naming.sort.Spells v m := by
    intro v hv
    obtain rfl := List.mem_singleton.1 hv
    exact ⟨"due", by decide, Naming.spells_iff.2 (by decide +kernel)⟩
  have hafter : ∀ u ∈ ([] : List Token), u.isDirective "load" = false := nofun
  have hs : s.kind = .directive Naming.sort.key (["due-"] ++ "TIME_WEE\u212A-" :: []) := rfl
  have ht : t.kind = .directive Naming.sort.key (["due-"] ++ "TAS\u212A_ID+" :: ["id"]) := rfl
  have hu : u.kind = .directive Naming.sort.key (["due-"] ++ "id--" :: []) := rfl
  have hweek : Naming.sort.Spells "TIME_WEE\u212A-" "time_week" :=
    Naming.spells_iff.2 (by decide +kernel)
  have hid : Naming.sort.Spells "TAS\u212A_ID+" "task_id" :=
    Naming.spells_iff.2 (by decide +kernel)
  have hminus : Naming.sort.Spells "id--" "id-" := Naming.spells_iff.2 (by decide +kernel)
  have hnone : ∀ d : Domain, "id-" ∉ Naming.sort.table d.schema := by
    intro d
    cases d <;> decide
  have hsResolved := names_resolved_exactly htasks hfirst hs hgood nofun hafter hweek
  have htResolved := names_resolved_exactly htasks hfirst ht hgood nofun hafter hid
  have huResolved := names_resolved_exactly htasks hfirst hu hgood nofun hafter hminus
  exact ⟨hlex, hsResolved.1.2 (by decide), fun h => absurd (htResolved.1.1 h) (by decide),
    htResolved.2.1 (by decide) ⟨.timeLog, by decide⟩, huResolved.2.2 hnone⟩

end Agenda
