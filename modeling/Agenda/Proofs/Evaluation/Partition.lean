import Std.Data.String.ToInt
import Agenda.Proofs.Calendar.DateText
import Agenda.Proofs.Evaluation.Cells
import Agenda.Proofs.Evaluation.Grouping

/-!
# Groups by the value of a field

Rows are gathered by the text of a value, not by the value. For the fields that a query can group by
this makes no difference: what is shown of a number, a date, a priority or a text tells which one it
is, and the key of the rows without a value is not shown for any number, date or priority. A text
may well read `none`, but the fields with texts that can be grouped by are never absent.

Main results:
  * `Value.key_inj` — values of a kind that can be grouped by have different keys;
  * `Group.isPartition_gather` — rows with one kind of value are gathered by these values;
  * `compiled_groups` — the groups of every compiled query that asks for them.
-/

namespace Agenda

/-! ## §1. What is shown of a value -/

namespace Value

/-- The key of the group of a value. -/
def key (v : Value) : String :=
  if v.isNull then Row.noGroup else v.display

theorem key_make (kind : Kind) (a : kind.Carrier) : (kind.make a).key = (kind.make a).display := by
  unfold key
  rw [isNull_make]
  rfl

/-- What is shown of a present value tells which one it is; only names of tags can run together. -/
theorem display_make_inj {kind : Kind} (hkind : kind ≠ .tags) {a b : kind.Carrier}
    (h : (kind.make a).display = (kind.make b).display) : a = b := by
  cases kind with
  | int => exact Int.repr_injective h
  | text => exact h
  | date => exact Date.text_injective h
  | priority =>
    obtain ⟨m, hm⟩ := a
    obtain ⟨n, hn⟩ := b
    have hlevel : m.repr = n.repr := String.append_right_inj "p" |>.1 h
    obtain rfl := Nat.repr_injective hlevel
    rfl
  | tags => exact absurd rfl hkind

/-- A numeral holds digits, behind a dash if it is negative. -/
theorem repr_ne_noGroup (a : Int) : a.repr ≠ Row.noGroup := by
  intro h
  cases a with
  | ofNat m =>
    have hletter : 'n' ∈ m.repr.toList := by
      rw [show m.repr = Row.noGroup from h]
      decide
    rw [Nat.toList_repr] at hletter
    have hdigit : 'n'.isDigit = true := Nat.isDigit_of_mem_toDigits (by decide) (by decide) hletter
    cases hdigit
  | negSucc m =>
    have hdash : Row.noGroup.toList = '-' :: (m + 1).repr.toList := by
      rw [← h]
      exact String.toList_append
    cases hdash

/-- The key for absent values is never shown, unless for a text. -/
theorem display_make_ne_noGroup {kind : Kind} (htags : kind ≠ .tags) (htext : kind ≠ .text)
    (a : kind.Carrier) : (kind.make a).display ≠ Row.noGroup := by
  intro h
  cases kind with
  | int => exact repr_ne_noGroup a h
  | text => exact htext rfl
  | date =>
    have hread : DateForm.tight.read? (Date.text a) = some a := DateForm.read?_text _ a
    have hshown : Date.text a = "none" := h
    rw [hshown] at hread
    cases hread
  | priority =>
    have hletters : 'p' :: (toString a.level).toList = "none".toList := by
      rw [← show (Kind.priority.make a).display = "none" from h]
      exact (String.toList_append (s := "p")).symm
    cases hletters
  | tags => exact htags rfl

/-- **Values of a kind that can be grouped by have different keys**: texts if they are present, and
numbers, dates and priorities also if they are not. -/
theorem key_inj {kind : Kind} (htags : kind ≠ .tags) {v w : Value} (hv : v.IsOf kind)
    (hw : w.IsOf kind) (htext : kind = .text → v.isNull = false ∧ w.isNull = false) :
    v.key = w.key ↔ v = w := by
  refine ⟨fun h => ?_, fun h => h ▸ rfl⟩
  obtain ⟨o, rfl⟩ := hv
  obtain ⟨p, rfl⟩ := hw
  -- an absent value is grouped with present ones only if they are texts
  have hmixed : ∀ a : kind.Carrier, (kind.make a).key = Row.noGroup → kind = .text := by
    intro a ha
    by_contra htext
    rw [key_make] at ha
    exact display_make_ne_noGroup htags htext a ha
  cases o with
  | none =>
    cases p with
    | none => rfl
    | some b => cases (htext (hmixed b h.symm)).1
  | some a =>
    cases p with
    | none => cases (htext (hmixed a h)).2
    | some b =>
      have hshown : (kind.make a).display = (kind.make b).display := by
        rw [← key_make, ← key_make]
        exact h
      rw [display_make_inj htags hshown]

end Value

/-! ## §2. Fields to group by -/

theorem Domain.groupable_mem_fields (domain : Domain) :
    ∀ f ∈ domain.schema.groupable, f ∈ domain.schema.fields := by
  cases domain <;> decide

theorem Domain.kindOf_groupable (domain : Domain) :
    ∀ f ∈ domain.schema.groupable, domain.kindOf f ≠ .tags := by
  cases domain <;> decide

/-- A field with texts that can be grouped by is never absent. -/
theorem Record.field_present {r : Record} {f : String} (hf : f ∈ r.domain.schema.groupable)
    (hkind : r.domain.kindOf f = .text) : (r.field f).isNull = false := by
  cases r with
  | task t =>
    simp only [Record.domain, Domain.schema, Schema.task, List.mem_cons, List.not_mem_nil,
      or_false] at hf
    rcases hf with rfl | rfl | rfl | rfl
    case inr.inr.inl => cases hkind
    all_goals rfl
  | project p =>
    obtain rfl := List.mem_singleton.1 hf
    rfl
  | timeLog l =>
    simp only [Record.domain, Domain.schema, Schema.timeLog, List.mem_cons, List.not_mem_nil,
      or_false] at hf
    rcases hf with rfl | rfl | rfl
    case inr.inl => cases hkind
    all_goals rfl

/-- Rows of one domain have one key exactly if they have one value. -/
theorem Row.groupKey_eq_iff {domain : Domain} {f : String} (hf : f ∈ domain.schema.groupable)
    {a b : Row} (ha : a.record.domain = domain) (hb : b.record.domain = domain) :
    a.groupKey f = b.groupKey f ↔ a.record.field f = b.record.field f := by
  have hfield : ∀ row : Row, row.record.domain = domain →
      row.groupKey f = (row.record.field f).key := by
    intro row hrow
    show (row.value f).key = _
    rw [value_field (hrow ▸ domain.groupable_mem_fields f hf)]
  have hkind : ∀ row : Row, row.record.domain = domain →
      (row.record.field f).IsOf (domain.kindOf f) := by
    rintro row rfl
    exact row.record.field_isOf f
  have hpresent : ∀ row : Row, row.record.domain = domain → domain.kindOf f = .text →
      (row.record.field f).isNull = false := by
    rintro row rfl
    exact row.record.field_present hf
  rw [hfield a ha, hfield b hb]
  exact Value.key_inj (domain.kindOf_groupable f hf) (hkind a ha) (hkind b hb) fun htext =>
    ⟨hpresent a ha htext, hpresent b hb htext⟩

/-! ## §3. Partitions -/

/-- The groups cut the rows up by the stored values of a field. -/
structure Group.IsPartition (field : String) (rows : List Row) (groups : List Group) : Prop where
  /-- Together the groups hold every row once. -/
  together : (groups.flatMap (·.rows)).Perm rows
  /-- The rows of a group are in their order. -/
  sublist : ∀ g ∈ groups, g.rows.Sublist rows
  nonempty : ∀ g ∈ groups, g.rows ≠ []
  /-- The groups are in the order of their first rows. -/
  in_order : Group.InOrder rows groups
  keys_nodup : (groups.map (·.key)).Nodup
  /-- Two rows are in one group exactly if they have one value. -/
  same_group : ∀ a ∈ rows, ∀ b ∈ rows,
    (∃ g ∈ groups, a ∈ g.rows ∧ b ∈ g.rows) ↔ a.record.field field = b.record.field field
  /-- The rows without a value are in the group with the key for them. -/
  absent : ∀ g ∈ groups, ∀ row ∈ g.rows, (row.record.field field).isNull = true →
    g.key = Row.noGroup

/-- **Rows of one domain are gathered by the values of a field that can be grouped by.** -/
theorem Group.isPartition_gather {domain : Domain} {f : String}
    (hf : f ∈ domain.schema.groupable) {rows : List Row}
    (hrows : ∀ row ∈ rows, row.record.domain = domain) :
    IsPartition f rows (gather f rows) where
  together := gather_perm
  sublist g hg := by
    rw [(mem_gather.1 hg).2]
    exact List.filter_sublist
  nonempty g hg := (mem_gather.1 hg).1
  in_order := inOrder_gather
  keys_nodup := nodup_keys_gather
  same_group a ha b hb := by
    rw [exists_gather_iff ha hb, Row.groupKey_eq_iff hf (hrows a ha) (hrows b hb)]
  absent g hg row hrow hnull := by
    obtain ⟨hmem, hkey⟩ := groupKey_of_mem hg hrow
    have hfield : f ∈ row.record.domain.schema.fields := by
      rw [hrows row hmem]
      exact domain.groupable_mem_fields f hf
    rw [← hkey, Row.groupKey, Row.value_field hfield, hnull]
    rfl

/-- The groups of a well-formed query, where it has a result. -/
theorem Query.WellFormed.groups_isPartition {q : Query} (hq : q.WellFormed) {f : String}
    (hgroup : q.directives.group = some f) {records : Records} {ctx : Context} {out : Output}
    (h : evaluate q records ctx = .ok out) :
    ∃ groups, out.groups = some groups ∧ Group.IsPartition f out.rows groups := by
  have hdomain : ∀ row ∈ out.rows, row.record.domain = q.domain := fun _ => domain_of_mem_rows h
  obtain ⟨columns, -, rfl⟩ := evaluate_eq_ok h
  refine ⟨_, Option.map_eq_some_iff.2 ⟨f, hgroup, rfl⟩, ?_⟩
  exact Group.isPartition_gather (hq.directives.group_mem f hgroup) hdomain

/-- **GROUPS ARE AN EXACT PARTITION**: whatever text compiles to a query that asks for groups, the
query is answered over all collections unless the week of today leaves the calendar, with its
defaults or without them, and the groups of the answer cut its rows up by the stored values of the
field. -/
theorem compiled_groups {text : String} {q : Query} {f : String}
    (h : compileText text = .ok (.ready q)) (hgroup : q.directives.group = some f)
    (records : Records) (ctx : Context) :
    ∀ q' ∈ [q, q.withDefaults], q'.AnsweredOver records ctx ∧
      ∀ out, evaluate q' records ctx = .ok out →
        ∃ groups, out.groups = some groups ∧ Group.IsPartition f out.rows groups := by
  have hq : q.WellFormed := Query.WellFormed.of_compileText h
  rw [List.forall_mem_cons, List.forall_mem_singleton]
  exact ⟨⟨hq.answered records ctx, fun out hout => hq.groups_isPartition hgroup hout⟩,
    hq.withDefaults.answered records ctx,
    fun out hout => hq.withDefaults.groups_isPartition hgroup hout⟩

/-- Tasks of projects whose names differ in case, one of them with the name that stands for absent
values elsewhere. -/
theorem compiled_groups_case :
    let today : Date := ⟨2024, 3, 13, by decide, by decide, by decide⟩
    let records : Records :=
      ⟨[.new 3 "call" "none", .new 1 "write" "Home", .new 2 "read" "home", .new 4 "rest" "none"],
        [], []⟩
    let q : Query := {
      domain := .task
      directives := { sort := [⟨"id", .descending⟩], group := some "project" } }
    ∀ q' ∈ [q, q.withDefaults], q'.AnsweredOver records ⟨today, .nextYear⟩ ∧
      ∀ out, evaluate q' records ⟨today, .nextYear⟩ = .ok out →
        ∃ groups, out.groups = some groups ∧ Group.IsPartition "project" out.rows groups :=
  @compiled_groups "tasks group:project sort:id-" _ _ (by decide +kernel) rfl _ _

end Agenda
