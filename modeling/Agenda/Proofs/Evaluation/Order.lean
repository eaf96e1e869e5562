import Mathlib.Tactic.Choose
import Agenda.Proofs.Evaluation.Stages
import Agenda.Proofs.Sorting

/-!
# The order of rows

Values of different kinds are not told apart, so the order of values as a whole is not transitive:
an absent value aside, a number ties with every text. It is lawful on the values of one kind, and
the values that rows of one domain have under one name are of one kind or absent: a stored field has
the kind of the field, a metric and a number of related records are numbers.

Main results:
  * `Value.transCmp_compareIn` — values of one kind, absent ones included, are ordered either way;
  * `Row.Regular.value_isOf` — what kind of values a row has under a name;
  * `Row.transCmp_compareBy` — a chain of keys orders the rows of one domain.
-/

namespace Agenda

/-! ## §1. Values of one kind -/

namespace Value

/-- The kinds of values. -/
inductive Kind
  | int
  | text
  | date
  | priority
  | tags
deriving DecidableEq

/-- What values of a kind are made of. -/
def Kind.Carrier : Kind → Type
  | int => Int
  | text => String
  | date => Date
  | priority => Priority
  | tags => List String

/-- The value of a kind. -/
def Kind.make : (kind : Kind) → kind.Carrier → Value
  | int => Value.int
  | text => Value.text
  | date => Value.date
  | priority => Value.priority
  | tags => Value.tags

/-- Whether a value is of a kind, or absent. -/
def IsOf (v : Value) (kind : Kind) : Prop :=
  ∃ o : Option kind.Carrier, v = ofOption kind.make o

@[simp] theorem isNull_make (kind : Kind) (a : kind.Carrier) : (kind.make a).isNull = false := by
  cases kind <;> rfl

/-- Names are compared in the order of a dictionary. -/
theorem compareNames_eq : ∀ a b : List String, compareNames a b = List.compareLex compare a b
  | [], [] => rfl
  | [], _ :: _ => rfl
  | _ :: _, [] => rfl
  | a :: as, b :: bs => by
    rw [compareNames, List.compareLex_cons_cons, compareNames_eq as bs]

/-- Present values of one kind are ordered. -/
instance transCmp_comparePresent (kind : Kind) :
    Std.TransCmp fun a b : kind.Carrier => comparePresent (kind.make a) (kind.make b) := by
  cases kind with
  | int => exact inferInstanceAs (Std.TransCmp (compare : Int → Int → Ordering))
  | text =>
    exact transCmp_of_map (compare : String → String → Ordering) Text.lower fun _ _ => rfl
  | date =>
    exact transCmp_of_map (compare : Int → Int → Ordering) Date.place fun _ _ => rfl
  | priority =>
    exact transCmp_of_map (fun m n : Nat => compare n m) Priority.level fun _ _ => rfl
  | tags =>
    exact transCmp_of_map (List.compareLex (compare : String → String → Ordering)) id
      compareNames_eq

/-- Present values of one kind are ordered in either direction. -/
instance transCmp_compareIn_make (direction : Direction) (kind : Kind) :
    Std.TransCmp fun a b : kind.Carrier => compareIn direction (kind.make a) (kind.make b) := by
  have hpresent := transCmp_comparePresent kind
  cases direction with
  | ascending =>
    refine transCmp_of_map (fun a b : kind.Carrier =>
      comparePresent (kind.make a) (kind.make b)) id fun a b => ?_
    simp [compareIn]
  | descending =>
    -- the other way round is the order with its sides exchanged
    refine transCmp_of_map (fun a b : kind.Carrier =>
      comparePresent (kind.make b) (kind.make a)) id fun a b => ?_
    have hswap : comparePresent (kind.make b) (kind.make a) =
        (comparePresent (kind.make a) (kind.make b)).swap := hpresent.eq_swap
    simp [compareIn, hswap]

@[simp] theorem compareIn_null_null (direction : Direction) :
    compareIn direction null null = .eq := rfl

@[simp] theorem compareIn_null_make (direction : Direction) (kind : Kind) (a : kind.Carrier) :
    compareIn direction null (kind.make a) = .gt := by
  cases kind <;> rfl

@[simp] theorem compareIn_make_null (direction : Direction) (kind : Kind) (a : kind.Carrier) :
    compareIn direction (kind.make a) null = .lt := by
  cases kind <;> rfl

/-- **Values of one kind are ordered in either direction**, with the absent ones at the end. -/
instance transCmp_compareIn (direction : Direction) (kind : Kind) :
    Std.TransCmp fun o p : Option kind.Carrier =>
      compareIn direction (ofOption kind.make o) (ofOption kind.make p) where
  eq_swap {o p} := by
    have hpresent := transCmp_compareIn_make direction kind
    cases o with
    | none => cases p <;> simp [ofOption]
    | some a =>
      cases p with
      | none => simp [ofOption]
      | some b =>
        exact hpresent.eq_swap
  isLE_trans {o p q} hop hpq := by
    have hpresent := transCmp_compareIn_make direction kind
    cases q with
    | none => cases o <;> simp [ofOption]
    | some c =>
      -- only present values stand before a present one
      cases p with
      | none => simp [ofOption] at hpq
      | some b =>
        cases o with
        | none => simp [ofOption] at hop
        | some a => exact hpresent.isLE_trans hop hpq

end Value

/-! ## §2. The kinds of values in rows -/

/-- The kind of the values that records of a domain have under a name: that of the stored field, and
numbers for whatever is computed. -/
def Domain.kindOf (domain : Domain) (name : String) : Value.Kind :=
  match domain, name with
  | .task, "text" | .task, "project" | .task, "status" => .text
  | .task, "priority" => .priority
  | .task, "due" => .date
  | .task, "tags" => .tags
  | .project, "name" | .project, "description" | .project, "status" => .text
  | .timeLog, "project" | .timeLog, "note" => .text
  | .timeLog, "date" => .date
  | _, _ => .int

theorem Domain.kindOf_of_not_field {domain : Domain} {name : String}
    (h : name ∉ domain.schema.fields) : domain.kindOf name = .int := by
  -- every name with a kind of its own is a field
  unfold kindOf
  split
  case h_13 => rfl
  all_goals exact absurd (by decide) h

theorem Record.field_isOf (r : Record) (name : String) :
    (r.field name).IsOf (r.domain.kindOf name) := by
  cases r with
  | task t =>
    show (t.field name).IsOf (Domain.task.kindOf name)
    unfold Task.field
    split
    case h_5 => exact ⟨t.due, rfl⟩
    case h_8 => exact ⟨none, rfl⟩
    all_goals exact ⟨some _, rfl⟩
  | project p =>
    show (p.field name).IsOf (Domain.project.kindOf name)
    unfold Project.field
    split
    case h_2 => exact ⟨p.description, rfl⟩
    case h_4 => exact ⟨none, rfl⟩
    all_goals exact ⟨some _, rfl⟩
  | timeLog l =>
    show (l.field name).IsOf (Domain.timeLog.kindOf name)
    unfold TimeLog.field
    split
    case h_3 => exact ⟨l.taskId.map fun id => (id.toNat : Int), by cases l.taskId <;> rfl⟩
    case h_6 => exact ⟨l.note, rfl⟩
    case h_7 => exact ⟨none, rfl⟩
    all_goals exact ⟨some _, rfl⟩

namespace Row

/-- A row over a record of a domain, with numbers as its metrics. -/
structure Regular (domain : Domain) (row : Row) : Prop where
  domain_eq : row.record.domain = domain
  metrics : ∀ name v, row.metrics.lookup name = some v → v.IsOf .int

variable {domain : Domain}

theorem regular_ofRecord {links : Links} {ctx : Context} {d : Directives} {record : Record}
    (h : record.domain = domain) : (ofRecord links ctx d record).Regular domain where
  domain_eq := h
  metrics name v hv := by
    rw [lookup_metrics_ofRecord] at hv
    split at hv
    · exact ⟨ctx.measure links record name, (Option.some.inj hv).symm⟩
    · cases hv

theorem Regular.withCells {row : Row} (h : row.Regular domain) (columns : List String) :
    (row.withCells columns).Regular domain :=
  ⟨h.domain_eq, h.metrics⟩

/-- **What kind of values a row has under a name.** -/
theorem Regular.value_isOf {row : Row} (h : row.Regular domain) (name : String) :
    (row.value name).IsOf (domain.kindOf name) := by
  unfold value
  rw [h.domain_eq]
  by_cases hfield : name ∈ domain.schema.fields
  · rw [if_pos hfield, ← h.domain_eq]
    exact row.record.field_isOf name
  · rw [if_neg hfield, Domain.kindOf_of_not_field hfield]
    split
    next v hv => exact h.metrics name v hv
    next =>
      cases row.related.lookup name with
      | none => exact ⟨none, rfl⟩
      | some records => exact ⟨some (List.length records : Int), rfl⟩

/-! ## §3. Chains of keys -/

/-- **A chain of keys orders the rows of one domain.** -/
instance transCmp_compareBy : ∀ keys : List SortKey,
    Std.TransCmp fun a b : {row // Regular domain row} => compareBy a.1 b.1 keys
  | [] => { eq_swap := rfl, isLE_trans := fun _ _ => rfl }
  | key :: rest => by
    have hrest := transCmp_compareBy rest
    have hfirst : Std.TransCmp fun a b : {row // Regular domain row} =>
        Value.compareIn key.direction (a.1.value key.field) (b.1.value key.field) := by
      -- the values under the key are of one kind, so that they are compared lawfully
      choose o ho using fun a : {row // Regular domain row} => a.2.value_isOf key.field
      exact transCmp_of_map (fun o p => Value.compareIn key.direction
        (.ofOption (domain.kindOf key.field).make o) (.ofOption (domain.kindOf key.field).make p))
        o fun a b => by rw [ho a, ho b]
    exact inferInstanceAs (Std.TransCmp (compareLex _ _))

end Row

end Agenda
