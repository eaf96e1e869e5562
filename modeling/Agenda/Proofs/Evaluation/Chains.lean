import Agenda.Proofs.Evaluation.SortedRows

/-!
# Chains of keys

A sort is only as good as its comparison. Values of different kinds tie with each other, so that no
order of all values stands behind a key; but the rows of one evaluation never have values of
different kinds under one name, and any chain of keys compares them as a total preorder does. What a
key cannot tell apart, it cannot tell apart in the other direction either: a key whose field stands
further ahead in the chain is without effect.

Main results:
  * `Value.compareIn_eq_iff` — values tie in both directions or in none;
  * `Row.compareBy_again` — a field that stands in the chain again does not change it;
  * `chains_order_rows` — the rows of every evaluation, under any chain of keys.
-/

namespace Agenda

/-! ## §1. Fields that stand in a chain again -/

theorem Value.compareIn_eq_iff {v w : Value} (direction direction' : Direction) :
    compareIn direction v w = .eq ↔ compareIn direction' v w = .eq := by
  unfold compareIn
  cases v.isNull <;> cases w.isNull <;> cases direction <;> cases direction' <;> simp

namespace Row

variable {before between after : List SortKey} {key again : SortKey}

theorem compareBy_again (hfield : again.field = key.field) (a b : Row) :
    compareBy a b (before ++ key :: (between ++ again :: after)) =
      compareBy a b (before ++ key :: (between ++ after)) := by
  rw [compareBy_append, compareBy_append]
  refine congrArg _ ?_
  show (Value.compareIn key.direction _ _).then _ = (Value.compareIn key.direction _ _).then _
  cases hkey : Value.compareIn key.direction (a.value key.field) (b.value key.field) with
  | lt | gt => rfl
  | eq =>
    -- the rows tie on the field, so that they tie on it once more
    have hagain : Value.compareIn again.direction (a.value again.field) (b.value again.field) =
        .eq := by
      rw [hfield]
      exact (Value.compareIn_eq_iff _ _).1 hkey
    show compareBy a b (between ++ again :: after) = compareBy a b (between ++ after)
    rw [compareBy_append, compareBy_append, compareBy, hagain]
    rfl

theorem sorted_again (hfield : again.field = key.field) (rows : List Row) :
    sorted (before ++ key :: (between ++ again :: after)) rows =
      sorted (before ++ key :: (between ++ after)) rows := by
  have hcompare : (fun a b => compareBy a b (before ++ key :: (between ++ again :: after)) != .gt) =
      fun a b => compareBy a b (before ++ key :: (between ++ after)) != .gt := by
    funext a b
    rw [compareBy_again hfield]
  unfold sorted
  rw [hcompare]

end Row

/-! ## §2. The rows of an evaluation -/

/-- The query with another chain of keys. -/
def Query.sortedBy (q : Query) (keys : List SortKey) : Query :=
  { q with directives := { q.directives with sort := keys } }

/-- The chain of keys does not decide whether there is an output, only in what order its rows are. -/
theorem evaluate_sortedBy_congr {q : Query} {keys keys' : List SortKey}
    (h : ∀ rows, Row.sorted keys rows = Row.sorted keys' rows) (records : Records) (ctx : Context) :
    evaluate (q.sortedBy keys) records ctx = evaluate (q.sortedBy keys') records ctx := by
  unfold evaluate Query.sortedBy
  dsimp only
  rw [funext h]
  rfl

variable {q : Query} {records : Records} {ctx : Context} {out : Output}

theorem regular_of_mem_output (h : evaluate q records ctx = .ok out) {row : Row}
    (hrow : row ∈ out.rows) : row.Regular q.domain := by
  obtain ⟨columns, -, rfl⟩ := evaluate_eq_ok h
  exact Query.regular_of_mem_rows (Row.sorted_perm.mem_iff.1 hrow)

/-- **CHAINS OF KEYS ORDER THE ROWS**: whatever the query, if its evaluation succeeds, the values
that its rows have under a name, be it a field, a metric, a relation or nothing at all, are of one
kind or absent; under every chain of keys, in whatever directions, the comparison of rows is a total
preorder on them; and leaving a key out whose field stands further ahead in the chain, in either
direction, gives the same output. -/
theorem chains_order_rows (h : evaluate q records ctx = .ok out) :
    (∀ name, ∃ kind : Value.Kind, ∀ row ∈ out.rows, (row.value name).IsOf kind) ∧
      (∀ keys, IsTotalPreorderOn (Row.compareBy · · keys) out.rows) ∧
      ∀ (before between after : List SortKey) (key again : SortKey), again.field = key.field →
        evaluate (q.sortedBy (before ++ key :: (between ++ again :: after))) records ctx =
          evaluate (q.sortedBy (before ++ key :: (between ++ after))) records ctx := by
  have hregular : ∀ row ∈ out.rows, row.Regular q.domain := fun _ => regular_of_mem_output h
  refine ⟨fun name => ⟨q.domain.kindOf name, fun row hrow => (hregular row hrow).value_isOf name⟩,
    fun keys => isTotalPreorderOn (Row.compareBy · · keys) hregular, ?_⟩
  intro before between after key again hfield
  exact evaluate_sortedBy_congr (Row.sorted_again hfield) records ctx

/-- A metric that some records have above zero, dates that some lack, a relation that is not
followed, and a name that does not exist, asked for by no compiled query. -/
theorem chains_order_rows_mixed :
    let today : Date := ⟨2024, 3, 13, by decide, by decide, by decide⟩
    let records : Records := {
      tasks := [.new 3 "call" "work", (Task.new 1 "write" "home").withDue today,
        (Task.new 2 "read" "Home").withPriority 1]
      projects := []
      timeLogs := [⟨1, "home", some 1, today, 30, none⟩] }
    let q : Query := {
      domain := .task
      directives := {
        columns := some ["time", "time"]
        metrics := .ofList ["time_today"]
        sort := [⟨"nothing", .ascending⟩, ⟨"due", .descending⟩, ⟨"project", .ascending⟩,
          ⟨"due", .ascending⟩] } }
    ∃ out, evaluate q records ⟨today, .nextYear⟩ = .ok out ∧
      (∀ name, ∃ kind : Value.Kind, ∀ row ∈ out.rows, (row.value name).IsOf kind) ∧
      (∀ keys, IsTotalPreorderOn (Row.compareBy · · keys) out.rows) ∧
      ∀ (before between after : List SortKey) (key again : SortKey), again.field = key.field →
        evaluate (q.sortedBy (before ++ key :: (between ++ again :: after))) records
            ⟨today, .nextYear⟩ =
          evaluate (q.sortedBy (before ++ key :: (between ++ after))) records
            ⟨today, .nextYear⟩ := by
  intro today records q
  have hok : (evaluate q records ⟨today, .nextYear⟩).isOk = true := by decide +kernel
  cases hout : evaluate q records ⟨today, .nextYear⟩ with
  | ok out => exact ⟨out, rfl, chains_order_rows hout⟩
  | error e =>
    rw [hout] at hok
    cases hok

/-- Values of several kinds would have no order: a text ties with numbers that do not tie. -/
example : Value.compareIn .ascending (.int 2) (.text "") = .eq ∧
    Value.compareIn .ascending (.text "") (.int 1) = .eq ∧
    Value.compareIn .ascending (.int 2) (.int 1) = .gt := by decide

end Agenda
