import Agenda.Proofs.Evaluation.SortedRows
import Agenda.Proofs.Query.DueWindows

/-!
# Overdue tasks and windows that lie ahead

A task is overdue if it is pending and its due date is past. Every due expression but a full date
looks ahead: under the policy that moves a past month and day to the next year, its window begins
today or later, so that no overdue task is selected by it and a query with both clauses comes out
empty. A full date can be past, and so can a month and day under the other policy; these are the only
expressions that select overdue tasks.

Main results:
  * `Due.looksBack_of_first_lt` — the due expressions whose window begins in the past;
  * `Task.exists_overdue_and_due_iff` — the due expressions that select overdue tasks;
  * `overdue_never_ahead` — a due expression that looks ahead beside `overdue`, and the number of days
    by which a task is overdue.
-/

namespace Agenda

/-! ## §1. Lateness -/

namespace Task

variable {t : Task} {today : Date}

theorem isOverdue_iff : t.isOverdue today = true ↔
    t.status = .pending ∧ ∃ date, t.due = some date ∧ date < today := by
  unfold isOverdue
  cases t.status with
  | pending => cases t.due <;> simp
  | done => simp

/-- **A task is overdue exactly if it is so by at least one day.** -/
theorem one_le_overdueDays_iff : 1 ≤ t.overdueDays today ↔ t.isOverdue today = true := by
  unfold overdueDays
  cases hdue : t.due with
  | none => simp [isOverdue_iff, hdue]
  | some date =>
    dsimp only
    constructor
    · intro hdays
      split at hdays
      next hoverdue => exact hoverdue
      next => omega
    · intro hoverdue
      rw [if_pos hoverdue]
      obtain ⟨-, date', hdate', hpast⟩ := isOverdue_iff.1 hoverdue
      rw [hdue] at hdate'
      obtain rfl := Option.some.inj hdate'
      have hnumber := Date.dayNumber_lt_of_lt hpast
      omega

end Task

/-! ## §2. Windows that begin in the past -/

namespace Due

variable {ctx : Context} {due : Due} {date : Date} {w : Window}

/-- The expression selects a day that is past: a full date, or a month and day that keep to the year
of today. -/
def LooksBack (ctx : Context) : Due → Prop
  | on date => date < ctx.today
  | monthDay month day => ctx.pastMonthDay = .currentYear ∧ ∃ date,
      Date.ofYearMonthDayOrLast? ctx.today.year month day = some date ∧ date < ctx.today
  | _ => False

/-- Looking ahead never finds a day that is past. -/
theorem currentYear_of_resolve_lt {month day : Nat}
    (h : resolveMonthDay? ctx month day = some date) (hpast : date < ctx.today) :
    ctx.pastMonthDay = .currentYear ∧
      Date.ofYearMonthDayOrLast? ctx.today.year month day = some date := by
  obtain ⟨thisYear, hthisYear, h⟩ := Option.bind_eq_some_iff.1 h
  split at h
  next =>
    -- a day of the year after today's lies ahead
    have hyear : date.year = ctx.today.year + 1 := (Date.ofYearMonthDay?_eq_some_iff.1 h).1
    have hahead : ctx.today < date := Date.lt_of_year_lt (by omega)
    exact absurd (Date.le_of_lt hahead) (mt Date.not_lt_iff_le.2 (not_not_intro hpast))
  next hkept =>
    obtain rfl : thisYear = date := Option.some.inj h
    refine ⟨?_, hthisYear⟩
    cases hpolicy : ctx.pastMonthDay with
    | nextYear => exact absurd ⟨hpast, hpolicy⟩ hkept
    | currentYear => rfl

/-- A window that begins today does not begin in the past. -/
theorem not_first_lt_of_upTo {target : Option Date} (h : target.map (⟨ctx.today, ·⟩) = some w) :
    ¬ w.first < ctx.today := by
  obtain ⟨e, -, rfl⟩ := Option.map_eq_some_iff.1 h
  exact Int.lt_irrefl _

/-- **Only what looks back has a window that begins in the past**, whatever the count, month and
day. -/
theorem looksBack_of_first_lt (h : due.window ctx = .ok (some w)) (hpast : w.first < ctx.today) :
    due.LooksBack ctx := by
  cases due with
  | today =>
    obtain rfl := Option.some.inj (Except.ok.inj h)
    exact absurd hpast (Int.lt_irrefl _)
  | tomorrow =>
    obtain ⟨e, he, rfl⟩ := Option.map_eq_some_iff.1 (Except.ok.inj h)
    have hnumber := Date.addDays?_eq_some_iff.1 he
    have hbefore := Date.dayNumber_lt_of_lt hpast
    change e.dayNumber < _ at hbefore
    omega
  | withinDays days => exact absurd hpast (not_first_lt_of_upTo (Except.ok.inj h))
  | endOfWeek =>
    unfold window at h
    dsimp only at h
    split at h
    next week _ =>
      obtain rfl := Option.some.inj (Except.ok.inj h)
      exact absurd hpast (Int.lt_irrefl _)
    next => cases h
  | endOfMonth =>
    obtain rfl := Option.some.inj (Except.ok.inj h)
    exact absurd hpast (Int.lt_irrefl _)
  | withinMonths months => exact absurd hpast (not_first_lt_of_upTo (Except.ok.inj h))
  | on date =>
    obtain rfl := Option.some.inj (Except.ok.inj h)
    exact hpast
  | monthDay month day =>
    obtain ⟨date, hdate, rfl⟩ := Option.map_eq_some_iff.1 (Except.ok.inj h)
    obtain ⟨hpolicy, hthisYear⟩ := currentYear_of_resolve_lt hdate hpast
    exact ⟨hpolicy, date, hthisYear, hpast⟩

/-- What looks back selects one day, which is past. -/
theorem LooksBack.exists_day (h : due.LooksBack ctx) :
    ∃ date, due.window ctx = .ok (some (.day date)) ∧ date < ctx.today := by
  cases due with
  | on date => exact ⟨date, rfl, h⟩
  | monthDay month day =>
    obtain ⟨hpolicy, date, hdate, hpast⟩ := h
    refine ⟨date, ?_, hpast⟩
    have hresolve : resolveMonthDay? ctx month day = some date := by
      unfold resolveMonthDay?
      rw [hdate, hpolicy]
      exact if_neg fun hnext => PastMonthDay.noConfusion hnext.2
    show Except.ok ((resolveMonthDay? ctx month day).map Window.day) = _
    rw [hresolve]
    rfl
  | _ => exact h.elim

/-- Looking ahead, nothing but a full date looks back. -/
theorem not_looksBack_of_nextYear (hpolicy : ctx.pastMonthDay = .nextYear)
    (hdue : ∀ date, due ≠ .on date) : ¬ due.LooksBack ctx := by
  intro h
  cases due with
  | on date => exact hdue date rfl
  | monthDay month day =>
    obtain ⟨hcurrent, -⟩ := h
    rw [hpolicy] at hcurrent
    cases hcurrent
  | _ => exact h

end Due

/-! ## §3. Overdue tasks that are selected -/

section

variable {ctx : Context} {due : Due} {t : Task}

theorem Clause.overdue_holds_iff :
    Clause.overdue.holds (.task t) ctx = .ok true ↔ t.isOverdue ctx.today = true := by
  show Except.ok (t.isOverdue ctx.today) = .ok true ↔ _
  rw [Except.ok.injEq]

theorem Clause.due_holds_iff : (Clause.due due).holds (.task t) ctx = .ok true ↔
    ∃ date w, t.due = some date ∧ due.window ctx = .ok (some w) ∧ w.contains date = true := by
  show (Clause.due due).holdsForTask t ctx = .ok true ↔ _
  unfold holdsForTask
  cases t.due with
  | none => simp
  | some date =>
    show (due.window ctx).map _ = .ok true ↔ _
    rw [map_eq_ok]
    constructor
    · intro hselects
      obtain ⟨window, hwindow, hany⟩ := hselects
      obtain ⟨w, rfl, hcontains⟩ := Option.any_eq_true _ _ |>.1 hany
      exact ⟨date, w, rfl, hwindow, hcontains⟩
    · intro hdue
      obtain ⟨date', w, hdate, hwindow, hcontains⟩ := hdue
      obtain rfl := Option.some.inj hdate
      exact ⟨some w, hwindow, hcontains⟩

/-- **Overdue tasks are selected exactly by what looks back.** -/
theorem Task.exists_overdue_and_due_iff :
    (∃ t : Task, Clause.overdue.holds (.task t) ctx = .ok true ∧
      (Clause.due due).holds (.task t) ctx = .ok true) ↔ due.LooksBack ctx := by
  constructor
  · intro htask
    obtain ⟨t, hoverdue, hselected⟩ := htask
    obtain ⟨date, w, hdate, hwindow, hcontains⟩ := Clause.due_holds_iff.1 hselected
    obtain ⟨-, date', hdate', hpast⟩ := Task.isOverdue_iff.1 (Clause.overdue_holds_iff.1 hoverdue)
    rw [hdate] at hdate'
    obtain rfl := Option.some.inj hdate'
    have hfirst : w.first ≤ date := (of_decide_eq_true hcontains).1
    exact Due.looksBack_of_first_lt hwindow (Int.lt_of_le_of_lt hfirst hpast)
  · intro hback
    obtain ⟨date, hwindow, hpast⟩ := hback.exists_day
    refine ⟨(Task.new 0 "" "").withDue date, ?_, ?_⟩
    · exact Clause.overdue_holds_iff.2 (Task.isOverdue_iff.2 ⟨rfl, date, rfl, hpast⟩)
    · refine Clause.due_holds_iff.2 ⟨date, .day date, rfl, hwindow, ?_⟩
      exact decide_eq_true ⟨Int.le_refl _, Int.le_refl _⟩

end

/-- The record of a row satisfies every clause of the query. -/
theorem Query.selects_of_mem_rows {q : Query} {records : Records} {ctx : Context} {out : Output}
    (h : evaluate q records ctx = .ok out) {row : Row} (hrow : row ∈ out.rows) :
    q.Selects ctx row.record := by
  obtain ⟨columns, -, rfl⟩ := evaluate_eq_ok h
  have hmem : row.record ∈ (q.rows records ctx columns).map (·.record) :=
    List.mem_map_of_mem (Row.sorted_perm.mem_iff.1 hrow)
  rw [Query.map_record_rows] at hmem
  simpa using (List.mem_filter.1 hmem).2

/-! ## §4. Looking ahead -/

/-- **NOTHING IS OVERDUE AND DUE AHEAD**: under the policy that looks ahead, no task satisfies both
`overdue` and a due expression other than a full date, and a query with both clauses has no rows,
whatever else it says and whatever it runs over. A task satisfies `overdue` exactly if it is overdue by
at least one day. -/
theorem overdue_never_ahead (today : Date) {due : Due} (hdue : ∀ date, due ≠ .on date) :
    (∀ t : Task, ¬ (Clause.overdue.holds (.task t) ⟨today, .nextYear⟩ = .ok true ∧
      (Clause.due due).holds (.task t) ⟨today, .nextYear⟩ = .ok true)) ∧
    (∀ (q : Query) (records : Records) (out : Output), .overdue ∈ q.filters →
      .due due ∈ q.filters → evaluate q records ⟨today, .nextYear⟩ = .ok out → out.rows = []) ∧
    ∀ (t : Task) (policy : PastMonthDay) (links : Links) (week : Window), ∃ days,
      (⟨links, today, week⟩ : Gauge).measure (.task t) "overdue_days" = some days ∧
        (Clause.overdue.holds (.task t) ⟨today, policy⟩ = .ok true ↔ 1 ≤ days) := by
  have hnone : ∀ t : Task, ¬ (Clause.overdue.holds (.task t) ⟨today, .nextYear⟩ = .ok true ∧
      (Clause.due due).holds (.task t) ⟨today, .nextYear⟩ = .ok true) := by
    intro t hboth
    exact Due.not_looksBack_of_nextYear rfl hdue (Task.exists_overdue_and_due_iff.1 ⟨t, hboth⟩)
  refine ⟨hnone, ?_, ?_⟩
  · intro q records out hoverdue hahead hout
    refine List.eq_nil_iff_forall_not_mem.2 fun row hrow => ?_
    have hselects := Query.selects_of_mem_rows hout hrow
    have hboth := And.intro (hselects _ hoverdue) (hselects _ hahead)
    -- only tasks can be overdue
    cases hrecord : row.record with
    | task t =>
      rw [hrecord] at hboth
      exact hnone t hboth
    | project | timeLog =>
      rw [hrecord] at hboth
      cases hboth.1
  · intro t policy links week
    refine ⟨t.overdueDays today, rfl, ?_⟩
    rw [Clause.overdue_holds_iff, Task.one_le_overdueDays_iff]

/-- On the first of March 2024 a task of the 29th of February is overdue by one day, and `due:0229` asks
for the 28th of February 2025. -/
theorem overdue_never_ahead_leap_day :
    let today : Date := ⟨2024, 3, 1, by decide, by decide, by decide⟩
    let t : Task := (Task.new 1 "file" "home").withDue ⟨2024, 2, 29, by decide, by decide, by decide⟩
    let q : Query := { domain := .task, filters := [.overdue, .due (.monthDay 2 29)] }
    (∀ date, Due.monthDay 2 29 ≠ .on date) ∧
    Clause.overdue.holds (.task t) ⟨today, .nextYear⟩ = .ok true ∧
    (Clause.due (.monthDay 2 29)).holds (.task t) ⟨today, .nextYear⟩ ≠ .ok true ∧
    ∃ out, evaluate q ⟨[t], [], []⟩ ⟨today, .nextYear⟩ = .ok out ∧ out.rows = [] := by
  intro today t q
  have hdue : ∀ date, Due.monthDay 2 29 ≠ .on date := fun _ h => Due.noConfusion h
  have hoverdue : Clause.overdue.holds (.task t) ⟨today, .nextYear⟩ = .ok true := by
    decide +kernel
  obtain ⟨out, hout⟩ : ∃ out, evaluate q ⟨[t], [], []⟩ ⟨today, .nextYear⟩ = .ok out :=
    ⟨⟨.task, Schema.task.defaultColumns, .list, [], none⟩, by decide +kernel⟩
  obtain ⟨hnone, hrows, -⟩ := overdue_never_ahead today hdue
  refine ⟨hdue, hoverdue, fun hahead => hnone t ⟨hoverdue, hahead⟩, out, hout, ?_⟩
  exact hrows q _ out (by simp [q]) (by simp [q]) hout

end Agenda
