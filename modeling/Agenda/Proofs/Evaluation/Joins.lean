import Mathlib.Algebra.Order.BigOperators.Group.List
import Mathlib.Algebra.Order.Group.Int
import Mathlib.Algebra.Ring.Int.Defs
import Agenda.Proofs.Calendar.Windows
import Agenda.Proofs.Evaluation.Stages

/-!
# Joins are scans

Every step from record to record goes through an index that is built once. What it finds is what a
scan of the collection finds: an index that gathers gives all records with the key, in the order of
the collection, and an index that replaces gives the last of them. Numbers and names may be
repeated, and may lead nowhere.

THE LAST MONTH IS CUT OFF: minutes count for the day, the week or the month of their dates, but no
month comes after the last one of the calendar, and of its dates those behind today do not count.

Main results:
  * `Links.getD_bucket`, `Links.getElem?_latest` — the two kinds of index as scans of a list;
  * `Gauge.measure_task_time`, `Gauge.measure_project_time` — minutes as exact sums that are wrapped
    around;
  * `joins_eq_scans` — every relation and every metric that joins, as scans of the collections.
-/

namespace Agenda

/-! ## §1. Scans -/

namespace Records

/-- The time logs with the number of a task. -/
def logsOfTask (records : Records) (t : Task) : List TimeLog :=
  records.timeLogs.filter fun l => l.taskId = some t.id

/-- The tasks with the name of a project. -/
def tasksOfProject (records : Records) (name : String) : List Task :=
  records.tasks.filter fun t => t.project = name

/-- The time logs with the name of a project. -/
def logsOfProject (records : Records) (name : String) : List TimeLog :=
  records.timeLogs.filter fun l => l.project = name

/-- The last project with a name. -/
def projectNamed? (records : Records) (name : String) : Option Project :=
  (records.projects.filter fun p => p.name = name).getLast?

/-- The last task with a number. -/
def taskNumbered? (records : Records) (id : UInt32) : Option Task :=
  (records.tasks.filter fun t => t.id = id).getLast?

/-- The minutes that are logged on a task on dates of a kind. -/
def minutesOn (records : Records) (dated : Date → Bool) (t : Task) : Int :=
  (((records.logsOfTask t).filter fun l => dated l.date).map fun l => (l.minutes.toNat : Int)).sum

theorem minutesOn_nonneg (records : Records) (dated : Date → Bool) (t : Task) :
    0 ≤ records.minutesOn dated t :=
  List.sum_nonneg (List.forall_mem_map.2 fun _ _ => Int.natCast_nonneg _)

/-- The minutes that are logged on the tasks of a project on dates of a kind; those of a log count
once for each task with its number. -/
def minutesOfProject (records : Records) (dated : Date → Bool) (p : Project) : Int :=
  ((records.tasksOfProject p.name).map (records.minutesOn dated)).sum

section

variable (records : Records) (dated : Date → Bool) {p : Project}

theorem minutesOfProject_nonneg (p : Project) : 0 ≤ records.minutesOfProject dated p :=
  List.sum_nonneg (List.forall_mem_map.2 fun t _ => records.minutesOn_nonneg dated t)

theorem minutesOn_le_minutesOfProject {t : Task} (h : t ∈ records.tasksOfProject p.name) :
    records.minutesOn dated t ≤ records.minutesOfProject dated p :=
  List.single_le_sum (List.forall_mem_map.2 fun t _ => records.minutesOn_nonneg dated t) _
    (List.mem_map_of_mem h)

end

end Records

/-- Whether a metric counts the minutes of a date on the day `today`: those of the day itself, of the
dates that have the same Monday, or of the dates of the same month. In the last month of the calendar
the dates behind `today` are not counted. -/
def Date.counts (today : Date) (metric : String) (d : Date) : Bool :=
  match metric with
  | "time_today" => d = today
  | "time_week" => d.mondayNumber = today.mondayNumber
  | "time_month" => (d.year = today.year ∧ d.month = today.month) ∧
      (today.InLastMonth → d.day ≤ today.day)
  | _ => false

/-! ## §2. Indexes -/

namespace Links

section

variable {α β : Type} [BEq α] [LawfulBEq α] [Hashable α] [LawfulHashable α] [DecidableEq α]

/-- An index that gathers holds under each key the values with that key, in order. -/
theorem getD_bucket (key : β → Option α) (values : List β) (k : α) :
    (bucket key values).getD k [] = values.filter fun v => key v = some k := by
  -- the index of a list is that of its tail, with the head put before what is under its key
  induction values with
  | nil =>
    show (∅ : Std.HashMap α (List β)).getD k [] = []
    exact Std.HashMap.getD_empty
  | cons v rest ih =>
    cases hkey : key v with
    | none =>
      have hcons : bucket key (v :: rest) = bucket key rest := by
        unfold bucket
        rw [List.foldr_cons, hkey]
      rw [hcons, ih, List.filter_cons_of_neg (by simp [hkey])]
    | some own =>
      have hcons : bucket key (v :: rest) = pushFront own v (bucket key rest) := by
        unfold bucket
        rw [List.foldr_cons, hkey]
      rw [hcons, pushFront, Std.HashMap.getD_insert]
      by_cases h : own = k
      · subst h
        rw [List.filter_cons_of_pos (by simp [hkey]), if_pos (by simp), ih]
      · rw [List.filter_cons_of_neg (by simp [hkey, h]), if_neg (by simp [h]), ih]

/-- What is put in later counts before what was there. -/
theorem getElem?_foldl_insert (key : β → α) (k : α) : ∀ (values : List β) (m : Std.HashMap α β),
    (values.foldl (fun m v => m.insert (key v) v) m)[k]? =
      (values.filter fun v => key v = k).getLast?.or m[k]?
  | [], m => by simp
  | v :: rest, m => by
    rw [List.foldl_cons, getElem?_foldl_insert key k rest, Std.HashMap.getElem?_insert]
    by_cases h : key v = k
    · rw [List.filter_cons_of_pos (by simp [h]), if_pos (by simp [h]), List.getLast?_cons]
      -- the value counts only if none of the rest has its key
      cases (rest.filter fun v => key v = k).getLast? <;> rfl
    · rw [List.filter_cons_of_neg (by simp [h]), if_neg (by simp [h])]

/-- An index that replaces holds under each key the last value with that key. -/
theorem getElem?_latest (key : β → α) (values : List β) (k : α) :
    (latest key values)[k]? = (values.filter fun v => key v = k).getLast? := by
  unfold latest
  rw [getElem?_foldl_insert]
  simp

end

variable (records : Records)

@[simp] theorem logsOfTask_of (t : Task) :
    (of records).logsOfTask t = records.logsOfTask t := getD_bucket _ _ _

@[simp] theorem tasksOfProject_of (name : String) :
    (of records).tasksOfProject name = records.tasksOfProject name := by
  unfold tasksOfProject of Records.tasksOfProject
  rw [getD_bucket]
  simp

@[simp] theorem logsOfProject_of (name : String) :
    (of records).logsOfProject name = records.logsOfProject name := by
  unfold logsOfProject of Records.logsOfProject
  rw [getD_bucket]
  simp

@[simp] theorem projectByName_of (name : String) :
    (of records).projectByName[name]? = records.projectNamed? name := getElem?_latest _ _ _

@[simp] theorem taskById_of (id : UInt32) :
    (of records).taskById[id]? = records.taskNumbered? id := getElem?_latest _ _ _

/-- The relations as scans of the collections: a relation to many records finds all that match, in
order, and a relation to one record finds the last one. -/
structure FollowsScans (links : Links) (records : Records) : Prop where
  timeOfTask : ∀ t, links.related (.task t) "time" = (records.logsOfTask t).map .timeLog
  tasksOfProject : ∀ p, links.related (.project p) "tasks" =
    (records.tasksOfProject p.name).map .task
  timeOfProject : ∀ p, links.related (.project p) "time" =
    (records.logsOfProject p.name).map .timeLog
  projectOfTask : ∀ t, links.related (.task t) "project" =
    (records.projectNamed? t.project).toList.map .project
  projectOfTimeLog : ∀ l, links.related (.timeLog l) "project" =
    (records.projectNamed? l.project).toList.map .project
  tasksOfTimeLog : ∀ l, links.related (.timeLog l) "tasks" =
    (l.taskId.bind records.taskNumbered?).toList.map .task

theorem followsScans_of : (of records).FollowsScans records where
  timeOfTask t := by rw [related, logsOfTask_of]
  tasksOfProject p := by rw [related, tasksOfProject_of]
  timeOfProject p := by rw [related, logsOfProject_of]
  projectOfTask t := by rw [related, projectByName_of]
  projectOfTimeLog l := by rw [related, projectByName_of]
  tasksOfTimeLog l := by simp only [related, taskById_of]

end Links

/-! ## §3. Sums of 64 bits -/

/-- A sum of 64 bits is the exact sum, wrapped around once. -/
theorem total_eq_bmod (numbers : List Int) : total numbers = numbers.sum.bmod (2 ^ 64) := by
  -- with any sum in front, since the numbers are added from the first one on
  have hfold : ∀ (numbers : List Int) (sum : Int64),
      (numbers.foldl (fun sum n => sum + Int64.ofInt n) sum).toInt =
        (sum.toInt + numbers.sum).bmod (2 ^ 64) := by
    intro numbers
    induction numbers with
    | nil =>
      intro sum
      rw [List.foldl_nil, List.sum_nil, Int.add_zero]
      exact sum.toInt_bmod.symm
    | cons n rest ih =>
      intro sum
      rw [List.foldl_cons, ih, Int64.toInt_add, Int64.toInt_ofInt, List.sum_cons, Int.bmod_add_bmod,
        Int.add_right_comm, Int.add_bmod_bmod, Int.add_right_comm, Int.add_assoc]
      rfl
  have htotal := hfold numbers 0
  rw [Int64.toInt_zero, Int.zero_add] at htotal
  exact htotal

/-- A sum that is not negative and below 2^63 is not wrapped around. -/
theorem bmod_eq_self {n : Int} (hfrom : 0 ≤ n) (hto : n < 2 ^ 63) : n.bmod (2 ^ 64) = n :=
  Int.bmod_eq_of_le_mul_two (by omega) (by omega)

/-- It does not matter whether the numbers of a sum have been wrapped around before. -/
theorem sum_map_bmod {α : Type} (f : α → Int) (m : Nat) (l : List α) :
    (l.map fun a => (f a).bmod m).sum.bmod m = (l.map f).sum.bmod m := by
  induction l with
  | nil => rfl
  | cons a rest ih =>
    rw [List.map_cons, List.map_cons, List.sum_cons, List.sum_cons, Int.bmod_add_bmod,
      ← Int.add_bmod_bmod, ih, Int.add_bmod_bmod]

/-! ## §4. Metrics -/

section

variable {today : Date} {week : Window}

theorem Window.contains_day_eq (today : Date) :
    (Window.day today).contains = today.counts "time_today" := by
  funext d
  show _ = decide (d = today)
  rw [Bool.eq_iff_iff, contains_iff, decide_eq_true_iff]
  constructor
  · rintro ⟨hfirst, hlast⟩
    exact Date.dayNumber_injective (Int.le_antisymm hlast hfirst)
  · rintro rfl
    exact ⟨Int.le_refl _, Int.le_refl _⟩

theorem Window.contains_week_eq (hweek : Window.week? today = some week) :
    week.contains = today.counts "time_week" := by
  funext d
  rw [Bool.eq_iff_iff, (isWeekOf_of_week? hweek).same_monday]
  exact decide_eq_true_iff.symm

theorem Window.contains_month_eq (today : Date) :
    (Window.month today).contains = today.counts "time_month" := by
  funext d
  show _ = decide _
  rw [Bool.eq_iff_iff, decide_eq_true_iff]
  by_cases hlast : today.InLastMonth
  · rw [contains_last_month_iff hlast, imp_iff_right hlast]
  · rw [contains_month_iff hlast, and_iff_left fun h => absurd h hlast]

end

namespace Gauge

variable (records : Records) (today : Date) (week : Window)

/-- The metrics that join, as scans of the collections: times of a task by the logs with its number
that are dated in the day, week or month of today (in the last month of the calendar, by those of
them that are not dated behind today); counts by the tasks with the name of the project; and times
of a project as sums over these tasks of their own metric. A time is exact as long as the minutes
that it adds up are less than 2^63. -/
structure FollowsScans (g : Gauge) : Prop where
  taskTime : ∀ t, ∀ metric ∈ ["time_today", "time_week", "time_month"],
    records.minutesOn (today.counts metric) t < 2 ^ 63 →
      g.measure (.task t) metric = some (records.minutesOn (today.counts metric) t)
  taskCount : ∀ p, g.measure (.project p) "task_count" =
    some ((records.tasksOfProject p.name).length : Int)
  overdueTaskCount : ∀ p, g.measure (.project p) "overdue_task_count" =
    some (((records.tasksOfProject p.name).filter fun t => t.isOverdue today).length : Int)
  projectTime : ∀ p, ∀ metric ∈ ["time_week", "time_month"],
    records.minutesOfProject (today.counts metric) p < 2 ^ 63 → ∃ minutes,
      ((records.tasksOfProject p.name).mapM fun t => g.measure (.task t) metric) = some minutes ∧
        minutes.sum = records.minutesOfProject (today.counts metric) p ∧
        g.measure (.project p) metric = some minutes.sum

theorem minutesIn_logsOfTask (t : Task) (w : Window) :
    minutesIn ((Links.of records).logsOfTask t) w =
      (records.minutesOn w.contains t).bmod (2 ^ 64) := by
  rw [minutesIn, total_eq_bmod, Links.logsOfTask_of]
  rfl

theorem projectMinutes_eq (p : Project) (w : Window) :
    projectMinutes ⟨Links.of records, today, week⟩ p w =
      (records.minutesOfProject w.contains p).bmod (2 ^ 64) := by
  unfold projectMinutes
  simp only [total_eq_bmod, Links.tasksOfProject_of, minutesIn_logsOfTask, sum_map_bmod]
  rfl

variable {today week} (hweek : Window.week? today = some week)
include hweek

/-- The time of a task is the sum of its minutes, wrapped around. -/
theorem measure_task_time (t : Task) {metric : String}
    (h : metric ∈ ["time_today", "time_week", "time_month"]) :
    measure ⟨Links.of records, today, week⟩ (.task t) metric =
      some ((records.minutesOn (today.counts metric) t).bmod (2 ^ 64)) := by
  simp only [List.mem_cons, List.not_mem_nil, or_false] at h
  rcases h with rfl | rfl | rfl
  · rw [← Window.contains_day_eq]
    exact congrArg some (minutesIn_logsOfTask records t _)
  · rw [← Window.contains_week_eq hweek]
    exact congrArg some (minutesIn_logsOfTask records t _)
  · rw [← Window.contains_month_eq]
    exact congrArg some (minutesIn_logsOfTask records t _)

/-- The time of a project is the sum of the minutes of its tasks, wrapped around. -/
theorem measure_project_time (p : Project) {metric : String}
    (h : metric ∈ ["time_week", "time_month"]) :
    measure ⟨Links.of records, today, week⟩ (.project p) metric =
      some ((records.minutesOfProject (today.counts metric) p).bmod (2 ^ 64)) := by
  rcases List.mem_pair.1 h with rfl | rfl
  · rw [← Window.contains_week_eq hweek]
    exact congrArg some (projectMinutes_eq records today week p _)
  · rw [← Window.contains_month_eq]
    exact congrArg some (projectMinutes_eq records today week p _)

theorem followsScans_of : FollowsScans records today ⟨Links.of records, today, week⟩ where
  taskTime t metric hmetric hfits := by
    rw [measure_task_time records hweek t hmetric, bmod_eq_self (records.minutesOn_nonneg _ t) hfits]
  taskCount p := by rw [measure, ofProject, Links.tasksOfProject_of]
  overdueTaskCount p := by
    rw [measure, ofProject, Links.tasksOfProject_of, List.countP_eq_length_filter]
  projectTime p metric hmetric hfits := by
    refine ⟨(records.tasksOfProject p.name).map (records.minutesOn (today.counts metric)), ?_, rfl,
      ?_⟩
    · -- what a task adds is not more than the whole
      refine mapM_eq_some_map fun t ht => ?_
      rw [measure_task_time records hweek t (List.mem_cons_of_mem _ hmetric),
        bmod_eq_self (records.minutesOn_nonneg _ t)]
      exact Int.lt_of_le_of_lt (records.minutesOn_le_minutesOfProject _ ht) hfits
    · rw [measure_project_time records hweek p hmetric,
        bmod_eq_self (records.minutesOfProject_nonneg _ p) hfits]
      rfl

end Gauge

/-- **JOINS ARE SCANS**: over any collections, and on any day whose week lies in the calendar, what
is found through the indexes is what scans of the collections find. -/
theorem joins_eq_scans (records : Records) (ctx : Context) (hweek : ctx.today.WeekInCalendar) :
    (Links.of records).FollowsScans records ∧ ∃ g, Gauge.of (Links.of records) ctx = .ok g ∧
      g.FollowsScans records ctx.today := by
  obtain ⟨week, hwindow⟩ := Window.exists_week hweek
  exact ⟨Links.followsScans_of records, _, Gauge.of_eq_ok hwindow,
    Gauge.followsScans_of records hwindow⟩

/-- Two tasks with one number, two projects with one name, a time log of no task and one of a task
that does not exist: what is found and measured, and that scans find it. -/
theorem joins_eq_scans_clashing :
    let today : Date := ⟨2024, 3, 13, by decide, by decide, by decide⟩
    let monday : Date := ⟨2024, 3, 11, by decide, by decide, by decide⟩
    let february : Date := ⟨2024, 2, 29, by decide, by decide, by decide⟩
    let home : Project := ⟨"home", some "again", .archived⟩
    let records : Records := {
      tasks := [.new 1 "write" "home", .new 1 "read" "home", .new 1 "rest" "Home",
        .new 2 "call" "nowhere"]
      projects := [⟨"home", none, .active⟩, home]
      timeLogs := [⟨1, "home", some 1, today, 30, none⟩, ⟨2, "home", none, today, 5, none⟩,
        ⟨3, "work", some 1, monday, 15, none⟩, ⟨4, "home", some 9, today, 20, none⟩,
        ⟨5, "home", some 1, february, 60, none⟩] }
    let ctx : Context := ⟨today, .nextYear⟩
    ctx.today.WeekInCalendar ∧
    (Links.of records).related (.task (.new 1 "write" "home")) "project" = [.project home] ∧
    (Links.of records).FollowsScans records ∧ ∃ g, Gauge.of (Links.of records) ctx = .ok g ∧
      g.measure (.task (.new 1 "write" "home")) "time_today" = some 30 ∧
      g.measure (.task (.new 1 "write" "home")) "time_week" = some 45 ∧
      g.measure (.project home) "task_count" = some 2 ∧
      g.measure (.project home) "time_month" = some 90 ∧
      g.FollowsScans records ctx.today := by
  intro today monday february home records ctx
  have hweek : ctx.today.WeekInCalendar := by decide +kernel
  let task : Task := .new 1 "write" "home"
  have hday : records.minutesOn (today.counts "time_today") task = 30 := by decide +kernel
  have hmonday : records.minutesOn (today.counts "time_week") task = 45 := by decide +kernel
  have hmonth : records.minutesOfProject (today.counts "time_month") home = 90 := by decide +kernel
  obtain ⟨hlinks, g, hg, hscans⟩ := joins_eq_scans records ctx hweek
  refine ⟨hweek, hlinks.projectOfTask _, hlinks, g, hg, ?_, ?_, hscans.taskCount _, ?_, hscans⟩
  · rw [hscans.taskTime task _ (by decide) (hday.trans_lt (by decide)), hday]
  · rw [hscans.taskTime task _ (by decide) (hmonday.trans_lt (by decide)), hmonday]
  · obtain ⟨minutes, -, hsum, hproject⟩ := hscans.projectTime home "time_month" (by decide)
      (hmonth.trans_lt (by decide))
    rw [hproject, hsum, hmonth]

/-- In the last month of the calendar the minutes that are logged behind today are not in the time of
the month. -/
theorem joins_eq_scans_last_month :
    let today : Date := ⟨262142, 12, 10, by decide, by decide, by decide⟩
    let later : Date := ⟨262142, 12, 31, by decide, by decide, by decide⟩
    let task : Task := .new 1 "a" "x"
    let records : Records := ⟨[task], [], [⟨1, "x", some 1, later, 30, none⟩]⟩
    let ctx : Context := ⟨today, .nextYear⟩
    ctx.today.WeekInCalendar ∧ ∃ g, Gauge.of (Links.of records) ctx = .ok g ∧
      g.measure (.task task) "time_month" = some 0 ∧
      records.minutesOn (fun d => d.year = today.year ∧ d.month = today.month) task = 30 := by
  intro today later task records ctx
  have hweek : ctx.today.WeekInCalendar := by decide +kernel
  obtain ⟨week, hwindow⟩ := Window.exists_week hweek
  refine ⟨hweek, _, Gauge.of_eq_ok hwindow, ?_, by decide +kernel⟩
  rw [Gauge.measure_task_time records hwindow task (by decide)]
  decide +kernel

end Agenda
