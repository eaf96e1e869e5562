import Agenda.Proofs.Engine.Requests
import Agenda.Proofs.Engine.Steps

/-!
# What the history holds

The history is a list that grows at its end and loses its oldest texts beyond the limit. A text is
put into it by a request to record it, and by a run or a preparation of it that gets past the
resolution, as it was typed and whatever becomes of it afterwards. No other request touches it.

TRIMMING ONCE IS ENOUGH: to cut a list down to its last entries each time a text is added gives what
cutting it down at the very end gives (`Store.lastEntries_append`). So the history after any requests
is read off the texts that they record, which is why `Store.historyWith` composes
(`Store.historyWith_append`). A history that is too long from the start is left alone until the first
text is recorded, and a limit of 0 leaves it alone for good.

Main results:
  * `Engine.history_serve` — what one request does to the history;
  * `Engine.history_served` — what any requests do to it;
  * `Engine.history_is_end_of_record` — the history is the end of what was there and was recorded.
-/

namespace Agenda

namespace Store

/-! ## §1. The last entries of a list -/

theorem lastEntries_suffix (limit : Nat) (history : List String) :
    lastEntries limit history <:+ history :=
  List.drop_suffix _ _

theorem length_lastEntries (limit : Nat) (history : List String) :
    (lastEntries limit history).length = min limit history.length := by
  unfold lastEntries
  rw [List.length_drop]
  omega

/-- Entries that have been dropped before do not matter in the end. -/
theorem lastEntries_append (limit : Nat) (history texts : List String) :
    lastEntries limit (lastEntries limit history ++ texts) =
      lastEntries limit (history ++ texts) := by
  have hle : history.length - limit ≤ history.length := Nat.sub_le _ _
  have hcut : lastEntries limit history ++ texts =
      (history ++ texts).drop (history.length - limit) :=
    (List.drop_append_of_le_length hle).symm
  rw [hcut]
  unfold lastEntries
  rw [List.drop_drop, List.length_drop, List.length_append]
  congr 1
  omega

/-! ## §2. Recording texts -/

/-- The history with texts put into it: nothing is dropped as long as nothing is recorded, and
nothing is recorded under a limit of 0. -/
def historyWith (limit : Nat) (history texts : List String) : List String :=
  if limit = 0 ∨ texts = [] then history else lastEntries limit (history ++ texts)

@[simp] theorem historyWith_nil (limit : Nat) (history : List String) :
    historyWith limit history [] = history :=
  if_pos (.inr rfl)

/-- Texts that are recorded after others are recorded behind them. -/
theorem historyWith_append (limit : Nat) (history texts later : List String) :
    historyWith limit (historyWith limit history texts) later =
      historyWith limit history (texts ++ later) := by
  by_cases htexts : texts = []
  · rw [htexts, historyWith_nil, List.nil_append]
  · by_cases hlater : later = []
    · rw [hlater, historyWith_nil, List.append_nil]
    · unfold historyWith
      by_cases hlimit : limit = 0
      · simp [hlimit]
      · simp [hlimit, htexts, hlater, lastEntries_append]

variable {s : Store} {text : String}

theorem history_recordHistory (s : Store) (text : String) :
    (s.recordHistory text).2.contents.history =
      historyWith s.historyLimit s.contents.history [text] := by
  rw [recordHistory_eq]
  unfold historyWith
  by_cases hlimit : s.historyLimit = 0
  · simp [hlimit]
  · simp [hlimit, withHistory]

theorem history_prepare_of_error {cause : QueryError} (hresolve : s.resolve text = .error cause) :
    (s.prepare text).2.contents.history = s.contents.history := by
  rw [prepare_eq_query_error.2 ⟨hresolve, rfl⟩]

/-- A text that is resolved is recorded, unless the preparation stops at a source that cannot be
saved. -/
theorem history_prepare_of_ok {q : Query} {source : String}
    (hresolve : s.resolve text = .ok (q, source))
    (hwrites : ∀ cause, (s.prepare text).1 ≠ .error (.store cause)) :
    (s.prepare text).2.contents.history =
      historyWith s.historyLimit s.contents.history [text] := by
  have hhistory := history_saveSource s q source
  have hlimit := historyLimit_saveSource s q source
  cases hsaved : s.saveSource q source with
  | mk result stored =>
    rw [hsaved] at hhistory hlimit
    cases result with
    | error cause =>
      rw [prepare_of_saveSource_error hresolve hsaved] at hwrites
      exact absurd rfl (hwrites cause)
    | ok _ =>
      rw [prepare_of_saveSource_ok hresolve hsaved]
      show (stored.recordHistory text).2.contents.history = _
      rw [history_recordHistory, hhistory, hlimit]

end Store

namespace Engine

variable {e : Engine}

/-! ## §3. Requests -/

/-- The texts that a request puts into the history: the text to record, or a text that is run or
prepared and stands for a query. -/
def recordedBy (e : Engine) : Request → List String
  | .run text _ _ | .prepare text => if (e.store.compile text).isOk then [text] else []
  | .record text => [text]
  | _ => []

/-- The texts that requests put into the history, in order, each judged where it is made. -/
def recorded (e : Engine) : List Request → List String
  | [] => []
  | r :: rest => e.recordedBy r ++ recorded (e.serve r).2 rest

/-- What a preparation puts into the history. -/
theorem history_prepare {s : Store} {text : String}
    (hwrites : ∀ cause, (s.prepare text).1 ≠ .error (.store cause)) :
    (s.prepare text).2.contents.history =
      Store.historyWith s.historyLimit s.contents.history
        (if (s.compile text).isOk then [text] else []) := by
  unfold Store.compile
  cases hresolve : s.resolve text with
  | error cause =>
    rw [Store.history_prepare_of_error hresolve]
    exact (Store.historyWith_nil _ _).symm
  | ok resolved => exact Store.history_prepare_of_ok hresolve hwrites

/-- **What one request does to the history.** -/
theorem history_serve (r : Request) (hwrites : (e.serve r).1.reportsStoreError = false) :
    (e.serve r).2.store.contents.history =
      Store.historyWith e.store.historyLimit e.store.contents.history (e.recordedBy r) := by
  cases r with
  | run text records today =>
    -- an evaluation that fails has been recorded already, so only the preparation counts
    refine history_prepare fun cause hcause => ?_
    have hrun : (e.run text records today).1 = .error (.store cause) := by
      unfold run
      dsimp only
      rw [hcause]
      rfl
    simp [serve, hrun, Answer.reportsStoreError] at hwrites
  | prepare text =>
    refine history_prepare fun cause hcause => ?_
    simp [serve, hcause, Answer.reportsStoreError] at hwrites
  | record text => exact Store.history_recordHistory e.store text
  | save name text =>
    exact (Store.history_save e.store name text).trans (Store.historyWith_nil _ _).symm
  | remove name =>
    exact (Store.history_remove e.store name).trans (Store.historyWith_nil _ _).symm
  | compile | load | names => exact (Store.historyWith_nil _ _).symm

/-- A request that records nothing leaves the history as it is, whether its writes succeed or not. -/
theorem history_serve_of_nothing (r : Request) (hnothing : e.recordedBy r = []) :
    (e.serve r).2.store.contents.history = e.store.contents.history := by
  have hunresolved : ∀ text, (if (e.store.compile text).isOk then [text] else []) = [] →
      (e.store.prepare text).2.contents.history = e.store.contents.history := by
    intro text hnone
    cases hresolve : e.store.resolve text with
    | error cause => exact Store.history_prepare_of_error hresolve
    | ok resolved => simp [Store.compile, hresolve, Except.map, Except.isOk, Except.toBool] at hnone
  cases r with
  | run text records today => exact hunresolved text hnothing
  | prepare text => exact hunresolved text hnothing
  | record text => cases hnothing
  | save name text => exact Store.history_save e.store name text
  | remove name => exact Store.history_remove e.store name
  | compile | load | names => rfl

theorem historyLimit_serve (e : Engine) (r : Request) :
    (e.serve r).2.store.historyLimit = e.store.historyLimit := by
  cases r with
  | run text records today => exact Store.historyLimit_prepare e.store text
  | prepare text => exact Store.historyLimit_prepare e.store text
  | save name text => exact Store.historyLimit_save e.store name text
  | remove name => exact Store.historyLimit_remove e.store name
  | record text => exact Store.historyLimit_recordHistory e.store text
  | compile | load | names => rfl

/-- **What any requests do to the history.** -/
theorem history_served {requests : List Request}
    (hwrites : ∀ o ∈ e.observations requests, o.answer.reportsStoreError = false) :
    (e.served requests).store.contents.history =
      Store.historyWith e.store.historyLimit e.store.contents.history (e.recorded requests) := by
  induction requests generalizing e with
  | nil => exact (Store.historyWith_nil _ _).symm
  | cons r rest ih =>
    obtain ⟨hfirst, hrest⟩ := List.forall_mem_cons.1 hwrites
    show ((e.serve r).2.served rest).store.contents.history = _
    rw [ih hrest, historyLimit_serve, history_serve r hfirst, Store.historyWith_append]
    rfl

/-! ## §4. The end of the record -/

/-- **THE HISTORY IS THE END OF THE RECORD**: after any requests whose writes all succeed, the history
is what it was if the limit is 0 or nothing has been recorded; otherwise it is the end of what it was
with the recorded texts behind it, as many entries as the limit allows. From there on, a request that
records nothing leaves it as it is. -/
theorem history_is_end_of_record {requests : List Request}
    (hwrites : ∀ o ∈ e.observations requests, o.answer.reportsStoreError = false) :
    (e.store.historyLimit = 0 ∨ e.recorded requests = [] →
      (e.served requests).store.contents.history = e.store.contents.history) ∧
    (e.store.historyLimit ≠ 0 → e.recorded requests ≠ [] →
      (e.served requests).store.contents.history <:+
        e.store.contents.history ++ e.recorded requests ∧
      (e.served requests).store.contents.history.length =
        min e.store.historyLimit (e.store.contents.history ++ e.recorded requests).length) ∧
    ∀ r, (e.served requests).recordedBy r = [] →
      ((e.served requests).serve r).2.store.contents.history =
        (e.served requests).store.contents.history := by
  rw [history_served hwrites]
  refine ⟨fun hnothing => if_pos hnothing, fun hlimit hrecorded => ?_, fun r hr => ?_⟩
  · have hend : Store.historyWith e.store.historyLimit e.store.contents.history
        (e.recorded requests) = Store.lastEntries e.store.historyLimit
          (e.store.contents.history ++ e.recorded requests) :=
      if_neg (not_or.2 ⟨hlimit, hrecorded⟩)
    rw [hend]
    exact ⟨Store.lastEntries_suffix _ _, Store.length_lastEntries _ _⟩
  · rw [history_serve_of_nothing r hr, history_served hwrites]

/-- A history that is longer than the limit, a text that is typed to load another one, a run whose
week leaves the calendar, and requests that record nothing in between. -/
theorem history_is_end_of_record_overlong :
    let e : Engine := ⟨⟨⟨1, .ofList [("w", "tasks p1")], ["a", "b", "c", "d", "e"]⟩, 4,
      some ⟨none, true⟩⟩, .nextYear⟩
    let lastDay : Date := ⟨262142, 12, 31, by decide, by decide, by decide⟩
    let requests : List Request := [.run "tasks p9 save:y" default lastDay, .prepare "load:w p2",
      .compile "tasks", .save "x" "tasks", .run "load:missing" default lastDay,
      .run "tasks metrics:time_week" default lastDay, .remove "x", .record "z", .names]
    e.recorded requests = ["load:w p2", "tasks metrics:time_week", "z"] ∧
    (e.served requests).store.contents.history <:+
      ["a", "b", "c", "d", "e"] ++ ["load:w p2", "tasks metrics:time_week", "z"] ∧
    (e.served requests).store.contents.history.length = 4 := by
  intro e lastDay requests
  have hwrites : ∀ o ∈ e.observations requests, o.answer.reportsStoreError = false := by
    decide +kernel +revert
  have hrecorded : e.recorded requests = ["load:w p2", "tasks metrics:time_week", "z"] := by
    decide +kernel +revert
  have hend := (history_is_end_of_record hwrites).2.1 (by decide) (by simp [hrecorded])
  rw [hrecorded] at hend
  exact ⟨hrecorded, hend⟩

end Engine

end Agenda
