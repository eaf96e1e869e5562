import Agenda.Proofs.Engine.Steps
import Agenda.Proofs.Evaluation.Outcome

/-!
# Queries that fail

A run stores before it evaluates, so a query that failed in its evaluation would have been saved and
recorded already. It never does: what the compiler lets through, saved texts included, has no error
left but a week that leaves the calendar. A query error therefore comes from the resolution of the
text, when nothing has been stored yet.

Main result: `run_query_error_iff` — a run ends in a query error exactly if its text cannot be
resolved, and leaves everything as it was.
-/

namespace Agenda

/-- Whatever a store resolves is well formed, loaded texts included. -/
theorem Query.WellFormed.of_resolve {s : Store} {text source : String} {q : Query}
    (h : s.resolve text = .ok (q, source)) : q.WellFormed := by
  obtain ⟨_, hsource⟩ := Store.resolve_eq_ok.1 h
  exact .of_compileText hsource

namespace Engine

/-- A prepared query has no query error left for its evaluation. -/
theorem evaluation_ne_query_error {s s' : Store} {text : String} {q : Query} {records : Records}
    {ctx : Context} {e : EvaluationError} (hprepared : s.prepare text = (.ok q, s'))
    (h : evaluate q records ctx = .error e) (cause : QueryError) :
    RunError.ofEvaluation e ≠ .query cause := by
  obtain ⟨q₀, source, hresolve, _, _, rfl⟩ := Store.prepare_eq_ok.1 hprepared
  have hq₀ : q₀.WellFormed := .of_resolve hresolve
  obtain ⟨rfl, _⟩ := (evaluate_eq_error_iff hq₀.withDefaults).1 h
  exact nofun

/-- A text that cannot be resolved ends the run before anything is stored. -/
theorem run_of_resolve_error {e : Engine} {text : String} {cause : QueryError}
    (h : e.store.resolve text = .error cause) (records : Records) (today : Date) :
    e.run text records today = (.error (.query cause), e) := by
  have hprepare : e.store.prepare text = (.error (.query cause), e.store) :=
    Store.prepare_eq_query_error.2 ⟨h, rfl⟩
  unfold run
  rw [hprepare]
  rfl

/-- **FAILED QUERIES LEAVE NO TRACE**: a run ends in a query error exactly if its text cannot be
resolved, and then the saved queries, the history and the file are what they were. -/
theorem run_query_error_iff (e e' : Engine) (text : String) (records : Records) (today : Date)
    (cause : QueryError) :
    e.run text records today = (.error (.query cause), e') ↔
      e.store.resolve text = .error cause ∧ e' = e := by
  constructor
  · intro h
    unfold run at h
    generalize hprepare : e.store.prepare text = prepared at h
    obtain ⟨prepared, store⟩ := prepared
    obtain ⟨herror, rfl⟩ := Prod.mk.inj h
    cases prepared with
    | error cause' =>
      obtain rfl : cause' = .query cause := Except.error.inj herror
      obtain ⟨hresolve, rfl⟩ := Store.prepare_eq_query_error.1 hprepare
      exact ⟨hresolve, rfl⟩
    | ok q =>
      -- the store has changed by now, so the evaluation must not end in a query error
      obtain ⟨cause', hevaluate, hcause⟩ := mapError_eq_error.1 herror
      exact absurd hcause (evaluation_ne_query_error hprepare hevaluate cause)
  · rintro ⟨hresolve, rfl⟩
    exact run_of_resolve_error hresolve records today

end Engine

end Agenda
