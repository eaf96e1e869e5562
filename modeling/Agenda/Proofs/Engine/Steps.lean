import Agenda.Engine
import Agenda.Proofs.Query.Steps
import Agenda.Proofs.Store.Steps

/-!
# What the engine does with a text

A text is resolved before anything is stored: it compiles to a query, or it loads a saved text that
does. Only then is the source saved, and the text put into the history.

Main results:
  * `Store.resolve_eq_ok` — the two ways in which a text stands for a query;
  * `Store.prepare_eq_ok`, `Store.prepare_eq_query_error` — what has been stored when preparation
    ends, and when it refuses the query;
  * `Store.prepare_of_saveSource_error`, `Store.prepare_of_saveSource_ok` — what preparation does
    behind the resolution;
  * `Store.prepare_preserves` — what preparation keeps because its parts do;
  * `Store.queries_prepare` — the saved queries after preparation, however it ends.
-/

namespace Agenda

namespace Store

variable {s s' : Store} {text source : String} {q p : Query} {cause : QueryError}

/-- Whether the query of a text is compiled from the source: the text itself, or the saved text that
it loads. -/
def IsSource (s : Store) (text source : String) : Prop :=
  source = text ∨ ∃ name discarded, compileText text = .ok (.load name discarded) ∧
    s.load? name = some source

/-- A text stands for the query that its source compiles to, and the source loads nothing. -/
theorem resolve_eq_ok :
    s.resolve text = .ok (q, source) ↔
      s.IsSource text source ∧ compileText source = .ok (.ready q) := by
  unfold resolve IsSource
  rw [bind_eq_ok]
  constructor
  · rintro ⟨compiled, hcompiled, h⟩
    cases compiled with
    | ready q' =>
      obtain ⟨rfl, rfl⟩ := Prod.mk.inj (Except.ok.inj h)
      exact ⟨.inl rfl, hcompiled⟩
    | load name discarded =>
      dsimp only at h
      split at h
      next => cases h
      next saved hsaved =>
        obtain ⟨inner, hinner, h⟩ := bind_eq_ok.1 h
        cases inner with
        | ready q' =>
          obtain ⟨rfl, rfl⟩ := Prod.mk.inj (Except.ok.inj h)
          exact ⟨.inr ⟨name, discarded, hcompiled, hsaved⟩, hinner⟩
        | load _ _ => cases h
  · rintro ⟨rfl | ⟨name, discarded, hload, hsaved⟩, hsource⟩
    · exact ⟨_, hsource, rfl⟩
    · refine ⟨_, hload, ?_⟩
      dsimp only
      rw [hsaved]
      exact bind_eq_ok.2 ⟨_, hsource, rfl⟩

theorem compile_eq_ok :
    s.compile text = .ok q ↔ ∃ source, s.resolve text = .ok (q, source) := by
  unfold compile
  rw [map_eq_ok]
  constructor
  · rintro ⟨⟨_, source⟩, h, rfl⟩
    exact ⟨source, h⟩
  · rintro ⟨source, h⟩
    exact ⟨_, h, rfl⟩

theorem prepare_eq_ok :
    s.prepare text = (.ok p, s') ↔ ∃ q source, s.resolve text = .ok (q, source) ∧
      (s.saveSource q source).1 = .ok () ∧
      (s.saveSource q source).2.recordHistory text = (.ok (), s') ∧ p = q.withDefaults := by
  unfold prepare
  constructor
  · intro h
    split at h
    next => cases h
    next q source hresolve =>
      split at h
      next => cases h
      next saved hsaved =>
        split at h
        next => cases h
        next recorded hrecorded =>
          -- resolved, saved and recorded: the one way to the end
          obtain ⟨hp, rfl⟩ := Prod.mk.inj h
          refine ⟨q, source, hresolve, ?_, ?_, (Except.ok.inj hp).symm⟩
          · rw [hsaved]
          · rw [hsaved]
            exact hrecorded
  · rintro ⟨q, source, hresolve, hsaved, hrecorded, rfl⟩
    rw [hresolve]
    dsimp only
    generalize s.saveSource q source = saved at hsaved hrecorded ⊢
    obtain ⟨_, saved⟩ := saved
    obtain rfl : _ = Except.ok () := hsaved
    dsimp only
    rw [show saved.recordHistory text = (.ok (), s') from hrecorded]

/-- Preparation refuses a text exactly if it cannot be resolved, and then nothing has been stored. -/
theorem prepare_eq_query_error :
    s.prepare text = (.error (.query cause), s') ↔ s.resolve text = .error cause ∧ s' = s := by
  unfold prepare
  constructor
  · intro h
    split at h
    next hresolve =>
      obtain ⟨hcause, rfl⟩ := Prod.mk.inj h
      obtain rfl := RunError.query.inj (Except.error.inj hcause)
      exact ⟨hresolve, rfl⟩
    next =>
      -- behind the resolution there are only errors of the store
      split at h
      next => cases h
      next => split at h <;> cases h
  · rintro ⟨hresolve, rfl⟩
    rw [hresolve]

/-- A source that cannot be saved ends the preparation before anything is recorded. -/
theorem prepare_of_saveSource_error {e : StoreError} (hresolve : s.resolve text = .ok (q, source))
    (hsaved : s.saveSource q source = (.error e, s')) :
    s.prepare text = (.error (.store e), s') := by
  unfold prepare
  rw [hresolve]
  dsimp only
  rw [hsaved]

/-- Once the source has been saved, the rest of the preparation is the recording of the text that was
typed. -/
theorem prepare_of_saveSource_ok (hresolve : s.resolve text = .ok (q, source))
    (hsaved : s.saveSource q source = (.ok (), s')) :
    s.prepare text = (((s'.recordHistory text).1.mapError .store).map fun _ => q.withDefaults,
      (s'.recordHistory text).2) := by
  unfold prepare
  rw [hresolve]
  dsimp only
  rw [hsaved]
  dsimp only
  generalize s'.recordHistory text = outcome
  obtain ⟨result, recorded⟩ := outcome
  cases result <;> rfl

/-- What saving a source and recording a text keep, preparation keeps, however it ends. -/
theorem prepare_preserves {P : Store → Prop} (h : P s)
    (hsave : ∀ q source, P (s.saveSource q source).2)
    (hrecord : ∀ stored : Store, P stored → P (stored.recordHistory text).2) :
    P (s.prepare text).2 := by
  cases hresolve : s.resolve text with
  | error cause =>
    rw [prepare_eq_query_error.2 ⟨hresolve, rfl⟩]
    exact h
  | ok resolved =>
    obtain ⟨q, source⟩ := resolved
    have hstored : P (s.saveSource q source).2 := hsave q source
    cases hsaved : s.saveSource q source with
    | mk result stored =>
      rw [hsaved] at hstored
      cases result with
      | error cause =>
        rw [prepare_of_saveSource_error hresolve hsaved]
        exact hstored
      | ok _ =>
        rw [prepare_of_saveSource_ok hresolve hsaved]
        exact hrecord stored hstored

theorem historyLimit_saveSource (s : Store) (q : Query) (source : String) :
    (s.saveSource q source).2.historyLimit = s.historyLimit := by
  unfold saveSource
  cases q.directives.save with
  | some name => exact historyLimit_save s name source
  | none => rfl

theorem historyLimit_prepare (s : Store) (text : String) :
    (s.prepare text).2.historyLimit = s.historyLimit := by
  refine prepare_preserves (P := fun s' => s'.historyLimit = s.historyLimit) rfl ?saved ?recorded
  case saved => exact historyLimit_saveSource s
  case recorded =>
    intro stored hstored
    rw [historyLimit_recordHistory, hstored]

theorem history_saveSource (s : Store) (q : Query) (source : String) :
    (s.saveSource q source).2.contents.history = s.contents.history := by
  unfold saveSource
  cases q.directives.save with
  | some name => exact history_save s name source
  | none => rfl

theorem queries_saveSource (s : Store) (q : Query) (source : String) :
    (s.saveSource q source).2.contents.queries = match q.directives.save with
      | some name => s.contents.queries.insert name source
      | none => s.contents.queries := by
  unfold saveSource
  cases q.directives.save with
  | some name => exact queries_save s name source
  | none => rfl

/-- However preparation ends, the source of a text that was resolved is among the saved queries if
its query asks for it, and nothing else has changed there. -/
theorem queries_prepare (s : Store) (text : String) :
    (s.prepare text).2.contents.queries = match s.resolve text with
      | .ok (q, source) => (s.saveSource q source).2.contents.queries
      | .error _ => s.contents.queries := by
  cases hresolve : s.resolve text with
  | error cause => rw [prepare_eq_query_error.2 ⟨hresolve, rfl⟩]
  | ok resolved =>
    obtain ⟨q, source⟩ := resolved
    dsimp only
    -- the memory is changed before the file is written, so a failed write makes no difference
    cases hsaved : s.saveSource q source with
    | mk result saved =>
      cases result with
      | error cause => rw [prepare_of_saveSource_error hresolve hsaved]
      | ok _ => rw [prepare_of_saveSource_ok hresolve hsaved, queries_recordHistory]

end Store

end Agenda
