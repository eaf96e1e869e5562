import Agenda.Proofs.Engine.Failure
import Agenda.Proofs.Names

/-!
# A loaded text replaces the whole query

A text with a `load:` directive stands for the saved text and for nothing else: whatever stands beside
the directive is not compiled. Running it does what running the saved text does, with one difference,
the text that is put into the history.

THE PATHS MEET AT THE SOURCE: a text that loads and the saved text resolve to the same query and the
same source (`Store.resolve_eq_of_load`), and behind the resolution only the recording looks at the
text that was typed (`Store.prepare_of_resolve_eq`). The paths part where there is no saved text, and
where the saved text loads another one.

Main result: `Engine.load_replaces_query`.
-/

namespace Agenda

/-! ## §1. The directive -/

/-- Whether a text asks for a saved text. -/
def LoadsText (text : String) : Prop :=
  ∃ name discarded, compileText text = .ok (.load name discarded)

/-- A text with one `load:` directive that has one value loads what is saved under the value, whatever
its other tokens are. -/
theorem compileText_load {text : String} {tokens : List Token} {token : Token} {name : String}
    (hlex : lex text = .ok tokens) (honly : tokens.filter (·.isDirective "load") = [token])
    (hvalue : token.kind = .directive "load" [name]) :
    ∃ discarded, compileText text = .ok (.load name discarded) := by
  have hname : loadName? tokens = .ok (some name) :=
    loadName?_eq_some_iff.2 ⟨token, honly, hvalue⟩
  refine ⟨(tokens.filter fun t => !t.isDirective "load").map (·.raw), ?_⟩
  unfold compileText
  rw [hlex]
  dsimp only
  unfold compile
  rw [hname]
  rfl

namespace Store

variable {s : Store} {text name saved : String} {discarded : List String}

/-! ## §2. Resolution -/

/-- A text that loads is resolved by what is saved under the name. -/
theorem resolve_load (hload : compileText text = .ok (.load name discarded)) :
    s.resolve text = match s.load? name with
      | none => .error (.notFound name s.names)
      | some saved => compileText saved >>= fun
        | .ready q => .ok (q, saved)
        | .load _ _ => .error (.compile (.nestedLoad name)) := by
  unfold resolve
  rw [hload]
  rfl

theorem resolve_of_absent (hload : compileText text = .ok (.load name discarded))
    (habsent : s.load? name = none) : s.resolve text = .error (.notFound name s.names) := by
  rw [resolve_load hload, habsent]

theorem resolve_of_nested (hload : compileText text = .ok (.load name discarded))
    (hsaved : s.load? name = some saved) (hnested : LoadsText saved) :
    s.resolve text = .error (.compile (.nestedLoad name)) := by
  obtain ⟨inner, innerDiscarded, hinner⟩ := hnested
  rw [resolve_load hload, hsaved]
  dsimp only
  rw [hinner]
  rfl

/-- A text that loads resolves to what the saved text resolves to. -/
theorem resolve_eq_of_load (hload : compileText text = .ok (.load name discarded))
    (hsaved : s.load? name = some saved) (hdirect : ¬ LoadsText saved) :
    s.resolve text = s.resolve saved := by
  rw [resolve_load hload, hsaved]
  unfold resolve
  dsimp only
  cases hcompiled : compileText saved with
  | error cause => rfl
  | ok compiled =>
    cases compiled with
    | ready q => rfl
    | load inner innerDiscarded => exact absurd ⟨inner, innerDiscarded, hcompiled⟩ hdirect

/-! ## §3. Preparation -/

/-- Two texts that resolve alike are prepared alike: the store before the recording is the same, and
either both are recorded or neither is. -/
theorem prepare_of_resolve_eq {text' : String} (h : s.resolve text = s.resolve text') :
    (s.prepare text).1 = (s.prepare text').1 ∧ ∃ stored : Store,
      stored.contents.history = s.contents.history ∧
      ((s.prepare text).2 = stored ∧ (s.prepare text').2 = stored ∨
        (s.prepare text).2 = (stored.recordHistory text).2 ∧
          (s.prepare text').2 = (stored.recordHistory text').2) := by
  cases hresolve : s.resolve text' with
  | error cause =>
    rw [prepare_eq_query_error.2 ⟨h.trans hresolve, rfl⟩, prepare_eq_query_error.2 ⟨hresolve, rfl⟩]
    exact ⟨rfl, s, rfl, .inl ⟨rfl, rfl⟩⟩
  | ok resolved =>
    obtain ⟨q, source⟩ := resolved
    have hhistory := history_saveSource s q source
    cases hsaved : s.saveSource q source with
    | mk result stored =>
      rw [hsaved] at hhistory
      cases result with
      | error cause =>
        rw [prepare_of_saveSource_error (h.trans hresolve) hsaved,
          prepare_of_saveSource_error hresolve hsaved]
        exact ⟨rfl, stored, hhistory, .inl ⟨rfl, rfl⟩⟩
      | ok _ =>
        -- one text can be recorded if the other can
        rw [prepare_of_saveSource_ok (h.trans hresolve) hsaved,
          prepare_of_saveSource_ok hresolve hsaved, fst_recordHistory stored text text']
        exact ⟨rfl, stored, hhistory, .inr ⟨rfl, rfl⟩⟩

end Store

namespace Engine

/-! ## §4. Runs -/

/-- Whether two runs over an engine, one of the text that was typed and one of another text, end with
the same result and differ in nothing but the text that they put into the history. -/
structure EndAlike (e : Engine) (typed other : String)
    (a b : Except RunError Output × Engine) : Prop where
  result : a.1 = b.1
  queries : a.2.store.contents.queries = b.2.store.contents.queries
  /-- Both runs leave the store as it was before the recording, or each has recorded its text in it. -/
  engines : ∃ stored : Store, stored.contents.history = e.store.contents.history ∧
    (a.2 = { e with store := stored } ∧ b.2 = { e with store := stored } ∨
      a.2 = { e with store := (stored.recordHistory typed).2 } ∧
        b.2 = { e with store := (stored.recordHistory other).2 })

/-- Texts that resolve alike run alike. -/
theorem endAlike_of_resolve_eq {e : Engine} {text text' : String}
    (h : e.store.resolve text = e.store.resolve text') (records : Records) (today : Date) :
    EndAlike e text text' (e.run text records today) (e.run text' records today) := by
  obtain ⟨hprepared, stored, hhistory, hstores⟩ := Store.prepare_of_resolve_eq h
  have hresult : (e.run text records today).1 = (e.run text' records today).1 := by
    unfold run
    dsimp only
    rw [hprepared]
  have hrun : ∀ t, (e.run t records today).2 = { e with store := (e.store.prepare t).2 } :=
    fun _ => rfl
  refine ⟨hresult, ?_, stored, hhistory, ?_⟩
  · rw [hrun, hrun]
    dsimp only
    rcases hstores with ⟨h₁, h₂⟩ | ⟨h₁, h₂⟩
    · rw [h₁, h₂]
    · rw [h₁, h₂, Store.queries_recordHistory, Store.queries_recordHistory]
  · rw [hrun, hrun]
    rcases hstores with ⟨h₁, h₂⟩ | ⟨h₁, h₂⟩
    · exact .inl ⟨by rw [h₁], by rw [h₂]⟩
    · exact .inr ⟨by rw [h₁], by rw [h₂]⟩

/-- **A LOADED TEXT REPLACES THE WHOLE QUERY**: a run of a text with one `load:` directive that has
one value does what a run of the text saved under the value does, and puts the text that was typed
into the history. There are two exceptions, both without effect: nothing is saved under the value,
which is answered with the names of all saved queries in order, or the saved text asks for another
saved text. -/
theorem load_replaces_query {text : String} {tokens : List Token} {token : Token} {name : String}
    (hlex : lex text = .ok tokens) (honly : tokens.filter (·.isDirective "load") = [token])
    (hvalue : token.kind = .directive "load" [name]) (e : Engine) (records : Records)
    (today : Date) :
    (e.store.load? name = none →
      e.run text records today = (.error (.query (.notFound name e.store.names)), e) ∧
      e.store.names.Pairwise (· < ·) ∧
      ∀ a, a ∈ e.store.names ↔ ∃ saved, e.store.load? a = some saved) ∧
    ∀ saved, e.store.load? name = some saved →
      (LoadsText saved →
        e.run text records today = (.error (.query (.compile (.nestedLoad name))), e)) ∧
      (¬ LoadsText saved →
        EndAlike e text saved (e.run text records today) (e.run saved records today)) := by
  obtain ⟨discarded, hload⟩ := compileText_load hlex honly hvalue
  refine ⟨fun habsent => ⟨?_, e.store.contents.queries.increasing, fun a => NameMap.mem_names⟩,
    fun saved hsaved => ⟨fun hnested => ?_, fun hdirect => ?_⟩⟩
  · exact run_of_resolve_error (Store.resolve_of_absent hload habsent) records today
  · exact run_of_resolve_error (Store.resolve_of_nested hload hsaved hnested) records today
  · exact endAlike_of_resolve_eq (Store.resolve_eq_of_load hload hsaved hdirect) records today

/-- Beside the directive stand a level that does not exist and another name to save under, and the
saved text has a name of its own to save under. -/
theorem load_replaces_query_uncompiled :
    let saved : String := "projects save:v"
    let e : Engine := ⟨⟨⟨1, .ofList [("w", saved)], []⟩, 100, some ⟨none, true⟩⟩, .nextYear⟩
    let today : Date := ⟨2024, 3, 13, by decide, by decide, by decide⟩
    EndAlike e "tasks p9 LOAD:w save:x" saved (e.run "tasks p9 LOAD:w save:x" default today)
      (e.run saved default today) := by
  have hsaved : compileText "projects save:v" =
      .ok (.ready { domain := .project, directives := { save := some "v" } }) := by decide +kernel
  have hdirect : ¬ LoadsText "projects save:v" := by
    rintro ⟨name, discarded, hload⟩
    rw [hsaved] at hload
    cases hload
  exact ((@load_replaces_query "tasks p9 LOAD:w save:x"
    [⟨.domain .task, "tasks", 0⟩, ⟨.priorityExpr "9", "p9", 6⟩,
      ⟨.directive "load" ["w"], "LOAD:w", 9⟩, ⟨.directive "save" ["x"], "save:x", 16⟩]
    ⟨.directive "load" ["w"], "LOAD:w", 9⟩ "w" (by decide +kernel) (by decide +kernel) rfl
    _ default _).2 "projects save:v" (by decide +kernel)).2 hdirect

end Engine

end Agenda
