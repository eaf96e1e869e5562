import Agenda.Proofs.Engine.Steps
import Agenda.Proofs.Query.Loading

/-!
# Saved queries

A query that is prepared with a name to save it under can be loaded by that name afterwards. What is
stored is the text that the query was compiled from, which does not ask for a saved text itself, and
the name can be quoted again. This holds after any number of texts has been run or prepared, whether
they succeed or fail and whatever becomes of the file meanwhile.

THE INVARIANT: every saved text compiles to a query that asks to be saved under the very name that
it stands under (`Store.SelfNamed`). A text that is typed is saved under the name that it asks for,
and a text that is loaded asks for the name that it stands under already, so that neither way a text
gets under a foreign name. Loading a saved query is therefore never refused, and saves again what is
there.

Main results:
  * `Store.saved_query_loads` — the quoted name behind `load:` compiles to the query of the source;
  * `Store.SelfNamed.prepare` — preparation keeps the invariant;
  * `Engine.selfNamed_react`, `Engine.selfNamed_after` — what one event and a whole run keep;
  * `Engine.saved_query_names_itself` — the saved queries of an engine that started without any.
-/

namespace Agenda

/-! ## §1. Saving a query and loading it -/

namespace Store

variable {s s' : Store} {text source name : String} {q : Query}

/-- A text that compiles to a query stands for it over every store. -/
theorem compile_of_ready (s : Store) (h : compileText text = .ok (.ready q)) :
    s.compile text = .ok q := by
  have hsource : s.IsSource text text := .inl rfl
  exact compile_eq_ok.2 ⟨text, resolve_eq_ok.2 ⟨hsource, h⟩⟩

/-- A name under which such a text is saved stands for its query. -/
theorem compile_loadText (hname : '"' ∉ name.toList) (hsaved : s.load? name = some source)
    (h : compileText source = .ok (.ready q)) : s.compile (loadText name) = .ok q := by
  have hload : compileText (loadText name) = .ok (.load name []) := compileText_loadText hname
  have hsource : s.IsSource (loadText name) source := .inr ⟨name, [], hload, hsaved⟩
  exact compile_eq_ok.2 ⟨source, resolve_eq_ok.2 ⟨hsource, h⟩⟩

/-- After preparation the source stands under the name that the query asks for. -/
theorem load?_of_prepared (hsave : q.directives.save = some name)
    (hrecorded : (s.saveSource q source).2.recordHistory text = (.ok (), s')) :
    s'.load? name = some source := by
  have hs' : s' = ((s.save name source).2.recordHistory text).2 := by
    unfold saveSource at hrecorded
    rw [hsave] at hrecorded
    exact (congrArg Prod.snd hrecorded).symm
  rw [hs', load?_recordHistory, load?_save, if_pos rfl]

/-- **SAVED QUERIES LOAD**: when a text has been prepared and its query asks to be saved, the source
of the query (the text itself, or the saved text that it loads) stands under the name, and the quoted
name behind `load:` compiles to exactly what the source compiles to. -/
theorem saved_query_loads {p : Query} (hprepared : s.prepare text = (.ok p, s'))
    (hsave : p.directives.save = some name) :
    ∃ source q, s.IsSource text source ∧ compileText source = .ok (.ready q) ∧
      p = q.withDefaults ∧ s'.load? name = some source ∧
      s'.compile (loadText name) = .ok q ∧ s'.compile source = .ok q := by
  obtain ⟨q, source, hresolve, _, hrecorded, rfl⟩ := prepare_eq_ok.1 hprepared
  obtain ⟨hfrom, hsource⟩ := resolve_eq_ok.1 hresolve
  -- the defaults do not touch the name
  have hsave : q.directives.save = some name := hsave
  have hname : '"' ∉ name.toList := saveName_unquoted hsource name hsave
  have hloaded : s'.load? name = some source := load?_of_prepared hsave hrecorded
  exact ⟨source, q, hfrom, hsource, rfl, hloaded, compile_loadText hname hloaded hsource,
    compile_of_ready s' hsource⟩

/-- A name with blanks, a comma and a colon, saved once more by a text that loads the query. -/
theorem saved_query_loads_phrase :
    let saved : String := "tasks save:\"my list, p1: now\""
    let s : Store := ⟨⟨1, .ofList [("w", saved)], []⟩, 100, none⟩
    let s' : Store :=
      ⟨⟨1, .ofList [("w", saved), ("my list, p1: now", saved)], ["load:w p2"]⟩, 100, none⟩
    let p : Query := { domain := .task, directives := { save := some "my list, p1: now" } }
    ∃ source q, s.IsSource "load:w p2" source ∧ compileText source = .ok (.ready q) ∧
      p = q.withDefaults ∧ s'.load? "my list, p1: now" = some source ∧
      s'.compile (loadText "my list, p1: now") = .ok q ∧ s'.compile source = .ok q :=
  saved_query_loads (by decide +kernel) rfl

end Store

/-! ## §2. A text under its own name -/

namespace Store

/-- Every saved text compiles to a query that asks to be saved under the name of the text. -/
def SelfNamed (s : Store) : Prop :=
  ∀ name text, s.load? name = some text →
    ∃ q, compileText text = .ok (.ready q) ∧ q.directives.save = some name

variable {s : Store}

theorem SelfNamed.of_queries_eq {s' : Store} (h : s.SelfNamed)
    (hqueries : s'.contents.queries = s.contents.queries) : s'.SelfNamed := by
  intro name text hsaved
  unfold load? at hsaved
  rw [hqueries] at hsaved
  exact h name text hsaved

theorem SelfNamed.saveSource {q : Query} {source : String} (h : s.SelfNamed)
    (hsource : compileText source = .ok (.ready q)) : (s.saveSource q source).2.SelfNamed := by
  intro name text hsaved
  unfold load? at hsaved
  rw [queries_saveSource] at hsaved
  cases hsave : q.directives.save with
  | none =>
    rw [hsave] at hsaved
    exact h name text hsaved
  | some own =>
    rw [hsave] at hsaved
    dsimp only at hsaved
    rw [NameMap.get?_insert] at hsaved
    split at hsaved
    next hname =>
      -- the new text stands under the name that its query asks for
      obtain rfl : source = text := Option.some.inj hsaved
      exact ⟨q, hsource, hname ▸ hsave⟩
    next => exact h name text hsaved

/-- **Preparation keeps the invariant**, however it ends. -/
theorem SelfNamed.prepare (h : s.SelfNamed) (text : String) : (s.prepare text).2.SelfNamed := by
  have hqueries := queries_prepare s text
  cases hresolve : s.resolve text with
  | error cause =>
    rw [hresolve] at hqueries
    exact h.of_queries_eq hqueries
  | ok resolved =>
    obtain ⟨q, source⟩ := resolved
    rw [hresolve] at hqueries
    have hsource : compileText source = .ok (.ready q) := (resolve_eq_ok.1 hresolve).2
    exact (h.saveSource hsource).of_queries_eq hqueries

/-- Preparing a text whose source names itself and is saved already saves nothing new. -/
theorem queries_prepare_of_saved {text source name : String} {q : Query}
    (hresolve : s.resolve text = .ok (q, source)) (hsave : q.directives.save = some name)
    (hsaved : s.load? name = some source) :
    (s.prepare text).2.contents.queries = s.contents.queries := by
  rw [queries_prepare, hresolve]
  dsimp only
  rw [queries_saveSource, hsave]
  exact NameMap.insert_eq_self hsaved

end Store

namespace Engine

/-! ## §3. Events -/

/-- What can happen to an engine. -/
inductive Event
  /-- A text is run over some records on some day. -/
  | run (text : String) (records : Records) (today : Date)
  /-- A text is prepared only. -/
  | prepare (text : String)
  /-- The place of the file changes from outside, and so does what becomes of writes to it. -/
  | disturb (entry : Option Entry) (fate : WriteFate)

/-- The engine after an event. -/
def react (e : Engine) : Event → Engine
  | .run text records today => (e.run text records today).2
  | .prepare text => { e with store := (e.store.prepare text).2 }
  | .disturb entry fate =>
    { e with store := { e.store with file := e.store.file.map fun _ => ⟨entry, fate⟩ } }

/-- The engine after a sequence of events. -/
def after (e : Engine) (events : List Event) : Engine :=
  events.foldl react e

variable {e : Engine}

/-- **What one event keeps.** -/
theorem selfNamed_react (h : e.store.SelfNamed) (event : Event) :
    (e.react event).store.SelfNamed := by
  cases event with
  | run text records today =>
    -- a run does to the store what preparation does, whatever the evaluation gives
    exact h.prepare text
  | prepare text => exact h.prepare text
  | disturb entry fate => exact h.of_queries_eq rfl

/-- **What a run keeps.** -/
theorem selfNamed_after {events : List Event} (h : e.store.SelfNamed) :
    (e.after events).store.SelfNamed := by
  induction events generalizing e with
  | nil => exact h
  | cons event rest ih => exact ih (selfNamed_react h event)

/-! ## §4. The saved queries -/

theorem selfNamed_of_empty (h : e.store.contents.queries = ∅) : e.store.SelfNamed := by
  intro name text hsaved
  unfold Store.load? at hsaved
  rw [h] at hsaved
  cases hsaved

/-- **A SAVED QUERY NAMES ITSELF AND LOADS**: in an engine that started without saved queries, after
any events, a saved text compiles to a query that asks for the name of the text, the quoted name
behind `load:` compiles to that query, and preparing or running it leaves the saved queries as they
are. -/
theorem saved_query_names_itself (hempty : e.store.contents.queries = ∅) (events : List Event)
    {name text : String} (hsaved : (e.after events).store.load? name = some text) :
    ∃ q, compileText text = .ok (.ready q) ∧ q.directives.save = some name ∧
      (e.after events).store.compile (loadText name) = .ok q ∧
      ((e.after events).store.prepare (loadText name)).2.contents.queries =
        (e.after events).store.contents.queries ∧
      ∀ records today,
        ((e.after events).run (loadText name) records today).2.store.contents.queries =
          (e.after events).store.contents.queries := by
  have hself : (e.after events).store.SelfNamed := selfNamed_after (selfNamed_of_empty hempty)
  generalize (e.after events) = e' at hsaved hself ⊢
  obtain ⟨q, hq, hsave⟩ := hself name text hsaved
  -- no query asks for a name with a quote, so that the quoted name is read back
  have hname : '"' ∉ name.toList := saveName_unquoted hq name hsave
  have hload : compileText (loadText name) = .ok (.load name []) := compileText_loadText hname
  have hresolve : e'.store.resolve (loadText name) = .ok (q, text) :=
    Store.resolve_eq_ok.2 ⟨.inr ⟨name, [], hload, hsaved⟩, hq⟩
  have hqueries : (e'.store.prepare (loadText name)).2.contents.queries =
      e'.store.contents.queries := Store.queries_prepare_of_saved hresolve hsave hsaved
  exact ⟨q, hq, hsave, Store.compile_eq_ok.2 ⟨text, hresolve⟩, hqueries, fun _ _ => hqueries⟩

/-- A query that is saved while its file refuses the write, replaced by another one later, and
loaded with further words beside it. -/
theorem saved_query_names_itself_replaced :
    let e : Engine := ⟨⟨.fresh, 100, some ⟨none, true⟩⟩, .nextYear⟩
    let events : List Event := [.disturb none false, .prepare "tasks save:\"my list\"",
      .disturb none true, .prepare "projects \" save:x", .prepare "timelogs save:\"my list\"",
      .prepare "load:\"my list\" save:y"]
    ∃ q, compileText "timelogs save:\"my list\"" = .ok (.ready q) ∧
      q.directives.save = some "my list" ∧
      (e.after events).store.compile (loadText "my list") = .ok q ∧
      ((e.after events).store.prepare (loadText "my list")).2.contents.queries =
        (e.after events).store.contents.queries ∧
      ∀ records today,
        ((e.after events).run (loadText "my list") records today).2.store.contents.queries =
          (e.after events).store.contents.queries :=
  saved_query_names_itself rfl _ (by decide +kernel)

end Engine

end Agenda
