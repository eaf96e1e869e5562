import Agenda.Proofs.Engine.Requests
import Agenda.Proofs.Engine.SavedQueries

/-!
# Running a query again

A run changes the very store that the next run reads: it saves the source of its query, perhaps over
another saved text and perhaps over the one that it has just loaded. All the same the next run of the
text finds everything as the first one did. What can have been replaced under a name that the text
loads is the source, and only by itself.

THE INVARIANT: the text stands for the query, and the source of the query is saved wherever the query
asks for it (`Store.Settled`). A run that succeeds establishes it, for the text that was run and for
the quoted name behind `load:`; and a store that is settled saves nothing more, so that running either
text keeps it.

Main results:
  * `Store.Settled.of_prepare` — a preparation that succeeds settles the store;
  * `Engine.run_of_settled` — what a run does when the store is settled;
  * `Engine.repeated_run_same` — repeated runs give the same output and save nothing new.
-/

namespace Agenda

namespace Store

variable {s s' : Store} {text source : String} {q p : Query}

/-! ## §1. The store after a preparation -/

theorem load?_saveSource (s : Store) (q : Query) (source name : String) :
    (s.saveSource q source).2.load? name =
      if q.directives.save = some name then some source else s.load? name := by
  unfold load?
  rw [queries_saveSource]
  cases hsave : q.directives.save with
  | none => rw [if_neg nofun]
  | some own =>
    dsimp only
    rw [NameMap.get?_insert]
    by_cases hname : name = own
    · rw [if_pos hname, if_pos (congrArg some hname.symm)]
    · rw [if_neg hname, if_neg fun h => hname (Option.some.inj h).symm]

/-- A store over which the query of a text has been run: the text stands for the query, the source of
the query stands wherever the query asks for it, and recording a text succeeds. -/
structure Settled (s : Store) (text : String) (q : Query) (source : String) : Prop where
  resolves : s.resolve text = .ok (q, source)
  saved : ∀ name, q.directives.save = some name → s.load? name = some source
  records : ∀ text', (s.recordHistory text').1 = .ok ()

/-- Recording a text touches nothing that the query depends on. -/
theorem Settled.recordHistory (h : s.Settled text q source) (text' : String) :
    (s.recordHistory text').2.Settled text q source := by
  obtain ⟨hfrom, hsource⟩ := resolve_eq_ok.1 h.resolves
  refine ⟨resolve_eq_ok.2 ⟨?_, hsource⟩, fun name hsave => ?_, fun _ =>
    recordHistory_again (h.records text') _⟩
  · rcases hfrom with rfl | ⟨name, discarded, hload, hsaved⟩
    · exact .inl rfl
    · exact .inr ⟨name, discarded, hload, by rw [load?_recordHistory, hsaved]⟩
  · rw [load?_recordHistory]
    exact h.saved name hsave

/-- A settled store has nothing left to save. -/
theorem Settled.saveSource (h : s.Settled text q source) :
    s.saveSource q source = (.ok (), s) := by
  unfold Store.saveSource
  cases hsave : q.directives.save with
  | none => rfl
  | some name =>
    dsimp only
    rw [save_eq, if_pos (h.saved name hsave)]

theorem Settled.prepare (h : s.Settled text q source) :
    s.prepare text = (.ok q.withDefaults, (s.recordHistory text).2) := by
  rw [prepare_of_saveSource_ok h.resolves h.saveSource, h.records text]
  rfl

/-- **A preparation that succeeds settles the store**, for the text and for the quoted name behind
`load:`. -/
theorem Settled.of_prepare (h : s.prepare text = (.ok p, s')) :
    ∃ q source, s.compile text = .ok q ∧ p = q.withDefaults ∧ s'.Settled text q source ∧
      ∀ name, q.directives.save = some name → s'.Settled (loadText name) q source := by
  obtain ⟨q, source, hresolve, _, hrecorded, rfl⟩ := prepare_eq_ok.1 h
  obtain ⟨hfrom, hsource⟩ := resolve_eq_ok.1 hresolve
  have hs' : s' = ((s.saveSource q source).2.recordHistory text).2 :=
    (congrArg Prod.snd hrecorded).symm
  have hload? : ∀ name, s'.load? name =
      if q.directives.save = some name then some source else s.load? name := by
    intro name
    rw [hs', load?_recordHistory, load?_saveSource]
  have hsaved : ∀ name, q.directives.save = some name → s'.load? name = some source :=
    fun name hsave => (hload? name).trans (if_pos hsave)
  have hrecords : ∀ text', (s'.recordHistory text').1 = .ok () := by
    intro text'
    rw [hs']
    exact recordHistory_again (congrArg Prod.fst hrecorded) text'
  have hfrom' : s'.IsSource text source := by
    rcases hfrom with rfl | ⟨name, discarded, hload, hname⟩
    · exact .inl rfl
    · refine .inr ⟨name, discarded, hload, ?_⟩
      rw [hload?, hname]
      -- whatever stands under the name now is the source, saved again or not
      exact ite_self _
  refine ⟨q, source, compile_eq_ok.2 ⟨source, hresolve⟩, rfl,
    ⟨resolve_eq_ok.2 ⟨hfrom', hsource⟩, hsaved, hrecords⟩, fun name hsave => ?_⟩
  -- no query asks for a name with a quote, so that the quoted name is read back
  have hload : compileText (loadText name) = .ok (.load name []) :=
    compileText_loadText (saveName_unquoted hsource name hsave)
  exact ⟨resolve_eq_ok.2 ⟨.inr ⟨name, [], hload, hsaved name hsave⟩, hsource⟩, hsaved, hrecords⟩

end Store

namespace Engine

variable {e e' : Engine} {text source : String} {q : Query} {records : Records} {today : Date}
  {out : Output}

/-! ## §2. Runs -/

theorem run_eq_ok : e.run text records today = (.ok out, e') ↔
    ∃ p s', e.store.prepare text = (.ok p, s') ∧
      evaluate p records ⟨today, e.pastMonthDay⟩ = .ok out ∧ e' = { e with store := s' } := by
  unfold run
  generalize e.store.prepare text = prepared
  obtain ⟨result, store⟩ := prepared
  cases result with
  | error cause => simp [Except.bind]
  | ok p =>
    constructor
    · intro h
      obtain ⟨hout, rfl⟩ := Prod.mk.inj h
      exact ⟨p, store, rfl, mapError_eq_ok.1 hout, rfl⟩
    · rintro ⟨_, _, hprepared, hout, rfl⟩
      obtain ⟨hp, rfl⟩ := Prod.mk.inj hprepared
      obtain rfl := Except.ok.inj hp
      exact congrArg (·, _) (mapError_eq_ok.2 hout)

/-- **What a run does when the store is settled**: it gives the output of the query, and touches
nothing but the history. -/
theorem run_of_settled (h : e.store.Settled text q source)
    (hout : evaluate q.withDefaults records ⟨today, e.pastMonthDay⟩ = .ok out) :
    e.run text records today =
      (.ok out, { e with store := (e.store.recordHistory text).2 }) :=
  run_eq_ok.2 ⟨_, _, h.prepare, hout, rfl⟩

/-- Whether a text repeats a query: the text itself, or the quoted name behind `load:` that the query
is saved under. -/
def Repeats (text : String) (q : Query) (again : String) : Prop :=
  again = text ∨ ∃ name, q.directives.save = some name ∧ again = loadText name

/-- Runs that repeat the query keep the store settled, the policy and the saved queries. -/
theorem served_of_settled {repeats : List String}
    (hsettled : ∀ again, Repeats text q again → e.store.Settled again q source)
    (hout : evaluate q.withDefaults records ⟨today, e.pastMonthDay⟩ = .ok out)
    (hrepeats : ∀ again ∈ repeats, Repeats text q again) :
    let later := e.served (repeats.map (.run · records today))
    (∀ again, Repeats text q again → later.store.Settled again q source) ∧
    later.pastMonthDay = e.pastMonthDay ∧
    later.store.contents.queries = e.store.contents.queries := by
  induction repeats generalizing e with
  | nil => exact ⟨hsettled, rfl, rfl⟩
  | cons first rest ih =>
    obtain ⟨hfirst, hrest⟩ := List.forall_mem_cons.1 hrepeats
    have hrun := run_of_settled (hsettled first hfirst) hout
    have hserved : e.served ((first :: rest).map (.run · records today)) =
        served { e with store := (e.store.recordHistory first).2 }
          (rest.map (.run · records today)) := by
      show served (e.run first records today).2 _ = _
      rw [hrun]
    rw [hserved]
    -- the first run has recorded its text, and the others find everything else as it did
    have hnext : ∀ again, Repeats text q again →
        (e.store.recordHistory first).2.Settled again q source :=
      fun again hagain => (hsettled again hagain).recordHistory first
    obtain ⟨hlater, hpolicy, hqueries⟩ :=
      @ih { e with store := (e.store.recordHistory first).2 } hnext hout hrest
    exact ⟨hlater, hpolicy, hqueries.trans (Store.queries_recordHistory _ _)⟩

/-- **REPEATED RUNS CHANGE NOTHING**: after a run that succeeded, running the text again, or the
quoted name that its query is saved under behind `load:`, gives the same output over the same
collections on the same day and leaves the saved queries as they are, however often either has been
repeated before. -/
theorem repeated_run_same (hrun : e.run text records today = (.ok out, e')) :
    ∃ q, e.store.compile text = .ok q ∧
      ∀ repeats : List String, (∀ again ∈ repeats, Repeats text q again) →
        ∀ again, Repeats text q again →
          let later := e'.served (repeats.map (.run · records today))
          (later.run again records today).1 = .ok out ∧
          (later.run again records today).2.store.contents.queries =
            e'.store.contents.queries := by
  obtain ⟨p, s', hprepared, hout, rfl⟩ := run_eq_ok.1 hrun
  obtain ⟨q, source, hcompile, rfl, htext, hload⟩ := Store.Settled.of_prepare hprepared
  have hsettled : ∀ again, Repeats text q again → s'.Settled again q source := by
    rintro again (rfl | ⟨name, hsave, rfl⟩)
    · exact htext
    · exact hload name hsave
  refine ⟨q, hcompile, fun repeats hrepeats again hagain => ?_⟩
  obtain ⟨hlater, hpolicy, hqueries⟩ :=
    served_of_settled (e := { e with store := s' }) hsettled hout hrepeats
  dsimp only
  generalize served { e with store := s' } _ = later at hlater hpolicy hqueries ⊢
  rw [run_of_settled (hlater again hagain) (hpolicy ▸ hout)]
  exact ⟨rfl, (Store.queries_recordHistory _ _).trans hqueries⟩

/-- The text loads a query that is saved under another name, over a text that is there; it is run once
more by that name and then again as it was typed. -/
theorem repeated_run_same_other_name :
    let today : Date := ⟨2024, 3, 13, by decide, by decide, by decide⟩
    let log : TimeLog := ⟨7, "webapp", none, today, 25, none⟩
    let records : Records := ⟨[], [], [log]⟩
    let source : String := "timelogs cols:id save:v"
    let e : Engine :=
      ⟨⟨⟨1, .ofList [("v", "projects"), ("w", source)], []⟩, 100, some ⟨none, true⟩⟩, .nextYear⟩
    let out : Output := ⟨.timeLog, ["id"], .list, [⟨.timeLog log, [], [], [.int 7]⟩], none⟩
    let e' : Engine := (e.run "load:w p2" records today).2
    let later : Engine := e'.served ([loadText "v"].map (.run · records today))
    e'.store.load? "v" = some source ∧
    (later.run "load:w p2" records today).1 = .ok out ∧
    (later.run "load:w p2" records today).2.store.contents.queries =
      e'.store.contents.queries := by
  intro today log records source e out e' later
  have hsaved : e'.store.load? "v" = some source := by decide +kernel +revert
  have hout : (e.run "load:w p2" records today).1 = .ok out := by
    clear hsaved later
    decide +kernel +revert
  have hrun : e.run "load:w p2" records today = (.ok out, e') := Prod.ext hout rfl
  have hq : e.store.compile "load:w p2" = .ok { domain := .timeLog, directives :=
      { columns := some ["id"], save := some "v" } } := by decide +kernel +revert
  obtain ⟨q, hcompile, hsame⟩ := repeated_run_same hrun
  obtain rfl := Except.ok.inj (hq.symm.trans hcompile)
  obtain ⟨hsameOut, hqueries⟩ := hsame [loadText "v"]
    (List.forall_mem_singleton.2 (.inr ⟨"v", rfl, rfl⟩)) "load:w p2" (.inl rfl)
  -- folded by name, so that no run is unfolded to see that the two are the same
  have hlater : later = e'.served ([loadText "v"].map (.run · records today)) := rfl
  rw [← hlater] at hsameOut hqueries
  exact ⟨hsaved, hsameOut, hqueries⟩

end Engine

end Agenda
