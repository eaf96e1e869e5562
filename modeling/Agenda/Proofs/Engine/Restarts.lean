import Agenda.Proofs.Engine.Requests
import Agenda.Proofs.Engine.Steps
import Agenda.Proofs.Store.Reopening

/-!
# Restarts

An engine whose store has a file can be closed at any time and opened again from the file. A restart
drops the memory and keeps nothing but what the file holds, so it can be noticed as soon as the two
differ: when the memory has changed and the file has not, or when reading the file again gives
something else than what was written.

THE INVARIANT: the file takes every write and holds the memory (`Store.Synced`). Opening the file
establishes it, every request keeps it, and under it a restart is the identity.

Main results:
  * `Engine.synced_serve` — what one request keeps;
  * `Engine.restarts_unobservable` — a session with restarts shows what the session without them does.
-/

namespace Agenda

/-! ## §1. Sessions -/

/-- What happens in a session. -/
inductive Action
  | request (request : Request)
  /-- The store is closed, and opened again from its file. -/
  | restart
deriving DecidableEq

/-- The request of an action, if it is one. -/
def Action.request? : Action → Option Request
  | request r => some r
  | restart => none

/-- What is seen after each request of a session. The session fails where the file does not open. -/
def Engine.session (e : Engine) : List Action → Except StoreError (List Observation)
  | [] => .ok []
  | .request r :: rest =>
    (Engine.session (e.serve r).2 rest).map ((e.serve r).2.observe (e.serve r).1 :: ·)
  | .restart :: rest =>
    match e.store.reopen with
    | (.ok (), opened) => Engine.session { e with store := opened } rest
    | (.error cause, _) => .error cause

/-! ## §2. The file holds the memory -/

namespace Store

variable {s : Store}

theorem Synced.saveSource (h : s.Synced) (q : Query) (source : String) :
    (s.saveSource q source).2.Synced := by
  unfold Store.saveSource
  cases q.directives.save with
  | some name => exact h.save name source
  | none => exact h

theorem Synced.prepare (h : s.Synced) (text : String) : (s.prepare text).2.Synced :=
  prepare_preserves h h.saveSource fun _ hstored => hstored.recordHistory text

end Store

namespace Engine

variable {e : Engine}

/-- **What one request keeps.** -/
theorem synced_serve (h : e.store.Synced) (r : Request) : (e.serve r).2.store.Synced := by
  cases r with
  | run text records today => exact h.prepare text
  | prepare text => exact h.prepare text
  | compile text => exact h
  | save name text => exact h.save name text
  | load name => exact h
  | remove name => exact h.remove name
  | names => exact h
  | record text => exact h.recordHistory text

/-! ## §3. Restarts -/

/-- What a session shows while the file holds the memory. -/
theorem session_eq_ok {actions : List Action} (h : e.store.Synced) :
    e.session actions = .ok (e.observations (actions.filterMap Action.request?)) := by
  induction actions generalizing e with
  | nil => rfl
  | cons action rest ih =>
    cases action with
    | request r =>
      -- both sessions go on from the same engine, whose file holds the memory again
      show (session (e.serve r).2 rest).map _ = _
      rw [ih (synced_serve h r)]
      rfl
    | restart =>
      -- the store that is opened is the store that was closed
      show (match e.store.reopen with
        | (.ok (), opened) => session { e with store := opened } rest
        | (.error cause, _) => .error cause) = _
      rw [h.reopen]
      exact ih h

/-- **RESTARTS ARE UNOBSERVABLE**: over a file that opens and takes every write, whatever it holds
and whatever the history limit, a session in which the store is closed and opened again from its file
between any requests, any number of times, never fails to open it, and shows after every request the
answer, the saved queries, the history and the text of the file that the session without restarts
shows. -/
theorem restarts_unobservable {file : StoreFile} {limit : Nat} {s : Store}
    (hwritable : file.writable = true) (hopen : Store.openFile file limit = .ok s)
    (policy : PastMonthDay) (actions : List Action) :
    session ⟨s, policy⟩ actions =
      .ok (observations ⟨s, policy⟩ (actions.filterMap Action.request?)) :=
  session_eq_ok (Store.Synced.of_openFile hwritable hopen)

/-- Over a file of another version, with further fields, without queries and with more history than
the limit, and with restarts at the start, one after the other, and around requests that write and
that do not. -/
theorem restarts_unobservable_foreign_file :
    let file : StoreFile :=
      ⟨some (.file "\x7b\"history\": [\"a\", \"b\"], \"more\": [null], \"version\": 7\x7d"), true⟩
    let s : Store := ⟨⟨7, ∅, ["a", "b"]⟩, 1, some file⟩
    let today : Date := ⟨2024, 3, 13, by decide, by decide, by decide⟩
    let actions : List Action := [.restart, .request (.remove "x"), .restart, .restart,
      .request (.run "tasks save:x" default today), .restart, .request (.load "x"),
      .request (.save "x" "tasks save:x"), .restart, .request (.compile "load:x")]
    session ⟨s, .nextYear⟩ actions =
      .ok (observations ⟨s, .nextYear⟩ (actions.filterMap Action.request?)) := by
  intro file s today actions
  have hopen : Store.openFile file 1 = .ok s := by decide +kernel +revert
  exact restarts_unobservable rfl hopen _ _

end Engine

end Agenda
