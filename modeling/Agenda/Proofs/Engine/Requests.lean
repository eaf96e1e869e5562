import Agenda.Engine
import Agenda.Proofs.Outcomes

/-!
# Requests

What can be asked of an engine and of its store, one request at a time, and what is seen of it after
each of them: the answer, the saved queries, the history and the text of the file. Two ways to reach
an engine cannot be told apart when the observations are equal.
-/

namespace Agenda

/-- What can be asked of an engine and of its store. -/
inductive Request
  | run (text : String) (records : Records) (today : Date)
  | prepare (text : String)
  | compile (text : String)
  | save (name text : String)
  | load (name : String)
  | remove (name : String)
  | names
  | record (text : String)
deriving DecidableEq

/-- The answer to a request. -/
inductive Answer
  | run (result : Except RunError Output)
  | prepare (result : Except RunError Query)
  | compile (result : Except QueryError Query)
  | save (result : Except StoreError Unit)
  | load (text : Option String)
  | remove (result : Except StoreError Bool)
  | names (names : List String)
  | record (result : Except StoreError Unit)
deriving DecidableEq

/-- Whether an answer reports an error of the store: a write has failed. -/
def Answer.reportsStoreError : Answer → Bool
  | run (.error (.store _)) | prepare (.error (.store _)) => true
  | save (.error _) | remove (.error _) | record (.error _) => true
  | _ => false

/-- What is seen of an engine after a request. -/
structure Observation where
  answer : Answer
  queries : NameMap String
  history : List String
  /-- The text of the file, if there is one. -/
  fileText : Option String
deriving DecidableEq

namespace Engine

/-- Answers a request. -/
def serve (e : Engine) : Request → Answer × Engine
  | .run text records today =>
    (.run (e.run text records today).1, (e.run text records today).2)
  | .prepare text =>
    (.prepare (e.store.prepare text).1, { e with store := (e.store.prepare text).2 })
  | .compile text => (.compile (e.store.compile text), e)
  | .save name text =>
    (.save (e.store.save name text).1, { e with store := (e.store.save name text).2 })
  | .load name => (.load (e.store.load? name), e)
  | .remove name =>
    (.remove (e.store.remove name).1, { e with store := (e.store.remove name).2 })
  | .names => (.names e.store.names, e)
  | .record text =>
    (.record (e.store.recordHistory text).1, { e with store := (e.store.recordHistory text).2 })

/-- The engine after a sequence of requests. -/
def served (e : Engine) (requests : List Request) : Engine :=
  requests.foldl (fun e r => (e.serve r).2) e

/-- What is seen of an engine after an answer. -/
def observe (e : Engine) (answer : Answer) : Observation :=
  { answer
    queries := e.store.contents.queries
    history := e.store.contents.history
    fileText := e.store.file.bind StoreFile.text? }

/-- What is seen after each of some requests. -/
def observations (e : Engine) : List Request → List Observation
  | [] => []
  | r :: rest => (e.serve r).2.observe (e.serve r).1 :: observations (e.serve r).2 rest

end Engine

end Agenda
