import Agenda.Evaluation.Evaluate
import Agenda.Query.Compile
import Agenda.Query.Defaults
import Agenda.Store.Basic

/-!
# The engine

Runs the text of a query from end to end:

    text → lex → compile ─┬─ ready ────────────────────────┬→ save → history → defaults → evaluate
                          └─ load → saved text → lex → compile

A saved text replaces the whole query, and may not itself ask for one. Nothing is stored unless the
query compiles; what has been stored stays, whatever happens afterwards.
-/

namespace Agenda

/-- Why a run has no result. -/
inductive RunError
  | query (cause : QueryError)
  | store (cause : StoreError)
  | overflow (cause : WeekOverflow)
deriving DecidableEq

/-- The error of a run whose evaluation has no result. -/
def RunError.ofEvaluation : EvaluationError → RunError
  | .invalid cause => .query (.compile cause)
  | .overflow cause => .overflow cause

/-- A store of saved queries, and the policy for days that have passed. -/
structure Engine where
  store : Store
  pastMonthDay : PastMonthDay
deriving DecidableEq

namespace Store

/-- The query that a text stands for and the text that it was compiled from: the text itself, or the
saved one that it loads. -/
def resolve (s : Store) (text : String) : Except QueryError (Query × String) := do
  match ← compileText text with
  | .ready q => return (q, text)
  | .load name _ =>
    match s.load? name with
    | none => throw (.notFound name s.names)
    | some saved =>
      match ← compileText saved with
      | .ready q => return (q, saved)
      | .load _ _ => throw (.compile (.nestedLoad name))

/-- The query that a text stands for. -/
def compile (s : Store) (text : String) : Except QueryError Query :=
  (s.resolve text).map (·.1)

/-- Saves the source of a query, if the query asks for it. -/
def saveSource (s : Store) (q : Query) (source : String) : Except StoreError Unit × Store :=
  match q.directives.save with
  | some name => s.save name source
  | none => (.ok (), s)

/-- Compiles a text, saves its source if the query asks for it, puts the text as it was typed into
the history, and fills in the defaults. -/
def prepare (s : Store) (text : String) : Except RunError Query × Store :=
  match s.resolve text with
  | .error cause => (.error (.query cause), s)
  | .ok (q, source) =>
    match s.saveSource q source with
    | (.error cause, s) => (.error (.store cause), s)
    | (.ok (), s) =>
      match s.recordHistory text with
      | (.error cause, s) => (.error (.store cause), s)
      | (.ok (), s) => (.ok q.withDefaults, s)

end Store

namespace Engine

/-- Runs a text over the collections. -/
def run (e : Engine) (text : String) (records : Records) (today : Date) :
    Except RunError Output × Engine :=
  let (prepared, store) := e.store.prepare text
  let result := prepared.bind fun q =>
    (evaluate q records ⟨today, e.pastMonthDay⟩).mapError .ofEvaluation
  (result, { e with store })

end Engine

end Agenda
