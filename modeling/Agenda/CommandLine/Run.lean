import Agenda.CommandLine.Arguments
import Agenda.Engine
import Agenda.Record.Load
import Agenda.Report
import Agenda.Settings.Load

/-!
# Runs of the program

Carries out what the arguments ask for: reads the settings, opens the store, does the work, and says
what is printed and with which code the program ends. Files are touched through `Files` only. The
store is worked on in memory; its file is written once, after the work, and if that fails the work
counts as done on a store whose file cannot be written.
-/

namespace Agenda

/-- What a run leaves for its caller. -/
structure Outcome where
  code : UInt32
  output : String
  errors : String
deriving DecidableEq

namespace Outcome

/-- A run that went well. -/
def success (output : String) : Outcome :=
  ⟨0, output, ""⟩

/-- A run that did not do what it was asked to. -/
def failure (errors : String) : Outcome :=
  ⟨1, "", errors⟩

/-- A run that could not be carried out. -/
def fatal (message : String) : Outcome :=
  failure ("Error: " ++ message ++ "\n")

/-- A run that broke off. -/
def brokenOff (message : String) : Outcome :=
  ⟨101, "", message ++ "\n"⟩

end Outcome

namespace CommandLine

/-- How the arguments are to be written. -/
def usage : String :=
  "Usage: tasklens [OPTIONS] <COMMAND>

Commands:
  q [WORDS]... [--today <DATE>] [--history]
  saved [--remove <NAME>]
  config [--output <FILE>]

Options:
      --data-dir <DIR>
  -f, --format <FORMAT>
"

/-- What one command needs to know. -/
structure Session where
  settings : Settings
  environment : Environment
  today : Date
  /-- How results are written. -/
  format : String

namespace Session

/-- The path of the file of the store. -/
def storePath (s : Session) : String :=
  s.environment.expand s.settings.storePath

/-- The directory of the record files. -/
def dataDirectory (s : Session) : String :=
  s.environment.expand s.settings.dataDirectory

end Session

/-! ## Texts -/

/-- A text with blanks in front of it up to a width. -/
def padLeft (width : Nat) (s : String) : String :=
  String.ofList (s.toList.leftpad width ' ')

/-- A text with blanks behind it up to a width. -/
def padRight (width : Nat) (s : String) : String :=
  String.ofList (s.toList.rightpad width ' ')

/-- The lines as one text. -/
def unlines (lines : List String) : String :=
  String.join (lines.map (· ++ "\n"))

/-- The history of a store, numbered. -/
def historyText (store : Store) : String :=
  unlines (store.contents.history.zipIdx.map fun (text, i) =>
    padLeft 4 (toString (i + 1)) ++ "  " ++ text)

/-- The saved queries of a store. -/
def queriesText (store : Store) : String :=
  let row (name text : String) := padRight 20 name ++ " " ++ text
  match store.contents.queries.entries with
  | [] => unlines ["No saved queries yet.", "", "Save one with:",
      "  tasklens q tasks due:eow save:week"]
  | entries =>
    unlines (row "Name" "Query" :: String.ofList (List.replicate 60 '-') ::
      entries.map fun (name, text) => row name text)

/-- A result in a format, if it can be written in it; a format that is not known is that of
people. -/
def outputText? (format : String) (o : Output) : Option String :=
  match format with
  | "json" => some (o.toJson.print ++ "\n")
  | "csv" => some o.csv
  | _ => o.table?

/-- The report of an error in a query. -/
def errorText (e : QueryError) : String :=
  unlines (("error[" ++ e.kind ++ "]: " ++ e.message) ::
    if e.suggestions = [] then [] else ["  valid options: " ++ commaList e.suggestions])

/-! ## Work on a store -/

/-- Runs the text of a query on a store. -/
def runText (s : Session) (records : Records) (day : Date) (text : String) (store : Store) :
    Outcome × Store :=
  let (result, engine) := (Engine.mk store s.settings.pastMonthDay).run text records day
  let outcome := match result with
    | .ok output =>
      match outputText? s.format output with
      | some text => .success text
      | none => .brokenOff "A row has no cell in a column."
    | .error (.query cause) => .failure (errorText cause)
    | .error (.store _) => .failure "error[store]\n"
    | .error (.overflow _) => .brokenOff "The week of today does not fit into the calendar."
  (outcome, engine.store)

/-- Removes a saved query from a store. -/
def removeQuery (name : String) (store : Store) : Outcome × Store :=
  match store.remove name with
  | (.ok true, store) => (.success ("Removed saved query '" ++ name ++ "'\n"), store)
  | (.ok false, store) => (.failure ("No saved query named '" ++ name ++ "'\n"), store)
  | (.error _, store) => (.fatal "IO error", store)

/-- The saved queries of a store in a format. -/
def listQueries (format : String) (store : Store) : Outcome :=
  .success (if format = "json" then store.queriesJson.print ++ "\n" else queriesText store)

variable {m : Type → Type} [Monad m]

/-- Does some work on a store and writes its file if the work has changed it. -/
def commit (files : Files m) (path : String) (store : Store) (work : Store → Outcome × Store) :
    m Outcome := do
  let (outcome, worked) := work store
  match worked.file.bind StoreFile.text? with
  | some text =>
    if worked.file = store.file then return outcome
    match ← files.write path text with
    | .ok () => return outcome
    | .error _ =>
      return (work { store with file := store.file.map ({ · with fate := .refused }) }).1
  | none => return outcome

/-- Opens the store of a session and goes on with it. -/
def withStore (files : Files m) (s : Session) (next : Store → m Outcome) : m Outcome := do
  match Store.openFile ⟨← files.look s.storePath, true⟩ s.settings.historyLimit with
  | .ok store => next store
  | .error _ => return .fatal ("Failed to open saved queries at " ++ Path.quoted s.storePath)

/-- Reads the records of a directory. -/
def loadRecords (files : Files m) (directory : String) : m (Except LoadError Records) := do
  let entry (domain : Domain) := files.look (Path.join directory (Records.fileName domain))
  let tasks ← entry .task
  let projects ← entry .project
  let timeLogs ← entry .timeLog
  return Records.load fun
    | .task => tasks
    | .project => projects
    | .timeLog => timeLogs

/-- The day that a query is evaluated for, or the outcome if there is no such day. -/
def evaluationDay (s : Session) : Option String → Except Outcome Date
  | none => .ok s.today
  | some text =>
    match DateForm.read? .tight text with
    | some day => .ok day
    | none => .error (.fatal ("Invalid --today date: " ++ text))

/-- Carries out the command `q`. -/
def query (files : Files m) (s : Session) (words : List String) (today : Option String)
    (history : Bool) : m Outcome :=
  withStore files s fun store => do
    if history then return .success (historyText store)
    if words = [] then return .fatal "No query given. Example: tasklens q tasks @webapp p1"
    match evaluationDay s today with
    | .error outcome => return outcome
    | .ok day =>
      match ← loadRecords files s.dataDirectory with
      | .error _ => return .fatal ("Failed to load records from " ++ Path.quoted s.dataDirectory)
      | .ok records =>
        commit files s.storePath store (runText s records day (String.intercalate " " words))

/-- Carries out the command `saved`. -/
def saved (files : Files m) (s : Session) (remove : Option String) : m Outcome :=
  withStore files s fun store =>
    match remove with
    | some name => commit files s.storePath store (removeQuery name)
    | none => return listQueries s.format store

/-- Carries out the command `config`. -/
def settings (files : Files m) : (output : Option String) → m Outcome
  | none => return .success Settings.fileText
  | some path => do
    match ← files.write path Settings.fileText with
    | .ok () => return .success ("Config written to " ++ Path.quoted path ++ "\n")
    | .error fault => return .fatal fault.message

/-- The session that the arguments ask for. -/
def session (files : Files m) (env : Environment) (today : Date) (a : Arguments) :
    m Session := do
  let settings ← Settings.forSession files env
  return {
    settings := { settings with dataDirectory := a.dataDirectory.getD settings.dataDirectory }
    environment := env
    today
    format := a.format.getD "table" }

/-- Runs the program. -/
def run (files : Files m) (env : Environment) (today : Date) (arguments : List String) :
    m Outcome := do
  match Arguments.read arguments with
  | .error .misuse => return ⟨2, "", usage⟩
  | .error .information => return .success usage
  | .ok a =>
    let s ← session files env today a
    match a.command with
    | .query words day history => query files s words day history
    | .saved remove => saved files s remove
    | .settings output => settings files output

end CommandLine

end Agenda
