import Std.Time.Format
import Agenda.CommandLine.Run

/-!
# The program

Runs the command line on the files of the system, with the environment and the date of the day.
-/

namespace Agenda

/-- What stands at a path. -/
def lookOnSystem (path : String) : IO (Option Entry) := do
  let file := System.mkFilePath [path]
  if ← file.isDir then return some .directory
  if !(← file.pathExists) then return none
  try
    return some (.file (← IO.FS.readFile file))
  catch _ =>
    return some .unopenable

/-- The fault that the system reports. -/
def faultOf : IO.Error → FileFault
  | .noFileOrDirectory _ 2 _ => .notFound
  | .alreadyExists _ 17 _ => .alreadyThere
  | .inappropriateType _ 20 _ => .notDirectory
  | .inappropriateType _ 21 _ => .isDirectory
  | .noSuchThing _ 6 _ => .noDevice
  | .invalidArgument _ 36 _ => .nameTooLong
  | e => .other (toString e)

/-- Writes a text to the file at a path, and makes the directories on the way to it. -/
def writeOnSystem (path text : String) : IO (Except FileFault Unit) := do
  try
    match (Path.directories path).head? with
    | some directory => IO.FS.createDirAll (System.mkFilePath [directory])
    | none => pure ()
    IO.FS.writeFile (System.mkFilePath [path]) text
    return .ok ()
  catch e =>
    return .error (faultOf e)

/-- Access to the files of the system. -/
def systemFiles : Files IO where
  look := lookOnSystem
  write := writeOnSystem

/-- The environment of the process. -/
def processEnvironment : IO Environment := do
  let assignments ← Environment.consulted.filterMapM fun name => do
    return (← IO.getEnv name).map fun value => (name, value)
  return ⟨assignments, none⟩

/-- The date of the day, if it lies in the calendar. -/
def dateOfToday? : IO (Option Date) := do
  let day ← Std.Time.PlainDate.now
  return Date.ofYearMonthDay? day.year.toInt day.month.val.toNat day.day.val.toNat

end Agenda

/-- Runs the program on its arguments. -/
def main (arguments : List String) : IO UInt32 := do
  let env ← Agenda.processEnvironment
  match ← Agenda.dateOfToday? with
  | none => return 101
  | some today =>
    let outcome ← Agenda.CommandLine.run Agenda.systemFiles env today arguments
    IO.print outcome.output
    IO.eprint outcome.errors
    return outcome.code
