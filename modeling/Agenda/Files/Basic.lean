import Agenda.Text.Hidden

/-!
# Files and paths

What the program needs of a file system, and how it takes the paths of files together and apart.
A run of the program is written against two operations, so that it can be carried out on real files
as well as on a disk in memory.
-/

namespace Agenda

/-! ## Entries

What can stand at a place of a file system: a file with its text, a directory, or something that
exists but cannot be opened, such as a socket. Nothing at all is the absence of an entry. -/

/-- What stands at a place. -/
inductive Entry
  | file (text : String)
  | directory
  | unopenable
deriving DecidableEq

/-! ## Access to files

Two operations in any monad: to see what stands at a path, and to write a text to it. -/

/-- Why a file cannot be written. -/
inductive FileFault
  | notFound
  | alreadyThere
  | notDirectory
  | isDirectory
  | noDevice
  | nameTooLong
  /-- The path holds the character zero. -/
  | zeroInPath
  /-- Any other cause, in the words of the system. -/
  | other (message : String)
deriving DecidableEq

/-- The wording of the cause. -/
def FileFault.message : FileFault → String
  | notFound => "No such file or directory (os error 2)"
  | alreadyThere => "File exists (os error 17)"
  | notDirectory => "Not a directory (os error 20)"
  | isDirectory => "Is a directory (os error 21)"
  | noDevice => "No such device or address (os error 6)"
  | nameTooLong => "File name too long (os error 36)"
  | zeroInPath => "file name contained an unexpected NUL byte"
  | other message => message

/-- Access to files. -/
structure Files (m : Type → Type) where
  /-- What stands at a path. -/
  look : (path : String) → m (Option Entry)
  /-- Writes a text to the file at a path, in place of what it held. Directories on the way to it
  that are missing are made, and stay if the file then cannot be written. -/
  write : (path text : String) → m (Except FileFault Unit)

end Agenda

/-! ## Paths

A path is a text of names with slashes between them. Joining, taking apart and quoting work on that
text as it is written: nothing is resolved here. -/

namespace Agenda.Path

/-- Whether a path starts at the root. -/
def isAbsolute (path : String) : Bool :=
  path.toList.head? == some '/'

/-- The path that leads on from a base. An absolute path leads there from any base. -/
def join (base path : String) : String :=
  if isAbsolute path ∨ base = "" then path
  else if base.toList.getLast? = some '/' then base ++ path
  else base ++ "/" ++ path

/-! ### Pieces -/

/-- The pieces of a path between its slashes. -/
def pieces (path : String) : List String :=
  path.splitOn "/"

/-- Whether a piece leads from one directory to another one. -/
def isStep (piece : String) : Bool :=
  piece != "" && piece != "."

/-- The paths of the directories that a path leads through before its last step, the nearest one
first. -/
def directories (path : String) : List String :=
  let steps := (List.range (pieces path).length).filter fun i => (pieces path)[i]?.any isStep
  steps.dropLast.reverse.map fun i => "/".intercalate ((pieces path).take (i + 1))

/-! ### Quoting -/

/-- A character as it stands between quotes. -/
def quotedChar (c : Char) : List Char :=
  match c with
  | '"' => ['\\', '"']
  | '\\' => ['\\', '\\']
  | '\t' => ['\\', 't']
  | '\r' => ['\\', 'r']
  | '\n' => ['\\', 'n']
  | '\x00' => ['\\', '0']
  | c =>
    if Text.isHidden c then '\\' :: 'u' :: '\x7b' :: (Nat.toDigits 16 c.toNat ++ ['\x7d']) else [c]

/-- A path in quotes, as messages show it. -/
def quoted (path : String) : String :=
  String.ofList ('"' :: (path.toList.flatMap quotedChar ++ ['"']))

end Agenda.Path
