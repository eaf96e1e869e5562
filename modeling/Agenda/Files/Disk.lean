import Agenda.Files.Basic

/-!
# A disk in memory

A tree of directories and other entries, kept as a list of the places that are taken. A path is
followed name by name from the root or from the working directory: `.` stays, `..` leads to the
directory above, and each step needs a directory to start from. Names and paths that are too long
are refused where they are met.
-/

namespace Agenda

/-- A place on a disk: the names that lead to it from the root. -/
abbrev Place := List String

/-- A disk, with its working directory. -/
structure Disk where
  entries : List (Place × Entry)
  working : Place
deriving DecidableEq

namespace Disk

/-- What stands at a place. The root is a directory. -/
def entryAt? (d : Disk) (place : Place) : Option Entry :=
  if place = [] then some .directory else d.entries.lookup place

/-- The disk with an entry put at a place. -/
def put (d : Disk) (place : Place) (entry : Entry) : Disk :=
  { d with entries := (place, entry) :: d.entries.filter fun (taken, _) => taken != place }

/-- The places on the way to a place, the shortest first, without the root. -/
def ancestors (place : Place) : List Place :=
  (List.range (place.length - 1)).map fun i => place.take (i + 1)

/-- The disk with an entry put at a place, and directories on the way to it where nothing was. -/
def plant (d : Disk) (place : Place) (entry : Entry) : Disk :=
  ((ancestors place).foldl
    (fun d on => if d.entryAt? on = none then d.put on .directory else d) d).put place entry

/-! ## Following paths -/

/-- The most bytes that a name may have. -/
def longestName : Nat := 255

/-- The most bytes that a path may have. -/
def longestPath : Nat := 4095

/-- Refuses the paths that are not even followed. -/
def checked (path : String) : Except FileFault Unit :=
  if path = "" then .error .notFound
  else if path.toList.contains '\x00' then .error .zeroInPath
  else if longestPath < path.utf8ByteSize then .error .nameTooLong
  else .ok ()

/-- The names of a path, without the empty ones. -/
def names (path : String) : List String :=
  (Path.pieces path).filter (· != "")

/-- Where a path starts. -/
def start (d : Disk) (path : String) : Place :=
  if Path.isAbsolute path then [] else d.working

/-- The place that one name leads to from another place. -/
def step (d : Disk) (here : Place) (name : String) : Except FileFault Place :=
  match d.entryAt? here with
  | none => .error .notFound
  | some .directory =>
    if name = "." then .ok here
    else if name = ".." then .ok here.dropLast
    else if longestName < name.utf8ByteSize then .error .nameTooLong
    else .ok (here ++ [name])
  | some _ => .error .notDirectory

/-- The place that some names lead to, one after the other, from where a path starts. -/
def follow (d : Disk) (path : String) (names : List String) : Except FileFault Place :=
  names.foldlM d.step (d.start path)

/-- The place that a path leads to. A path that ends in a slash has to end in a directory. -/
def place? (d : Disk) (path : String) : Except FileFault Place := do
  checked path
  d.follow path (names path ++ if path.endsWith "/" then ["."] else [])

/-- What stands at a path. -/
def look (d : Disk) (path : String) : Option Entry :=
  match d.place? path with
  | .ok place => d.entryAt? place
  | .error _ => none

/-! ## Making directories -/

/-- Work on a disk that a fault may end. What was done before the fault stays done. -/
abbrev Work := ExceptT FileFault (StateM Disk)

/-- The disk with a directory made at a path, where nothing may be. -/
def withDirectory (d : Disk) (path : String) : Except FileFault Disk := do
  checked path
  let place ← d.follow path (names path)
  match d.entryAt? place with
  | none => return d.put place .directory
  | some _ => throw .alreadyThere

/-- Makes a directory at a path, unless there is one. -/
def ensureDirectory (path : String) : Work Unit := do
  match (← get).withDirectory path with
  | .ok d => set d
  | .error fault => if (← get).look path ≠ some .directory then throw fault

/-- Makes a directory at the first of some paths, which the others lead to. They are only made if
the way to the first one is missing. -/
def ensureDirectories : List String → Work Unit
  | [] => return ()
  | path :: above => do
    match (← get).withDirectory path with
    | .error .notFound => ensureDirectories above
    | _ => pure ()
    ensureDirectory path

/-! ## Writing -/

/-- The disk with a text written to the place of a file. -/
def writtenAt (d : Disk) (place : Place) (text : String) : Except FileFault Disk :=
  match d.entryAt? place with
  | none | some (.file _) => .ok (d.put place (.file text))
  | some .directory => .error .isDirectory
  | some .unopenable => .error .noDevice

/-- The disk with a text written to the file at a path. A slash behind the last name makes it the
name of a directory, whatever stands there. -/
def written (d : Disk) (path text : String) : Except FileFault Disk := do
  if path.endsWith "/" ∧ (names path).getLast?.any (fun name => name != "." && name != "..") then
    checked path
    let _ ← d.follow path ((names path).dropLast ++ ["."])
    throw .isDirectory
  else d.writtenAt (← d.place? path) text

/-- Writes a text to the file at a path, and makes the directories on the way to it. -/
def write (path text : String) : Work Unit := do
  ensureDirectories (Path.directories path)
  match (← get).written path text with
  | .ok d => set d
  | .error fault => throw fault

/-- Access to the files of a disk. -/
def files : Files (StateM Disk) where
  look path := return (← get).look path
  write path text := (write path text).run

end Disk

end Agenda
