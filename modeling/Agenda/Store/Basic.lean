import Agenda.Files.Basic
import Agenda.Json.Reader
import Agenda.Names

/-!
# Stores

A store keeps saved queries and a bounded history, in memory or in a file as well. Every change of a
store with a file is written through at once: the change is made in memory first, then the whole
contents are written in place of what the file held. However the write ends, the change stays in
memory. A file that cannot be opened stays as it was; once it is open its old text is gone, and a
write that then fails leaves whatever has reached the file. If only the last part fails, which is
written when the file is closed, the failure goes unnoticed.

Operations answer with their result and the store afterwards.
-/

namespace Agenda

/-! ## Contents

The saved queries by name and the history of what was run, with the text form in which a file holds
them: an object with the version, the queries and the history. -/

/-- What a store holds. -/
structure Contents where
  version : UInt32
  /-- The texts of the saved queries, by name. -/
  queries : NameMap String
  /-- The texts that were run, the oldest first. -/
  history : List String
deriving DecidableEq

namespace Contents

/-- The contents of a store that nothing has been put into. -/
def fresh : Contents := ⟨1, ∅, []⟩

/-- The names of the fields, in order. -/
def fieldNames : List String := ["version", "queries", "history"]

/-- Writes the contents. -/
def toJson (c : Contents) : Json :=
  .object [
    ("version", .num c.version.toNat),
    ("queries", .object (c.queries.entries.map fun (name, text) => (name, .text text))),
    ("history", .texts c.history)]

/-- Reads contents. -/
def ofJson? (j : Json) : Option Contents := do
  match ← j.toFields? fieldNames with
  | [version, queries, history] =>
    return {
      version := ← Json.required? Json.toWord? version
      queries := .ofList (← Json.defaulted? Json.toTexts? [] queries)
      history := ← Json.defaulted? (Json.toList? Json.toText?) [] history }
  | _ => none

/-- The text of a file with the contents. -/
def fileText (c : Contents) : String :=
  c.toJson.print

/-- The contents that the text of a file spells. -/
def ofFileText? (text : String) : Option Contents :=
  (Json.read? text).bind ofJson?

end Contents

/-! ## Files -/

/-- What can go wrong with the file of a store. -/
inductive StoreError
  /-- It cannot be opened or written. -/
  | io
  /-- It does not hold the contents of a store, or they cannot be written out to it. -/
  | malformed
deriving DecidableEq

/-- What becomes of a write. -/
inductive WriteFate
  /-- The file holds the text. -/
  | written
  /-- The file cannot be opened for it. -/
  | refused
  /-- It breaks off and leaves what has been written. -/
  | cut (left : Option Entry)
  /-- The last part is lost, unnoticed, and what has been written is left. -/
  | lost (left : Option Entry)
deriving DecidableEq

/-- The fate of writes that succeed or are refused. -/
def WriteFate.ofBool : Bool → WriteFate
  | true => written
  | false => refused

instance : Coe Bool WriteFate := ⟨.ofBool⟩

/-- The file of a store: what stands at its place, and what becomes of a write to it. -/
structure StoreFile where
  entry : Option Entry
  fate : WriteFate
deriving DecidableEq

namespace StoreFile

/-- Writes a text to the file, and says whether a failure is noticed. -/
def write (f : StoreFile) (text : String) : Except StoreError Unit × StoreFile :=
  match f.fate with
  | .written => (.ok (), { f with entry := some (.file text) })
  | .refused => (.error .io, f)
  | .cut left => (.error .malformed, { f with entry := left })
  | .lost left => (.ok (), { f with entry := left })

/-- The text of the file, if it is one. -/
def text? (f : StoreFile) : Option String :=
  match f.entry with
  | some (.file text) => some text
  | _ => none

/-- The contents that the file holds; a file that is not there holds nothing yet. -/
def contents (f : StoreFile) : Except StoreError Contents :=
  match f.entry with
  | none => .ok .fresh
  | some .unopenable => .error .io
  | some .directory => .error .malformed
  | some (.file text) =>
    match Contents.ofFileText? text with
    | some contents => .ok contents
    | none => .error .malformed

end StoreFile

/-- A store. -/
structure Store where
  contents : Contents
  /-- How many texts the history keeps; none are kept for 0. -/
  historyLimit : Nat
  /-- The file, for a store that is not only in memory. -/
  file : Option StoreFile
deriving DecidableEq

/-- The history limit of a store for which none is given. -/
def defaultHistoryLimit : Nat := 100

namespace Store

/-- An empty store without a file. -/
def inMemory (historyLimit : Nat) : Store :=
  ⟨.fresh, historyLimit, none⟩

/-- Opens the store that a file holds. -/
def openFile (file : StoreFile) (historyLimit : Nat) : Except StoreError Store :=
  file.contents.map (⟨·, historyLimit, some file⟩)

/-- Opens the store again from its file. -/
def reopen (s : Store) : Except StoreError Unit × Store :=
  match s.file with
  | none => (.ok (), s)
  | some file =>
    match openFile file s.historyLimit with
    | .ok opened => (.ok (), opened)
    | .error e => (.error e, s)

/-- Writes the contents to the file. -/
def persist (s : Store) : Except StoreError Unit × Store :=
  match s.file with
  | none => (.ok (), s)
  | some file =>
    let (result, file) := file.write s.contents.fileText
    (result, { s with file := some file })

/-- The store with other queries in memory. -/
def withQueries (s : Store) (queries : NameMap String) : Store :=
  { s with contents := { s.contents with queries } }

/-- The store with another history in memory. -/
def withHistory (s : Store) (history : List String) : Store :=
  { s with contents := { s.contents with history } }

/-- The text saved under a name. -/
def load? (s : Store) (name : String) : Option String :=
  s.contents.queries.get? name

/-- The names of the saved queries, in order. -/
def names (s : Store) : List String :=
  s.contents.queries.names

/-- Saves a text under a name. Nothing is written when it was saved there already. -/
def save (s : Store) (name text : String) : Except StoreError Unit × Store :=
  let changed := s.withQueries (s.contents.queries.insert name text)
  if s.load? name = some text then (.ok (), changed) else changed.persist

/-- Removes a saved query, and says whether there was one. -/
def remove (s : Store) (name : String) : Except StoreError Bool × Store :=
  match s.load? name with
  | none => (.ok false, s)
  | some _ =>
    match (s.withQueries (s.contents.queries.erase name)).persist with
    | (.ok (), written) => (.ok true, written)
    | (.error e, changed) => (.error e, changed)

/-- The last texts of a history, as many as the limit allows. -/
def lastEntries (limit : Nat) (history : List String) : List String :=
  history.drop (history.length - limit)

/-- Puts a text at the end of the history and drops the oldest ones beyond the limit. -/
def recordHistory (s : Store) (text : String) : Except StoreError Unit × Store :=
  if s.historyLimit = 0 then (.ok (), s)
  else (s.withHistory (lastEntries s.historyLimit (s.contents.history ++ [text]))).persist

end Store

end Agenda
