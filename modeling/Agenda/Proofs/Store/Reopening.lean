import Agenda.Proofs.Json.Decoding
import Agenda.Proofs.Names
import Agenda.Proofs.Outcomes
import Agenda.Proofs.Store.Steps

/-!
# Opening a store again

What a store writes is the whole of its contents, and a file that has been written opens as a store
with these contents. As long as no write fails, the file therefore holds the memory at all times: a
store has just been opened from it, or has just written it, or has changed nothing since
(`Store.Synced`). Opening such a store once more gives back the store itself.

Main results:
  * `Contents.ofFileText?_fileText` — written contents are read back;
  * `Store.written_contents_open` — a file that has been written opens with the same contents;
  * `Store.Synced.save`, `Store.Synced.remove`, `Store.Synced.recordHistory` — what one call keeps;
  * `Store.Synced.reopen` — a store that is opened again is the same store.
-/

namespace Agenda

/-! ## What a file holds

The text that is written for the contents of a store is read back as the same contents, whatever the
names and texts are: their fields are told apart by their names, and the saved queries come back in
one piece because a map is rebuilt from its entries. -/

namespace Contents

open Json

theorem toJson_plain (c : Contents) : c.toJson.Plain := by
  have htext : ∀ s, (text s).Plain := fun _ => trivial
  exact ⟨trivial, plainMembers_map htext _, plainItems_map htext _, trivial⟩

theorem ofJson?_toJson (c : Contents) : ofJson? c.toJson = some c := by
  have hfields : c.toJson.toFields? fieldNames =
      some [some (num c.version.toNat),
        some (object (c.queries.entries.map (Prod.map id text))),
        some (texts c.history)] := rfl
  have hversion : toWord? (num c.version.toNat) = some c.version := toWord?_toNat c.version
  have hqueries : toTexts? (object (c.queries.entries.map (Prod.map id text))) =
      some c.queries.entries := toTexts?_texts c.queries.entries
  have hhistory : toList? toText? (texts c.history) = some c.history := toList?_texts c.history
  -- the three fields are decoded one after the other
  unfold ofJson?
  rw [hfields, Option.bind_eq_bind, Option.bind_some]
  simp only [required?_some, hversion, defaulted?_some, hqueries, hhistory,
    Option.bind_eq_bind, Option.bind_some, NameMap.ofList_entries]
  rfl

/-- **Written contents are read back.** -/
theorem ofFileText?_fileText (c : Contents) : ofFileText? c.fileText = some c := by
  have hread : read? c.fileText = some c.toJson := read?_print c.toJson_plain
  unfold ofFileText?
  rw [hread, Option.bind_some, ofJson?_toJson]

end Contents

/-- A file with written contents holds them. -/
theorem StoreFile.contents_fileText (c : Contents) (fate : WriteFate) :
    StoreFile.contents ⟨some (.file c.fileText), fate⟩ = .ok c := by
  unfold StoreFile.contents
  dsimp only
  rw [Contents.ofFileText?_fileText]

/-! ## Opening -/

/-- Whether writes to the file succeed. -/
def StoreFile.writable (f : StoreFile) : Bool :=
  decide (f.fate = .written)

namespace Store

variable {s : Store}

/-- **WRITTEN CONTENTS OPEN**: whatever a store holds, and whatever stood at the place of its file,
a write that succeeds leaves the text of its contents there, and opening the file, with any history
limit, gives a store with the same version, queries and history. -/
theorem written_contents_open (c : Contents) (limit limit' : Nat) (entry : Option Entry) :
    ∃ written : StoreFile,
      Store.persist ⟨c, limit, some ⟨entry, true⟩⟩ = (.ok (), ⟨c, limit, some written⟩) ∧
      written.text? = some c.fileText ∧
      openFile written limit' = .ok ⟨c, limit', some written⟩ := by
  have hopen : openFile ⟨some (.file c.fileText), true⟩ limit' =
      .ok ⟨c, limit', some ⟨some (.file c.fileText), true⟩⟩ := by
    unfold openFile
    rw [StoreFile.contents_fileText]
    rfl
  exact ⟨⟨some (.file c.fileText), true⟩, rfl, rfl, hopen⟩

/-! ### The file holds the memory -/

/-- Whether the file of a store takes every write and holds the memory. -/
def Synced (s : Store) : Prop :=
  ∃ file, s.file = some file ∧ file.writable = true ∧ file.contents = .ok s.contents

theorem Synced.of_openFile {file : StoreFile} {limit : Nat} (hwritable : file.writable = true)
    (h : openFile file limit = .ok s) : s.Synced := by
  obtain ⟨contents, hcontents, rfl⟩ := map_eq_ok.1 h
  exact ⟨file, rfl, hwritable, hcontents⟩

/-- A change in memory is in the file as well once it has been written. -/
theorem Synced.persist {changed : Store} (h : s.Synced) (hfile : changed.file = s.file) :
    changed.persist.2.Synced := by
  -- whatever the file held, it now holds what is written
  obtain ⟨⟨entry, fate⟩, hs, hwritable, _⟩ := h
  obtain rfl : fate = .written := of_decide_eq_true hwritable
  rw [persist_eq (hfile.trans hs)]
  exact ⟨_, rfl, rfl, StoreFile.contents_fileText changed.contents .written⟩

theorem Synced.save (h : s.Synced) (name text : String) : (s.save name text).2.Synced := by
  rw [save_eq]
  split
  · exact h
  · exact h.persist rfl

theorem Synced.remove (h : s.Synced) (name : String) : (s.remove name).2.Synced := by
  rw [remove_eq]
  split
  · exact h
  · exact h.persist rfl

theorem Synced.recordHistory (h : s.Synced) (text : String) : (s.recordHistory text).2.Synced := by
  rw [recordHistory_eq]
  split
  · exact h
  · exact h.persist rfl

/-- **A store that is opened again is the same store.** -/
theorem Synced.reopen (h : s.Synced) : s.reopen = (.ok (), s) := by
  obtain ⟨file, hfile, _, hcontents⟩ := h
  have hopen : openFile file s.historyLimit = .ok ⟨s.contents, s.historyLimit, some file⟩ := by
    unfold openFile
    rw [hcontents]
    rfl
  unfold Store.reopen
  rw [hfile]
  dsimp only
  rw [hopen, ← hfile]

end Store

end Agenda
