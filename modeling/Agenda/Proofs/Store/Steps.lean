import Agenda.Proofs.Names
import Agenda.Store.Basic

/-!
# What each operation does to a store

Every operation of a store changes the memory first and then writes the file, unless there is
nothing to change. What it does to the memory does not depend on what becomes of the write.

Main results:
  * `save_eq`, `remove_eq`, `recordHistory_eq` — an operation does nothing, or changes the memory and
    writes;
  * `queries_save`, `queries_recordHistory` — the saved queries after an operation, written or not;
  * `persist_eq` — the file after a write;
  * `fst_recordHistory_eq_ok` — when recording a text is answered with ok;
  * `recordHistory_again`, `fst_recordHistory` — then any text is, at the same time or next.
-/

namespace Agenda

/-! ## §1. Memory and file -/

namespace StoreFile

variable {f : StoreFile} {text : String}

/-- What becomes of a write becomes of the next one as well. -/
@[simp] theorem fate_write : (f.write text).2.fate = f.fate := by
  unfold write
  split <;> rfl

/-- Whether a write to the file is answered with ok: it succeeds, or its failure goes unnoticed. -/
def Answers (f : StoreFile) : Prop :=
  f.fate = .written ∨ ∃ left, f.fate = .lost left

theorem fst_write_eq_ok : (f.write text).1 = .ok () ↔ f.Answers := by
  unfold write Answers
  cases hfate : f.fate <;> simp

theorem Answers.write (h : f.Answers) (text : String) : (f.write text).2.Answers := by
  unfold Answers
  rw [fate_write]
  exact h

end StoreFile

namespace Store

variable {s : Store}

@[simp] theorem contents_persist (s : Store) : s.persist.2.contents = s.contents := by
  unfold persist
  split <;> rfl

@[simp] theorem historyLimit_persist (s : Store) : s.persist.2.historyLimit = s.historyLimit := by
  unfold persist
  split <;> rfl

/-- A write leaves the memory as it is. -/
theorem persist_eq {file : StoreFile} (hfile : s.file = some file) :
    s.persist = ((file.write s.contents.fileText).1,
      { s with file := some (file.write s.contents.fileText).2 }) := by
  unfold persist
  rw [hfile]

/-- Whether writes to the file of a store, if it has one, are answered with ok. -/
def AnswersWrites (s : Store) : Prop :=
  ∀ file, s.file = some file → file.Answers

theorem fst_persist_eq_ok : s.persist.1 = .ok () ↔ s.AnswersWrites := by
  unfold AnswersWrites
  cases hfile : s.file with
  | none =>
    unfold persist
    rw [hfile]
    exact ⟨fun _ => nofun, fun _ => rfl⟩
  | some file =>
    rw [persist_eq hfile]
    dsimp only
    rw [StoreFile.fst_write_eq_ok]
    simp

/-- How a write is answered depends on the file only. -/
theorem fst_persist_congr {s' : Store} (h : s.file = s'.file) : s.persist.1 = s'.persist.1 := by
  cases hfile : s'.file with
  | none =>
    unfold persist
    rw [h, hfile]
  | some file =>
    rw [persist_eq hfile, persist_eq (h.trans hfile)]
    unfold StoreFile.write
    cases file.fate <;> rfl

theorem AnswersWrites.persist (h : s.AnswersWrites) : s.persist.2.AnswersWrites := by
  cases hfile : s.file with
  | none =>
    unfold Store.persist
    rw [hfile]
    exact h
  | some file =>
    rw [persist_eq hfile]
    intro written hwritten
    obtain rfl := Option.some.inj hwritten
    exact (h file hfile).write _

/-! ## §2. Operations -/

/-- A text that is saved under the name already is not written again. -/
theorem save_eq (s : Store) (name text : String) :
    s.save name text = if s.load? name = some text then (.ok (), s)
      else (s.withQueries (s.contents.queries.insert name text)).persist := by
  unfold save
  dsimp only
  split
  next h =>
    have hinsert : s.contents.queries.insert name text = s.contents.queries :=
      NameMap.insert_eq_self h
    rw [hinsert]
    rfl
  next => rfl

/-- A name under which nothing is saved is not written about. -/
theorem remove_eq (s : Store) (name : String) :
    s.remove name = if s.load? name = none then (.ok false, s)
      else ((s.withQueries (s.contents.queries.erase name)).persist.1.map fun _ => true,
        (s.withQueries (s.contents.queries.erase name)).persist.2) := by
  unfold remove
  split
  next h => rw [if_pos h]
  next text h =>
    rw [if_neg (by simp [h])]
    split
    next hwritten => rw [hwritten]; rfl
    next hfailed => rw [hfailed]; rfl

theorem recordHistory_eq (s : Store) (text : String) :
    s.recordHistory text = if s.historyLimit = 0 then (.ok (), s)
      else (s.withHistory (lastEntries s.historyLimit (s.contents.history ++ [text]))).persist :=
  rfl

@[simp] theorem queries_save (s : Store) (name text : String) :
    (s.save name text).2.contents.queries = s.contents.queries.insert name text := by
  rw [save_eq]
  split
  next h => rw [NameMap.insert_eq_self h]
  next => rw [contents_persist, withQueries]

@[simp] theorem load?_save (s : Store) (name text a : String) :
    (s.save name text).2.load? a = if a = name then some text else s.load? a := by
  unfold load?
  rw [queries_save, NameMap.get?_insert]

@[simp] theorem history_save (s : Store) (name text : String) :
    (s.save name text).2.contents.history = s.contents.history := by
  rw [save_eq]
  split
  · rfl
  · rw [contents_persist, withQueries]

@[simp] theorem historyLimit_save (s : Store) (name text : String) :
    (s.save name text).2.historyLimit = s.historyLimit := by
  rw [save_eq]
  split
  · rfl
  · rw [historyLimit_persist, withQueries]

@[simp] theorem history_remove (s : Store) (name : String) :
    (s.remove name).2.contents.history = s.contents.history := by
  rw [remove_eq]
  split
  · rfl
  · rw [contents_persist, withQueries]

@[simp] theorem historyLimit_remove (s : Store) (name : String) :
    (s.remove name).2.historyLimit = s.historyLimit := by
  rw [remove_eq]
  split
  · rfl
  · rw [historyLimit_persist, withQueries]

@[simp] theorem queries_recordHistory (s : Store) (text : String) :
    (s.recordHistory text).2.contents.queries = s.contents.queries := by
  rw [recordHistory_eq]
  split
  · rfl
  · rw [contents_persist, withHistory]

@[simp] theorem load?_recordHistory (s : Store) (text a : String) :
    (s.recordHistory text).2.load? a = s.load? a := by
  unfold load?
  rw [queries_recordHistory]

@[simp] theorem historyLimit_recordHistory (s : Store) (text : String) :
    (s.recordHistory text).2.historyLimit = s.historyLimit := by
  rw [recordHistory_eq]
  split
  · rfl
  · rw [historyLimit_persist, withHistory]

/-- Recording a text is answered with ok exactly if nothing needs to be written for it or the write is
answered with ok. -/
theorem fst_recordHistory_eq_ok {text : String} :
    (s.recordHistory text).1 = .ok () ↔ s.historyLimit = 0 ∨ s.AnswersWrites := by
  rw [recordHistory_eq]
  by_cases hlimit : s.historyLimit = 0
  · simp [hlimit]
  · rw [if_neg hlimit, fst_persist_eq_ok, or_iff_right hlimit]
    exact Iff.rfl

/-- A store that has answered with ok when a text was recorded does so for any other one next. -/
theorem recordHistory_again {text : String} (h : (s.recordHistory text).1 = .ok ())
    (text' : String) : ((s.recordHistory text).2.recordHistory text').1 = .ok () := by
  rw [fst_recordHistory_eq_ok] at h ⊢
  rw [historyLimit_recordHistory]
  rcases h with hlimit | hwrites
  · exact .inl hlimit
  · refine .inr ?_
    rw [recordHistory_eq]
    split
    · exact hwrites
    · exact AnswersWrites.persist hwrites

/-- How recording is answered does not depend on the text. -/
theorem fst_recordHistory (s : Store) (text text' : String) :
    (s.recordHistory text).1 = (s.recordHistory text').1 := by
  rw [recordHistory_eq, recordHistory_eq]
  split
  · rfl
  · exact fst_persist_congr rfl

end Store

end Agenda
