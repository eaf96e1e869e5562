import Agenda.Proofs.Outcomes
import Agenda.Proofs.Store.Reopening
import Agenda.Proofs.Store.Steps

/-!
# What an answer is worth

A store answers a change with ok or with an error, and any write to its file may be refused, be cut
short, or lose its last part unnoticed. The memory is changed before the write, and a change that
finds nothing to do in memory is answered with ok without a write. So after a write that did not
succeed, memory and file differ, and an ok may promise what only the memory holds; and a write that
is lost unnoticed is answered with ok itself.

THE CONDITION IS EXACT: an ok is broken if and only if the file does not happen to hold what was asked
for, and either the call wrote and its write was lost, or it had nothing to do in memory and the last
write before it did not succeed. As long as every write has succeeded, or one has since the last that
did not, the file holds the memory (`Tracked`), and every ok without a loss of its own can be relied
on.

Main results:
  * `step_eq` — all that a call can do to a store with a file;
  * `Tracked.step`, `Tracked.run` — what one call and a whole run keep;
  * `broken_ok_iff` — when an ok is broken;
  * `ok_not_durable` — runs that break one.
-/

namespace Agenda

/-- A change that is asked of a store. -/
inductive Change
  | save (name text : String)
  | remove (name : String)
  | record (text : String)
deriving DecidableEq

/-- A call: a change, and the fate of its write if there is one. -/
structure Call where
  change : Change
  fate : WriteFate
deriving DecidableEq

namespace Store

/-! ## §1. Calls -/

/-- Whether a change has nothing to do in memory, so that nothing is written. -/
def Idle (s : Store) : Change → Prop
  | .save name text => s.load? name = some text
  | .remove name => s.load? name = none
  | .record _ => s.historyLimit = 0

instance (s : Store) : DecidablePred s.Idle
  | .save name text => inferInstanceAs (Decidable (s.load? name = some text))
  | .remove name => inferInstanceAs (Decidable (s.load? name = none))
  | .record _ => inferInstanceAs (Decidable (s.historyLimit = 0))

/-- The store with a change made in memory only. -/
def changed (s : Store) : Change → Store
  | .save name text => s.withQueries (s.contents.queries.insert name text)
  | .remove name => s.withQueries (s.contents.queries.erase name)
  | .record text =>
    s.withHistory (lastEntries s.historyLimit (s.contents.history ++ [text]))

/-- Makes a change, and says whether it was made. -/
def perform (s : Store) : Change → Except StoreError Unit × Store
  | .save name text => s.save name text
  | .remove name => ((s.remove name).1.map fun _ => (), (s.remove name).2)
  | .record text => s.recordHistory text

/-- The store with something else at the place of its file. -/
def withEntry (s : Store) (entry : Option Entry) : Store :=
  { s with file := s.file.map ({ · with entry }) }

/-- The store whose next write has a given fate. -/
def facing (s : Store) (fate : WriteFate) : Store :=
  { s with file := s.file.map ({ · with fate }) }

/-- One call: its change, with a write that has its fate. -/
def step (s : Store) (call : Call) : Except StoreError Unit × Store :=
  (s.facing call.fate).perform call.change

/-- The store after a sequence of calls. -/
def run (s : Store) (calls : List Call) : Store :=
  calls.foldl (fun s call => (s.step call).2) s

/-- Whether the last write of a sequence of calls does not succeed, `failed` telling what happened
before. -/
def lastWriteFails (failed : Bool) (s : Store) : List Call → Bool
  | [] => failed
  | call :: rest =>
    lastWriteFails (if s.Idle call.change then failed else call.fate ≠ .written)
      (s.step call).2 rest

/-! ## §2. What a call does -/

theorem perform_eq (s : Store) (change : Change) :
    s.perform change = if s.Idle change then (.ok (), s) else (s.changed change).persist := by
  cases change with
  | save name text => exact save_eq s name text
  | remove name =>
    show ((s.remove name).1.map fun _ => (), (s.remove name).2) =
      if s.load? name = none then (.ok (), s) else (s.changed (.remove name)).persist
    rw [remove_eq]
    split
    · rfl
    · show (((s.changed (.remove name)).persist.1.map _).map _,
        (s.changed (.remove name)).persist.2) = _
      generalize (s.changed (.remove name)).persist = written
      obtain ⟨result, written⟩ := written
      cases result <;> rfl
  | record text => exact recordHistory_eq s text

variable {s : Store} {file : StoreFile}

/-- The file of a store that has made a change in memory, after a write with a given fate. -/
def fileAfter (s : Store) (file : StoreFile) (call : Call) : Except StoreError Unit × StoreFile :=
  StoreFile.write ⟨file.entry, call.fate⟩ (s.changed call.change).contents.fileText

/-- **All that a call can do to a store with a file**: nothing, or a change in memory and a write
that has its fate. -/
theorem step_eq (hfile : s.file = some file) (call : Call) :
    s.step call = if s.Idle call.change then (.ok (), s.facing call.fate)
      else ((s.fileAfter file call).1,
        { s.changed call.change with file := some (s.fileAfter file call).2 }) := by
  obtain ⟨change, fate⟩ := call
  unfold step
  rw [perform_eq]
  -- the fate of a write decides neither whether there is one nor what the memory becomes
  have hidle : (s.facing fate).Idle change ↔ s.Idle change := by cases change <;> rfl
  by_cases h : s.Idle change
  · rw [if_pos h, if_pos (hidle.2 h)]
  · rw [if_neg h, if_neg (mt hidle.1 h)]
    have hchanged : ((s.facing fate).changed change) =
        { s.changed change with file := some { file with fate } } := by
      unfold facing
      rw [hfile]
      cases change <;> rfl
    dsimp only
    rw [hchanged, persist_eq rfl]
    rfl

/-! ## §3. Memory and file -/

/-- Whether the file holds the contents. -/
def OnDisk (s : Store) (c : Contents) : Prop :=
  ∃ file, s.file = some file ∧ file.contents = .ok c

/-- What the file of a store must hold after a change: the text under its name, no text under the
name, or the text as the last one of the history. -/
def Holds (s : Store) : Change → Prop
  | .save name text => ∃ c, s.OnDisk c ∧ c.queries.get? name = some text
  | .remove name => ∃ c, s.OnDisk c ∧ c.queries.get? name = none
  | .record text => s.historyLimit = 0 ∨ ∃ c, s.OnDisk c ∧ c.history.getLast? = some text

/-- A store with a file that holds the memory, unless the last write did not succeed. -/
structure Tracked (s : Store) (failed : Bool) : Prop where
  hasFile : ∃ file, s.file = some file
  synced : failed = false → s.OnDisk s.contents

theorem Tracked.of_openFile {limit : Nat} (h : openFile file limit = .ok s) : s.Tracked false := by
  obtain ⟨contents, hcontents, rfl⟩ := map_eq_ok.1 h
  exact ⟨⟨file, rfl⟩, fun _ => ⟨file, rfl, hcontents⟩⟩

/-- A text that has been written for a store is on disk. -/
theorem onDisk_written (s : Store) (fate : WriteFate) :
    OnDisk { s with file := some ⟨some (.file s.contents.fileText), fate⟩ } s.contents :=
  ⟨_, rfl, StoreFile.contents_fileText s.contents fate⟩

/-- Facing a write does not touch the file. -/
theorem onDisk_facing {fate : WriteFate} {c : Contents} :
    (s.facing fate).OnDisk c ↔ s.OnDisk c := by
  unfold OnDisk facing
  cases hfile : s.file with
  | none => simp
  | some file => simp [StoreFile.contents]

/-- **What one call keeps.** -/
theorem Tracked.step {failed : Bool} (h : s.Tracked failed) (call : Call) :
    (s.step call).2.Tracked (if s.Idle call.change then failed else call.fate ≠ .written) := by
  obtain ⟨file, hfile⟩ := h.hasFile
  rw [step_eq hfile]
  by_cases hidle : s.Idle call.change
  · rw [if_pos hidle, if_pos hidle]
    refine ⟨⟨_, by rw [facing, hfile]; rfl⟩, fun hfailed => ?_⟩
    exact onDisk_facing.2 (h.synced hfailed)
  · rw [if_neg hidle, if_neg hidle]
    refine ⟨⟨_, rfl⟩, fun hfailed => ?_⟩
    -- after any other fate the file may hold anything, which is what the flag says
    have hwritten : call.fate = .written := by simpa using hfailed
    unfold fileAfter
    rw [hwritten]
    exact onDisk_written _ _

/-- **What a run keeps.** -/
theorem Tracked.run : ∀ {calls : List Call} {s : Store} {failed : Bool}, s.Tracked failed →
    (s.run calls).Tracked (s.lastWriteFails failed calls)
  | [], _, _, h => h
  | call :: rest, _, _, h => @Tracked.run rest _ _ (h.step call)

/-! ## §4. What an ok promises -/

theorem holds_facing {fate : WriteFate} {change : Change} :
    (s.facing fate).Holds change ↔ s.Holds change := by
  cases change with
  | save name text => simp only [Holds, onDisk_facing]
  | remove name => simp only [Holds, onDisk_facing]
  | record text =>
    simp only [Holds, onDisk_facing]
    rfl

theorem getLast?_lastEntries {limit : Nat} (h : limit ≠ 0) (history : List String)
    (text : String) : (lastEntries limit (history ++ [text])).getLast? = some text := by
  have hle : (history ++ [text]).length - limit ≤ history.length := by
    rw [List.length_append, List.length_singleton]
    omega
  unfold lastEntries
  rw [List.drop_append_of_le_length hle, List.getLast?_concat]

/-- What has been changed and written is on disk. -/
theorem holds_written (s : Store) (change : Change) (fate : WriteFate) :
    Holds { s.changed change with
      file := some ⟨some (.file (s.changed change).contents.fileText), fate⟩ } change := by
  have hdisk := onDisk_written (s.changed change) fate
  cases change with
  | save name text =>
    refine ⟨_, hdisk, ?_⟩
    show (s.contents.queries.insert name text).get? name = some text
    rw [NameMap.get?_insert, if_pos rfl]
  | remove name =>
    refine ⟨_, hdisk, ?_⟩
    show (s.contents.queries.erase name).get? name = none
    rw [NameMap.get?_erase, if_pos rfl]
  | record text =>
    by_cases hlimit : s.historyLimit = 0
    · exact .inl hlimit
    · exact .inr ⟨_, hdisk, getLast?_lastEntries hlimit _ _⟩

/-- What is left at the place of the file decides what it holds, whatever the memory is. -/
theorem holds_left (hfile : s.file = some file) (change : Change) (left : Option Entry)
    (fate : WriteFate) : Holds { s.changed change with file := some ⟨left, fate⟩ } change ↔
      (s.withEntry left).Holds change := by
  rw [← @holds_facing (s.withEntry left) fate]
  unfold facing withEntry
  rw [hfile]
  cases change <;> exact Iff.rfl

/-- A change with nothing to do in memory is on disk if the file holds the memory. -/
theorem holds_of_idle {change : Change} (hidle : s.Idle change)
    (hsynced : s.OnDisk s.contents) : s.Holds change := by
  cases change with
  | save name text => exact ⟨_, hsynced, hidle⟩
  | remove name => exact ⟨_, hsynced, hidle⟩
  | record text => exact .inl hidle

/-- Whether the write of a call is lost, and what is left does not hold what was asked for. -/
def Loses (s : Store) (call : Call) : Prop :=
  ¬ s.Idle call.change ∧ ∃ left, call.fate = .lost left ∧ ¬ (s.withEntry left).Holds call.change

/-- Whether a call has nothing to do in memory, and the file does not hold what was asked for. -/
def Skips (s : Store) (call : Call) : Prop :=
  s.Idle call.change ∧ ¬ s.Holds call.change

/-- **AN OK IS BROKEN EXACTLY BY A WRITE THAT DID NOT SUCCEED**: over a store that has just been
opened, and after any calls with any fates, a call that is answered with ok leaves a file that does
not hold what was asked for if and only if its own write was lost and what is left does not hold it,
or the last write before it did not succeed, the call had nothing to do in memory, and the file did
not hold it anyway. -/
theorem broken_ok_iff {limit : Nat} (hopen : openFile file limit = .ok s) (calls : List Call)
    (call : Call) (hok : ((s.run calls).step call).1 = .ok ()) :
    ¬ ((s.run calls).step call).2.Holds call.change ↔
      (s.run calls).Loses call ∨ (s.lastWriteFails false calls = true ∧ (s.run calls).Skips call) := by
  have htracked : (s.run calls).Tracked (s.lastWriteFails false calls) :=
    (Tracked.of_openFile hopen).run
  unfold Loses Skips
  generalize s.run calls = s' at hok htracked ⊢
  generalize s.lastWriteFails false calls = failed at htracked ⊢
  obtain ⟨file', hfile'⟩ := htracked.hasFile
  rw [step_eq hfile'] at hok ⊢
  by_cases hidle : s'.Idle call.change
  · -- nothing is written, so the file holds what it held
    rw [if_pos hidle, holds_facing, or_iff_right fun h => h.1 hidle, and_iff_right hidle]
    constructor
    · intro hbroken
      refine ⟨?_, hbroken⟩
      cases hfailed : failed with
      | true => rfl
      | false => exact absurd (holds_of_idle hidle (htracked.synced hfailed)) hbroken
    · exact fun h => h.2
  · -- something is written, and an ok means that the write has succeeded or was lost
    rw [if_neg hidle] at hok ⊢
    rw [or_iff_left fun h => hidle h.2.1, and_iff_right hidle]
    unfold fileAfter at hok ⊢
    cases hfate : call.fate with
    | written =>
      refine ⟨fun hbroken => absurd (holds_written s' call.change .written) hbroken, ?_⟩
      rintro ⟨left, hleft, -⟩
      cases hleft
    | refused =>
      rw [hfate] at hok
      cases hok
    | cut left =>
      rw [hfate] at hok
      cases hok
    | lost left =>
      show ¬ Holds { s'.changed call.change with file := some ⟨left, .lost left⟩ } call.change ↔ _
      rw [holds_left hfile']
      constructor
      · exact fun hbroken => ⟨left, rfl, hbroken⟩
      · rintro ⟨left', hleft, hbroken⟩
        obtain rfl := WriteFate.lost.inj hleft
        exact hbroken

/-- The condition for a query that is saved twice, the first time without success, and for one whose
write is lost. -/
theorem broken_ok_iff_twice :
    let s : Store := ⟨.fresh, 100, some ⟨none, true⟩⟩
    let calls : List Call := [⟨.save "a" "tasks", .refused⟩]
    ∀ call ∈ [(⟨.save "a" "tasks", .written⟩ : Call),
        ⟨.save "b" "projects", .lost (some (.file ""))⟩],
      ¬ ((s.run calls).step call).2.Holds call.change ↔ (s.run calls).Loses call ∨
        (s.lastWriteFails false calls = true ∧ (s.run calls).Skips call) := by
  intro s calls call hcall
  have hok : ((s.run calls).step call).1 = .ok () := by
    rcases List.mem_pair.1 hcall with rfl | rfl <;> rfl
  exact @broken_ok_iff s ⟨none, true⟩ 100 rfl calls call hok

/-- A new store refuses to write a query, and accepts the same query afterwards without writing it; or
it accepts a query of which nothing reaches the file. -/
theorem ok_not_durable :
    let s : Store := ⟨.fresh, 100, some ⟨none, true⟩⟩
    let first : Call := ⟨.save "a" "tasks", .refused⟩
    let again : Call := ⟨.save "a" "tasks", .written⟩
    let lost : Call := ⟨.save "a" "tasks", .lost (some (.file ""))⟩
    openFile ⟨none, true⟩ 100 = .ok s ∧ (s.step first).1 = .error .io ∧
      (((s.run [first]).step again).1 = .ok () ∧
        ¬ ∃ c, ((s.run [first]).step again).2.OnDisk c ∧ c.queries.get? "a" = some "tasks") ∧
      ((s.step lost).1 = .ok () ∧
        ¬ ∃ c, (s.step lost).2.OnDisk c ∧ c.queries.get? "a" = some "tasks") := by
  refine ⟨rfl, rfl, ⟨rfl, ?_⟩, rfl, ?_⟩
  · rintro ⟨c, ⟨file, hfile, hc⟩, hsaved⟩
    obtain rfl : (⟨none, true⟩ : StoreFile) = file := Option.some.inj hfile
    obtain rfl : Contents.fresh = c := Except.ok.inj hc
    cases hsaved
  · rintro ⟨c, ⟨file, hfile, hc⟩, -⟩
    -- an empty file does not hold the contents of a store
    obtain rfl : (⟨some (.file ""), .lost (some (.file ""))⟩ : StoreFile) = file :=
      Option.some.inj hfile
    cases hc

end Store

end Agenda
