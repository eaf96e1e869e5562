import Agenda.Proofs.Calendar.DateText
import Agenda.Proofs.Json.Decoding
import Agenda.Proofs.Names
import Agenda.Proofs.Outcomes
import Agenda.Record.Load

/-!
# Written records read back

Every record is written with all of its fields, and each field is read back as it was: the level of a
priority is in range because a priority has no other, a status is written by the name it is read from,
a date is read back from its text whatever its year, a field that may be absent is `null` and nothing
else is, and a set of tags is rebuilt from the increasing list of its members.

READING TAKES MORE THAN WRITING GIVES: fields may be left out or stand in any order, a record may be a
list of its fields, and dates need no padding. But what has been read is a record like any other, and
of its origin nothing is left: once it has been written, it is read back as it is.

Main results:
  * `Task.ofJson?_toJson`, `Project.ofJson?_toJson`, `TimeLog.ofJson?_toJson` — one record;
  * `Records.read?_fileText` — the text of a file spells its records;
  * `Records.loadList_of_rewritten` — one file, written or left as it is;
  * `records_round_trip` — all three.
-/

namespace Agenda

open Json (orNull? toList? toText? toWord? toChoice?)

/-! ## §1. Fields -/

theorem NameSet.ofList_toList (s : NameSet) : ofList s.toList = s :=
  eq_of_mem_iff fun _ => mem_ofList

theorem toWord?_wordJson (w : UInt32) : toWord? (wordJson w) = some w :=
  Json.toWord?_toNat w

theorem Priority.ofJson?_toJson (p : Priority) : ofJson? p.toJson = some p := by
  have hlevel : p.level < UInt32.size := by
    have hrange := p.level_range
    show p.level < 4294967296
    omega
  have hword : toWord? p.toJson = some (UInt32.ofNat p.level) := Json.toWord?_ofNat hlevel
  unfold ofJson?
  rw [hword, Option.bind_some, UInt32.toNat_ofNat_of_lt' hlevel]
  exact dif_pos p.level_range

theorem Date.ofJson?_toJson (d : Date) : ofJson? d.toJson = some d :=
  DateForm.read?_text .spaced d

theorem TaskStatus.ofName?_name (s : TaskStatus) : ofName? s.name = some s := by
  cases s <;> rfl

theorem ProjectStatus.ofName?_name (s : ProjectStatus) : ofName? s.name = some s := by
  cases s <;> rfl

/-! ## §2. Records -/

namespace Task

theorem toJson_plain (t : Task) : t.toJson.Plain := by
  have hdate : ∀ d : Date, d.toJson.Plain := fun _ => trivial
  have htext : ∀ s, (Json.text s).Plain := fun _ => trivial
  exact ⟨trivial, trivial, trivial, trivial, Json.plain_ofOption hdate t.due, trivial,
    Json.plainItems_map htext t.tags.toList, trivial⟩

/-- **A task is read back as it was written.** -/
theorem ofJson?_toJson (t : Task) : ofJson? t.toJson = some t := by
  have hfields : t.toJson.toFields? fieldNames =
      some [some (wordJson t.id), some (.text t.text), some (.text t.project),
        some t.priority.toJson, some (.ofOption Date.toJson t.due), some (.text t.status.name),
        some (.texts t.tags.toList)] := Json.toFields?_object rfl (by decide +kernel)
  have htext : ∀ s, toText? (.text s) = some s := fun _ => rfl
  have hdue : orNull? Date.ofJson? (.ofOption Date.toJson t.due) = some t.due :=
    Json.orNull?_ofOption Date.ofJson?_toJson (fun _ => nofun) t.due
  have hstatus : toChoice? TaskStatus.ofName? (.text t.status.name) = some t.status :=
    t.status.ofName?_name
  have htags : toList? toText? (.texts t.tags.toList) = some t.tags.toList := Json.toList?_texts _
  -- the fields are decoded one after the other
  unfold ofJson?
  rw [hfields, Option.bind_eq_bind, Option.bind_some]
  simp only [Json.required?_some, Json.defaulted?_some, toWord?_wordJson, htext,
    Priority.ofJson?_toJson, hdue, hstatus, htags, Option.bind_eq_bind, Option.bind_some,
    NameSet.ofList_toList]
  rfl

end Task

namespace Project

theorem toJson_plain (p : Project) : p.toJson.Plain := by
  have htext : ∀ s, (Json.text s).Plain := fun _ => trivial
  exact ⟨trivial, Json.plain_ofOption htext p.description, trivial, trivial⟩

/-- **A project is read back as it was written.** -/
theorem ofJson?_toJson (p : Project) : ofJson? p.toJson = some p := by
  have hfields : p.toJson.toFields? fieldNames =
      some [some (.text p.name), some (.ofOption .text p.description),
        some (.text p.status.name)] := Json.toFields?_object rfl (by decide +kernel)
  have htext : ∀ s, toText? (.text s) = some s := fun _ => rfl
  have hnull : ∀ s, Json.text s ≠ .null := fun _ => nofun
  have hdescription : orNull? toText? (.ofOption .text p.description) = some p.description :=
    Json.orNull?_ofOption htext hnull p.description
  have hstatus : toChoice? ProjectStatus.ofName? (.text p.status.name) = some p.status :=
    p.status.ofName?_name
  unfold ofJson?
  rw [hfields, Option.bind_eq_bind, Option.bind_some]
  simp only [Json.required?_some, Json.defaulted?_some, htext, hdescription, hstatus,
    Option.bind_eq_bind, Option.bind_some]
  rfl

end Project

namespace TimeLog

theorem toJson_plain (l : TimeLog) : l.toJson.Plain := by
  have hword : ∀ w, (wordJson w).Plain := fun _ => trivial
  have htext : ∀ s, (Json.text s).Plain := fun _ => trivial
  exact ⟨trivial, trivial, Json.plain_ofOption hword l.taskId, trivial, trivial,
    Json.plain_ofOption htext l.note, trivial⟩

/-- **A time log is read back as it was written.** -/
theorem ofJson?_toJson (l : TimeLog) : ofJson? l.toJson = some l := by
  have hfields : l.toJson.toFields? fieldNames =
      some [some (wordJson l.id), some (.text l.project), some (.ofOption wordJson l.taskId),
        some l.date.toJson, some (wordJson l.minutes), some (.ofOption .text l.note)] :=
    Json.toFields?_object rfl (by decide +kernel)
  have htext : ∀ s, toText? (.text s) = some s := fun _ => rfl
  have hnull : ∀ s, Json.text s ≠ .null := fun _ => nofun
  have htask : orNull? toWord? (.ofOption wordJson l.taskId) = some l.taskId :=
    Json.orNull?_ofOption toWord?_wordJson (fun _ => nofun) l.taskId
  have hnote : orNull? toText? (.ofOption .text l.note) = some l.note :=
    Json.orNull?_ofOption htext hnull l.note
  unfold ofJson?
  rw [hfields, Option.bind_eq_bind, Option.bind_some]
  simp only [Json.required?_some, Json.defaulted?_some, toWord?_wordJson, htext, htask,
    Date.ofJson?_toJson, hnote, Option.bind_eq_bind, Option.bind_some]
  rfl

end TimeLog

/-! ## §3. Files -/

namespace Records

/-- The records of a domain as one value. -/
def toJson (records : Records) : Domain → Json
  | .task => .list (records.tasks.map Task.toJson)
  | .project => .list (records.projects.map Project.toJson)
  | .timeLog => .list (records.timeLogs.map TimeLog.toJson)

/-- The text that is written for the records of a domain. -/
def textOf (records : Records) : Domain → String
  | .task => fileText Task.toJson records.tasks
  | .project => fileText Project.toJson records.projects
  | .timeLog => fileText TimeLog.toJson records.timeLogs

section

variable {α : Type} {encode : α → Json} {decode : Json → Option α} {domain : Domain}
  {records : List α} {entry entry' : Option Entry}

/-- The text of a file spells its records. -/
theorem read?_fileText (hplain : ∀ a, (encode a).Plain) (records : List α) :
    Json.read? (fileText encode records) = some (.list (records.map encode)) :=
  Json.read?_print (Json.plainItems_map hplain records)

/-- Any text that spells records is read as these records, however it is laid out. -/
theorem loadList_of_read? (hdecode : ∀ a, decode (encode a) = some a) {text : String}
    (h : Json.read? text = some (.list (records.map encode))) :
    loadList decode domain (some (.file text)) = .ok records := by
  unfold loadList
  dsimp only
  rw [h, Option.bind_some, Json.toList?_map hdecode]

/-- **One file**, with the records that have been read from it written in place of what it held. -/
theorem loadList_of_rewritten (hdecode : ∀ a, decode (encode a) = some a)
    (hload : loadList decode domain entry = .ok records)
    (h : entry' = entry ∨ ∃ text, entry' = some (.file text) ∧
      Json.read? text = some (.list (records.map encode))) :
    loadList decode domain entry' = .ok records := by
  rcases h with h | ⟨text, h, hread⟩
  · rw [h, hload]
  · rw [h, loadList_of_read? hdecode hread]

end

/-- Each file spells its records. -/
theorem read?_textOf (records : Records) (domain : Domain) :
    Json.read? (records.textOf domain) = some (records.toJson domain) := by
  cases domain with
  | task => exact read?_fileText Task.toJson_plain records.tasks
  | project => exact read?_fileText Project.toJson_plain records.projects
  | timeLog => exact read?_fileText TimeLog.toJson_plain records.timeLogs

theorem load_eq_ok {entry : Domain → Option Entry} {records : Records} :
    load entry = .ok records ↔
      loadList Task.ofJson? .task (entry .task) = .ok records.tasks ∧
      loadList Project.ofJson? .project (entry .project) = .ok records.projects ∧
      loadList TimeLog.ofJson? .timeLog (entry .timeLog) = .ok records.timeLogs := by
  unfold load
  rw [bind_eq_ok]
  constructor
  · rintro ⟨tasks, htasks, h⟩
    obtain ⟨projects, hprojects, h⟩ := bind_eq_ok.1 h
    obtain ⟨timeLogs, htimeLogs, h⟩ := bind_eq_ok.1 h
    obtain rfl := Except.ok.inj h
    exact ⟨htasks, hprojects, htimeLogs⟩
  · intro h
    exact ⟨_, h.1, bind_eq_ok.2 ⟨_, h.2.1, bind_eq_ok.2 ⟨_, h.2.2, rfl⟩⟩⟩

/-- **Files that spell records load as these records.** -/
theorem load_of_read? {records : Records} {text : Domain → String}
    (h : ∀ domain, Json.read? (text domain) = some (records.toJson domain)) :
    load (fun domain => some (.file (text domain))) = .ok records := by
  rw [load_eq_ok]
  exact ⟨loadList_of_read? Task.ofJson?_toJson (h .task),
    loadList_of_read? Project.ofJson?_toJson (h .project),
    loadList_of_read? TimeLog.ofJson?_toJson (h .timeLog)⟩

end Records

/-- **RECORDS ARE READ BACK AS THEY WERE WRITTEN.** For any records, the text that is written for each
collection spells its records, and the three files with these texts, or with any other texts that
spell the records, load as the same collections in the same order. And where files have been loaded,
whatever their texts, any of them can be written anew with the records that were read from it: the
directory then loads as the same records. -/
theorem records_round_trip :
    (∀ records : Records,
      (∀ domain, Json.read? (records.textOf domain) = some (records.toJson domain)) ∧
      Records.load (fun domain => some (.file (records.textOf domain))) = .ok records ∧
      ∀ text : Domain → String,
        (∀ domain, Json.read? (text domain) = some (records.toJson domain)) →
        Records.load (fun domain => some (.file (text domain))) = .ok records) ∧
    ∀ (entry entry' : Domain → Option Entry) (records : Records),
      Records.load entry = .ok records →
      (∀ domain, entry' domain = entry domain ∨ ∃ text, entry' domain = some (.file text) ∧
        Json.read? text = some (records.toJson domain)) →
      Records.load entry' = .ok records := by
  refine ⟨?written, ?rewritten⟩
  case written =>
    intro records
    exact ⟨Records.read?_textOf records,
      Records.load_of_read? (Records.read?_textOf records),
      fun _ hread => Records.load_of_read? hread⟩
  case rewritten =>
    intro entry entry' records hload h
    rw [Records.load_eq_ok] at hload ⊢
    exact ⟨Records.loadList_of_rewritten Task.ofJson?_toJson hload.1 (h .task),
      Records.loadList_of_rewritten Project.ofJson?_toJson hload.2.1 (h .project),
      Records.loadList_of_rewritten TimeLog.ofJson?_toJson hload.2.2 (h .timeLog)⟩

/-- A task as a list of its first fields, a time log with a number that is not padded and a member
that means nothing, and no projects: all of it is written in full and read back. -/
theorem records_round_trip_uncanonical :
    let tasks := "[[7, \"Caf\\u00e9\", \"home\", 3, \" -7-3-05\", \x7b\"done\": null\x7d]]"
    let timeLogs := "[\x7b\"minutes\": 4294967295, \"more\": [], \"id\": 0, \"project\": \"\", " ++
      "\"date\": \"+12345-1-1\"\x7d]"
    let entry : Domain → Option Entry
      | .task => some (.file tasks)
      | .project => none
      | .timeLog => some (.file timeLogs)
    let due : Date := ⟨-7, 3, 5, by decide, by decide, by decide⟩
    let date : Date := ⟨12345, 1, 1, by decide, by decide, by decide⟩
    let records : Records :=
      { tasks := [⟨7, "Café", "home", ⟨3, by decide⟩, some due, .done, ∅⟩]
        projects := []
        timeLogs := [⟨0, "", none, date, 4294967295, none⟩] }
    Records.load entry = .ok records ∧
      Records.load (fun domain => some (.file (records.textOf domain))) = .ok records := by
  intro tasks timeLogs entry due date records
  have hload : Records.load entry = .ok records := by decide +kernel +revert
  have hwritten := records_round_trip.1 records
  exact ⟨hload, records_round_trip.2 entry _ records hload fun domain =>
    .inr ⟨_, rfl, hwritten.1 domain⟩⟩

end Agenda
