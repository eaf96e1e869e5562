import Agenda.Evaluation.Evaluate
import Agenda.Proofs.Outcomes
import Agenda.Proofs.Text.Lowering

/-!
# Searching for what is there

A search brings the term and the text to lower case, each by itself, and looks for the one in the
other. A term that is copied out of a text should therefore be found in that text, and nearly always
is. The exception is a capital sigma at an end of the term: whether it becomes a final sigma depends
on what stands around it, and the term has lost what stood around it in the text.

Main results:
  * `verbatim_found_iff` — which occurrences, and which terms, are found;
  * `verbatim_missed` — a term that is there and is not found, in every kind of record.
-/

namespace Agenda

/-- The texts of a record in which a search looks for its term. -/
def Record.searched : Record → List String
  | .task t => [t.text]
  | .project p => p.name :: p.description.toList
  | .timeLog l => l.note.toList

/-- A search finds the term in one of the texts. -/
theorem Clause.holds_text (term : String) (record : Record) (ctx : Context) :
    (Clause.text term).holds record ctx = .ok (record.searched.any (Text.mentions · term)) := by
  cases record with
  | task t => simp [holds, holdsForTask, Record.searched]
  | project p =>
    cases hdescription : p.description <;>
      simp [holds, holdsForProject, Record.searched, hdescription]
  | timeLog l =>
    cases hnote : l.note <;> simp [holds, holdsForTimeLog, Record.searched, hnote]

theorem Clause.holds_text_of_mentions {term text : String} {record : Record}
    (htext : text ∈ record.searched) (h : Text.mentions text term = true) (ctx : Context) :
    (Clause.text term).holds record ctx = .ok true := by
  have hany : record.searched.any (Text.mentions · term) = true :=
    List.any_eq_true.2 ⟨text, htext, h⟩
  rw [holds_text, hany]

/-- **WHAT IS FOUND VERBATIM**: a search finds every occurrence of its term in a text of a task, a
project or a time log at which the capital sigmas of the term end words in the text exactly where they
do in the term alone; and the terms that are found wherever they occur are those whose capital sigmas
no context reaches, among them all terms without one. -/
theorem verbatim_found_iff (term : String) :
    (∀ (record : Record) (ctx : Context) (before after : String),
      before ++ term ++ after ∈ record.searched →
      Text.SigmasAgree before.toList term.toList after.toList →
      (Clause.text term).holds record ctx = .ok true) ∧
    ((∀ (record : Record) (ctx : Context) (before after : String),
      before ++ term ++ after ∈ record.searched →
      (Clause.text term).holds record ctx = .ok true) ↔
        Text.SigmasSettled term.toList) := by
  have hagree : ∀ (record : Record) (ctx : Context) (before after : String),
      before ++ term ++ after ∈ record.searched →
      Text.SigmasAgree before.toList term.toList after.toList →
      (Clause.text term).holds record ctx = .ok true :=
    fun record ctx before after htext h =>
      Clause.holds_text_of_mentions htext (Text.mentions_of_sigmasAgree h) ctx
  refine ⟨hagree, fun hall => ?_, fun hsettled record ctx before after htext => ?_⟩
  · rw [← Text.mentions_iff_sigmasSettled]
    intro before after
    -- the search in a task with this text and no other
    have hholds := hall (.task (.new 0 (before ++ term ++ after) ""))
      ⟨⟨2024, 3, 13, by decide, by decide, by decide⟩, .nextYear⟩ before after List.mem_cons_self
    rw [Clause.holds_text] at hholds
    simpa [Record.searched, Task.new] using hholds
  · exact hagree record ctx before after htext (hsettled.agree _ _)

/-- A word that ends with a sigma is found where it ends a word, before a mark that is looked through
and a blank. -/
theorem verbatim_found_iff_word_end :
    let task : Task := .new 1 "Η ΟΔΟΣ. 5" "home"
    let ctx : Context := ⟨⟨2024, 3, 13, by decide, by decide, by decide⟩, .nextYear⟩
    "Η " ++ "ΟΔΟΣ" ++ ". 5" ∈ (Record.task task).searched ∧
    Text.SigmasAgree "Η ".toList "ΟΔΟΣ".toList ". 5".toList ∧
    (Clause.text "ΟΔΟΣ").holds (.task task) ctx = .ok true := by
  intro task ctx
  have htext : "Η " ++ "ΟΔΟΣ" ++ ". 5" ∈ (Record.task task).searched := by decide +kernel
  have hagree : Text.SigmasAgree "Η ".toList "ΟΔΟΣ".toList ". 5".toList := by
    unfold Text.SigmasAgree
    simp [Text.atSigmas_cons]
    decide +kernel
  exact ⟨htext, hagree, (verbatim_found_iff "ΟΔΟΣ").1 _ ctx _ _ htext hagree⟩

/-- **A TERM THAT IS THERE AND IS NOT FOUND**: `ΑΣ` stands at the start of `ΑΣΑ`, but its sigma ends a
word only in the term, so that neither a task, nor a project by its name or its description, nor a
time log with this text is found. -/
theorem verbatim_missed :
    let today : Date := ⟨2024, 3, 13, by decide, by decide, by decide⟩
    (∀ record ∈ [Record.task (.new 1 "ΑΣΑ" "home"), .project ⟨"ΑΣΑ", none, .active⟩,
        .project ⟨"home", some "ΑΣΑ", .active⟩,
        .timeLog ⟨1, "home", none, today, 25, some "ΑΣΑ"⟩],
      "" ++ "ΑΣ" ++ "Α" ∈ record.searched ∧
      (Clause.text "ΑΣ").holds record ⟨today, .nextYear⟩ = .ok false) ∧
    ¬ ∀ (record : Record) (ctx : Context) (before term after : String),
      before ++ term ++ after ∈ record.searched →
      (Clause.text term).holds record ctx = .ok true := by
  intro today
  refine ⟨by decide +kernel +revert, fun hall => ?_⟩
  have hmissed : (Clause.text "ΑΣ").holds (.task (.new 1 "ΑΣΑ" "home")) ⟨today, .nextYear⟩ =
      .ok false := by decide +kernel +revert
  have hfound := hall (.task (.new 1 "ΑΣΑ" "home")) ⟨today, .nextYear⟩ "" "ΑΣ" "Α"
    List.mem_cons_self
  rw [hmissed] at hfound
  cases hfound

end Agenda
