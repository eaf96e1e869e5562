import Agenda.Proofs.Query.Loading
import Agenda.Proofs.Query.Mismatch

/-!
# Names and phrases in quotes

Whatever holds no double quote can be written between two of them: blanks in it end no word, commas
cut no list, and no sign, key or domain word in it makes the word anything else. What the word is says
the mark in front of the quotes alone, and the text between them comes through as it stands, capitals
included.

A WORD IS DECIDED BEFORE ITS FIRST QUOTE: every form looks for something at the front of the word. In
front of the quotes stands the mark, and no form that is tried before that of the mark finds there what
it looks for.

Main results:
  * `isWord_quotedWord` — a mark and a quoted text are one word;
  * `classify_quotedWord_text`, `classify_quotedWord_project`, `classify_quotedWord_tag`,
    `classify_quotedWord_directive` — what the word says, for each mark;
  * `compileText_tasks` — a word behind the domain word;
  * `quoted_names_compile` — what all of them compile to.
-/

namespace Agenda

/-- A text between quotes, behind a mark. -/
def quotedWord (mark s : String) : String :=
  mark ++ "\"" ++ s ++ "\""

/-- What may stand in a word outside of quotes. -/
def IsBare (cs : List Char) : Prop :=
  ∀ c ∈ cs, c ≠ '"' ∧ Text.isBlank c = false

instance (cs : List Char) : Decidable (IsBare cs) :=
  List.decidableBAll _ cs

theorem toList_quotedWord (mark s : String) :
    (quotedWord mark s).toList = mark.toList ++ '"' :: (s.toList ++ ['"']) := by
  unfold quotedWord
  rw [String.toList_append, String.toList_append, String.toList_append, List.append_assoc,
    List.append_assoc]
  rfl

/-! ## §1. One word -/

namespace Word

variable {cs rest : List Char}

/-- Outside of quotes a stretch without quotes and blanks changes nothing. -/
theorem closes_bare_append (h : IsBare cs) :
    closes false (cs ++ rest) = closes false rest := by
  induction cs with
  | nil => rfl
  | cons c cs ih =>
    obtain ⟨⟨hquote, hblank⟩, hcs⟩ := List.forall_mem_cons.1 h
    rw [List.cons_append, closes, if_neg hquote, ih hcs, hblank]
    rfl

/-- Inside of quotes a stretch without quotes changes nothing. -/
theorem closes_quoted_append (h : '"' ∉ cs) : closes true (cs ++ rest) = closes true rest := by
  induction cs with
  | nil => rfl
  | cons c cs ih =>
    obtain ⟨hquote, hcs⟩ := not_or.1 (mt List.mem_cons.2 h)
    rw [List.cons_append, closes, if_neg (Ne.symm hquote), ih hcs]
    rfl

end Word

/-- **A mark and a quoted text are one word.** -/
theorem isWord_quotedWord {mark s : String} (hmark : IsBare mark.toList) (h : '"' ∉ s.toList) :
    IsWord (quotedWord mark s) := by
  rw [Word.isWord_iff]
  constructor
  · intro hempty
    have hlist := toList_quotedWord mark s
    rw [hempty] at hlist
    simp at hlist
  · rw [toList_quotedWord, Word.closes_bare_append hmark]
    show Word.closes true (s.toList ++ ['"']) = true
    rw [Word.closes_quoted_append h]
    rfl

/-! ## §2. What the word says -/

section

variable {s : String} (h : '"' ∉ s.toList) (position : Nat)

include h

/-- Behind its mark the word is the text with a quote on either side. -/
theorem unquoted_quotedWord {body : List Char} (hbody : body = '"' :: (s.toList ++ ['"'])) :
    unquoted body = s := by
  rw [hbody, unquoted_quoted h, String.ofList_toList]

theorem classify_quotedWord_text : classify (quotedWord "" s) position = .ok (.textTerm s) := by
  have hword : (quotedWord "" s).toList = '"' :: (s.toList ++ ['"']) := toList_quotedWord "" s
  refine classify_eq_of_read? [] .quotedText rfl nofun ?_
  rw [hword]
  show some (Except.ok (TokenKind.textTerm (unquoted _))) = _
  rw [unquoted_quotedWord h rfl]

theorem classify_quotedWord_project :
    classify (quotedWord "@" s) position = .ok (.projectRef s) := by
  have hword : (quotedWord "@" s).toList = '@' :: '"' :: (s.toList ++ ['"']) :=
    toList_quotedWord "@" s
  refine classify_eq_of_read? [.quotedText] .projectRef rfl ?_ ?_
  · -- the first quote stands behind the mark
    rw [hword]
    intro form hform
    obtain rfl := List.mem_singleton.1 hform
    rfl
  · rw [hword]
    show some (Except.ok (TokenKind.projectRef (unquoted _))) = _
    rw [unquoted_quotedWord h rfl]

theorem classify_quotedWord_tag {mark : String} {negated : Bool}
    (hmark : mark.toList = tagMark negated) :
    classify (quotedWord mark s) position = .ok (.tagExpr s negated) := by
  rw [classify_eq_tag_iff]
  refine ⟨'"' :: (s.toList ++ ['"']), ?_, List.cons_ne_nil _ _, unquoted_quotedWord h rfl⟩
  rw [toList_quotedWord, hmark]

/-- A key that is not that of a filter makes the word a directive with one value. -/
theorem classify_quotedWord_directive {mark : String} {key : List Char}
    (hmark : mark.toList = key ++ [':']) (hkey : IsKey key) (hdue : Text.fold key ≠ "due".toList)
    (hstatus : Text.fold key ≠ "status".toList) : classify (quotedWord mark s) position =
      .ok (.directive (String.ofList (Text.fold key)) [s]) := by
  have hword : (quotedWord mark s).toList = key ++ ':' :: '"' :: (s.toList ++ ['"']) := by
    rw [toList_quotedWord, hmark, List.append_assoc]
    rfl
  rw [classify_keyed hword hkey hdue hstatus, Form.directiveValues?_quoted h, String.ofList_toList]

end

/-! ## §3. Behind the domain word -/

/-- A word behind the domain word of tasks is read as it stands. -/
theorem split_tasks {w : String} (hw : IsWord w) :
    Word.split ("tasks " ++ w) = .ok [⟨0, "tasks"⟩, ⟨6, w⟩] := by
  have htasks : IsWord "tasks" := Word.isWord_iff.2 (by decide)
  have hgap : ∀ c ∈ " ".toList, Text.isBlank c = true := by
    intro c hc
    obtain rfl := List.mem_singleton.1 hc
    rfl
  let l : Layout := {
    pieces := [⟨"", "tasks", nofun, htasks⟩, ⟨" ", w, hgap, hw⟩]
    tail := ""
    apart := by
      intro p hp
      obtain rfl := List.mem_singleton.1 hp
      exact (by decide : " " ≠ "")
    tail_blank := nofun }
  refine Word.split_eq_ok_iff.2 ⟨l, ?_, rfl⟩
  show "" ++ "tasks" ++ (" " ++ w ++ "") = "tasks " ++ w
  rw [String.append_empty, ← String.append_assoc]
  rfl

/-- **A word behind the domain word** is one token more. -/
theorem compileText_tasks {w : String} {kind : TokenKind} (hw : IsWord w)
    (hkind : classify w 6 = .ok kind) : compileText ("tasks " ++ w) =
      compile [⟨.domain .task, "tasks", 0⟩, ⟨kind, w, 6⟩] := by
  have hfirst : Token.ofFirstWord ⟨0, "tasks"⟩ = .ok ⟨.domain .task, "tasks", 0⟩ := by
    decide +kernel
  have hword : Token.ofWord ⟨6, w⟩ = .ok ⟨kind, w, 6⟩ := map_eq_ok.2 ⟨kind, hkind, rfl⟩
  have hwords : Token.ofWords [⟨0, "tasks"⟩, ⟨6, w⟩] =
      .ok [⟨.domain .task, "tasks", 0⟩, ⟨kind, w, 6⟩] := by
    refine bind_eq_ok.2 ⟨_, hfirst, ?_⟩
    rw [List.mapM_cons, hword]
    rfl
  have hlex : lex ("tasks " ++ w) = .ok [⟨.domain .task, "tasks", 0⟩, ⟨kind, w, 6⟩] :=
    bind_eq_ok.2 ⟨_, split_tasks hw, hwords⟩
  unfold compileText
  rw [hlex]

/-- A quoted text behind the domain word and a mark. -/
theorem compileText_tasks_quoted {front s : String} (mark : String) {kind : TokenKind}
    (hfront : "tasks " ++ mark ++ "\"" = front)
    (hmark : IsBare mark.toList) (h : '"' ∉ s.toList)
    (hkind : classify (quotedWord mark s) 6 = .ok kind) : compileText (front ++ s ++ "\"") =
      compile [⟨.domain .task, "tasks", 0⟩, ⟨kind, quotedWord mark s, 6⟩] := by
  have htext : front ++ s ++ "\"" = "tasks " ++ quotedWord mark s := by
    rw [← hfront]
    unfold quotedWord
    simp only [String.append_assoc]
  rw [htext, compileText_tasks (isWord_quotedWord hmark h) hkind]

/-- **QUOTES MAKE EVERY NAME AND PHRASE EXPRESSIBLE**: a text without double quotes, whatever else
stands in it, is searched for as it stands when it is put in quotes behind the domain word. If there is
something in it, it names the project behind `@`, the tag behind `#` and `-#`, the query to save behind
`save:`, and behind `load:` the query that is loaded, with nothing beside it to ignore. -/
theorem quoted_names_compile {s : String} (h : '"' ∉ s.toList) :
    compileText ("tasks \"" ++ s ++ "\"") =
      .ok (.ready { domain := .task, filters := [.text s] }) ∧
    (s ≠ "" →
      compileText ("tasks @\"" ++ s ++ "\"") =
        .ok (.ready { domain := .task, filters := [.project s] }) ∧
      compileText ("tasks #\"" ++ s ++ "\"") =
        .ok (.ready { domain := .task, filters := [.tag s false] }) ∧
      compileText ("tasks -#\"" ++ s ++ "\"") =
        .ok (.ready { domain := .task, filters := [.tag s true] }) ∧
      compileText ("tasks save:\"" ++ s ++ "\"") =
        .ok (.ready { domain := .task, filters := [], directives := { save := some s } }) ∧
      compileText ("load:\"" ++ s ++ "\"") = .ok (.load s [])) := by
  constructor
  · have htext := classify_quotedWord_text h 6
    exact compileText_tasks_quoted "" rfl nofun h htext
  · intro hne
    refine ⟨?project, ?tag, ?negated, ?save, compileText_loadText h⟩
    case project =>
      have hproject := classify_quotedWord_project h 6
      -- that there is a name is checked behind the removal of the quotes
      have hclause : Token.clause .task ⟨.projectRef s, quotedWord "@" s, 6⟩ = .ok (.project s) :=
        if_neg hne
      have hadded : ({ domain := .task } : Query).addClause
          ⟨.projectRef s, quotedWord "@" s, 6⟩ .project =
          .ok { domain := .task, filters := [.project s] } := by
        have hallows : Domain.task.schema.allows .project = true := by decide
        unfold Query.addClause
        dsimp only
        rw [if_pos hallows, hclause]
        rfl
      refine (compileText_tasks_quoted "@" rfl (by decide) h hproject).trans ?_
      rw [compile_pair rfl rfl, hadded]
      rfl
    case tag =>
      have htag := classify_quotedWord_tag h 6 (show "#".toList = tagMark false from rfl)
      exact compileText_tasks_quoted "#" rfl (by decide) h htag
    case negated =>
      have htag := classify_quotedWord_tag h 6 (show "-#".toList = tagMark true from rfl)
      exact compileText_tasks_quoted "-#" rfl (by decide) h htag
    case save =>
      have hsave := classify_quotedWord_directive h 6
        (show "save:".toList = "save".toList ++ [':'] from rfl) (by decide) (by decide) (by decide)
      exact compileText_tasks_quoted "save:" rfl (by decide) h hsave

/-- A text that looks like a tag, a priority, a project and a directive, with blanks, a comma, a colon
and letters that have no one-to-one small form. -/
theorem quoted_names_compile_lookalike :
    let s := "-#P1, @İ  save:ΑΣ"
    ('"' ∉ s.toList ∧ s ≠ "") ∧
    compileText ("tasks \"" ++ s ++ "\"") =
      .ok (.ready { domain := .task, filters := [.text s] }) ∧
    compileText ("tasks @\"" ++ s ++ "\"") =
      .ok (.ready { domain := .task, filters := [.project s] }) ∧
    compileText ("tasks #\"" ++ s ++ "\"") =
      .ok (.ready { domain := .task, filters := [.tag s false] }) ∧
    compileText ("tasks -#\"" ++ s ++ "\"") =
      .ok (.ready { domain := .task, filters := [.tag s true] }) ∧
    compileText ("tasks save:\"" ++ s ++ "\"") =
      .ok (.ready { domain := .task, filters := [], directives := { save := some s } }) ∧
    compileText ("load:\"" ++ s ++ "\"") = .ok (.load s []) := by
  intro s
  have h : '"' ∉ s.toList ∧ s ≠ "" := by decide
  exact ⟨h, (quoted_names_compile h.1).1, (quoted_names_compile h.1).2 h.2⟩

end Agenda
