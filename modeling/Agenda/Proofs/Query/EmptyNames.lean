import Agenda.Proofs.Query.Lexing
import Agenda.Proofs.Query.Meaning
import Agenda.Proofs.Query.WellFormed

/-!
# Names that are empty

A word with nothing behind its mark or key is no tag and no directive, but quotes count as something:
that there is a name is checked before its quotes are removed. Only the name of a project is checked
behind that, and so it is the only one that is never empty.

A name of nothing but quotes is followed from the word (`EmptyTag`, `EmptyValue`) through its token to
what the tokens compile to.

Main results:
  * `Form.values_eq_empty_iff` — the lists of a directive that are one empty name;
  * `Token.SaysItsWord.tag_empty_iff`, `Token.SaysItsWord.directive_empty_iff` — the words that say
    an empty name;
  * `empty_name_iff` — the empty names that a text compiles to are those that its words write.
-/

namespace Agenda

/-! ## §1. Nothing but quotes -/

/-- A stretch of text with nothing but quotes in it. -/
def OnlyQuotes (cs : List Char) : Prop :=
  cs ≠ [] ∧ ∀ c ∈ cs, c = '"'

theorem OnlyQuotes.quote_mem {cs : List Char} (h : OnlyQuotes cs) : '"' ∈ cs := by
  obtain ⟨c, rest, rfl⟩ := List.exists_cons_of_ne_nil h.1
  have hc : c = '"' := h.2 c List.mem_cons_self
  exact hc ▸ List.mem_cons_self

theorem unquoted_eq_empty_iff {cs : List Char} : unquoted cs = "" ↔ ∀ c ∈ cs, c = '"' := by
  unfold unquoted
  rw [String.ofList_eq_empty_iff, List.filter_eq_nil_iff]
  simp

namespace Form

/-- **The lists that are one empty name** are written with quotes only. -/
theorem values_eq_empty_iff {cs : List Char} {values : List String}
    (h : directiveValues? cs = some values) : values = [""] ↔ OnlyQuotes cs := by
  obtain ⟨es, hcut, _, hfull, rfl⟩ := directiveValues?_eq_some_iff.1 h
  constructor
  · intro hempty
    obtain ⟨e, rfl, he⟩ := List.map_eq_singleton_iff.1 hempty
    obtain rfl : e = cs := (isCut_singleton.1 hcut).1
    exact ⟨fun hnil => hfull (by simp [hnil]), unquoted_eq_empty_iff.1 he⟩
  · intro hquotes
    -- without a comma there is one entry
    have hcomma : CommasQuoted false cs := by
      intro before after hcs
      have hmem : ',' ∈ cs := hcs ▸ List.mem_append_right before List.mem_cons_self
      exact absurd (hquotes.2 ',' hmem) (by decide)
    rw [hcut.unique (isCut_singleton.2 ⟨rfl, hcomma⟩), List.map_singleton,
      unquoted_eq_empty_iff.2 hquotes.2]

end Form

/-! ## §2. Words -/

/-- A word that is the mark of a tag and quotes. -/
def EmptyTag (negated : Bool) (word : String) : Prop :=
  ∃ rest, word.toList = tagMark negated ++ rest ∧ OnlyQuotes rest

/-- A word that is a key in any case, a colon and quotes. -/
def EmptyValue (key word : String) : Prop :=
  ∃ k rest, word.toList = k ++ ':' :: rest ∧ Text.fold k = key.toList ∧ OnlyQuotes rest

namespace Token

variable {t : Token}

/-- The tags without a name. -/
theorem SaysItsWord.tag_empty_iff (h : t.SaysItsWord) {negated : Bool} :
    t.kind = .tagExpr "" negated ↔ EmptyTag negated t.raw := by
  constructor
  · intro hkind
    have hclassify := h.classify_of_ne_domain (by simp [hkind])
    rw [hkind] at hclassify
    obtain ⟨rest, hword, hne, hempty⟩ := classify_eq_tag_iff.1 hclassify
    exact ⟨rest, hword, hne, unquoted_eq_empty_iff.1 hempty⟩
  · rintro ⟨rest, hword, hquotes⟩
    have hquote : '"' ∈ t.raw.toList := by simp [hword, hquotes.quote_mem]
    have hempty : unquoted rest = "" := unquoted_eq_empty_iff.2 hquotes.2
    have htag : classify t.raw t.position = .ok (.tagExpr "" negated) :=
      classify_eq_tag_iff.2 ⟨rest, hword, hquotes.1, hempty⟩
    rw [h.classify_of_quote hquote] at htag
    exact Except.ok.inj htag

/-- The directives with one value that is empty, for a key that is not that of a filter. -/
theorem SaysItsWord.directive_empty_iff (h : t.SaysItsWord) {key : String}
    (hkey : IsKey key.toList) (hdue : key ≠ "due") (hstatus : key ≠ "status") :
    t.kind = .directive key [""] ↔ EmptyValue key t.raw := by
  constructor
  · intro hkind
    have hclassify := h.classify_of_ne_domain (by simp [hkind])
    rw [hkind] at hclassify
    obtain ⟨k, rest, hword, _, hfold, hvalues⟩ := parts_of_classify_directive hclassify
    exact ⟨k, rest, hword, hfold, (Form.values_eq_empty_iff hvalues).1 rfl⟩
  · rintro ⟨k, rest, hword, hfold, hquotes⟩
    have hquote : '"' ∈ t.raw.toList := by simp [hword, hquotes.quote_mem]
    have hne : ∀ {name : String}, key ≠ name → Text.fold k ≠ name.toList := by
      intro name hname
      rwa [hfold, ne_eq, String.toList_inj]
    have hclassify := h.classify_of_quote hquote
    rw [classify_keyed hword (Form.isKey_of_fold hfold hkey) (hne hdue) (hne hstatus), hfold,
      String.ofList_toList] at hclassify
    -- the word has been taken, so that its quotes are closed
    split at hclassify
    next values hvalues =>
      rw [(Form.values_eq_empty_iff hvalues).2 hquotes] at hclassify
      exact (Except.ok.inj hclassify).symm
    next => cases hclassify

end Token

/-! ## §3. Clauses and directives -/

namespace Token

variable {domain : Domain} {t : Token} {name : String}

theorem clause_eq_tag_iff {negated : Bool} :
    t.clause domain = .ok (.tag name negated) ↔ t.kind = .tagExpr name negated := by
  constructor
  · intro h
    cases hkind : t.kind with
    | tagExpr =>
      unfold clause at h
      rw [hkind] at h
      obtain ⟨rfl, rfl⟩ := Clause.tag.inj (Except.ok.inj h)
      rfl
    | directive =>
      unfold clause at h
      rw [hkind] at h
      cases h
    | _ =>
      -- no other filter is of the family
      have hvalid := clause_valid (congrArg TokenKind.filterKind? hkind) h
      cases hvalid.1
  · intro hkind
    unfold clause
    rw [hkind]

theorem clause_ne_project_empty : t.clause domain ≠ .ok (.project "") := by
  intro h
  cases hkind : t.kind with
  | projectRef name =>
    unfold clause at h
    rw [hkind] at h
    simp only at h
    split at h
    next => cases h
    next hname => exact hname (Clause.project.inj (Except.ok.inj h))
  | directive =>
    unfold clause at h
    rw [hkind] at h
    cases h
  | _ =>
    have hvalid := clause_valid (congrArg TokenKind.filterKind? hkind) h
    cases hvalid.1

end Token

/-! ## §4. Texts -/

section

variable {tokens : List Token} {q : Query}

/-- The empty names of a query are those of its tokens. -/
theorem empty_name_of_ready (hq : compile tokens = .ok (.ready q)) :
    .project "" ∉ q.filters ∧
    (∀ negated, .tag "" negated ∈ q.filters ↔ ∃ t ∈ tokens, t.kind = .tagExpr "" negated) ∧
    (q.directives.save = some "" ↔ ∃ t ∈ tokens, t.kind = .directive "save" [""]) := by
  obtain ⟨_, domain, raw, position, rest, rfl, hrest⟩ := compile_ready hq
  obtain ⟨hacceptable, rfl⟩ := Query.ofTokens_eq_ok.1 hrest
  refine ⟨?_, fun negated => ?_, ?_⟩
  · rw [Query.mem_filters_stated]
    rintro ⟨t, _, ht⟩
    exact Token.clause_ne_project_empty ht
  · -- the domain word is no tag
    rw [Query.mem_filters_stated]
    simp [Token.clause_eq_tag_iff]
  · show (askedBy rest "save").head? = some "" ↔ _
    rw [hacceptable.head?_askedBy_iff (by decide)]
    simp

/-- The name that is loaded is that of the only `load:` directive. -/
theorem empty_name_of_load {name : String} {discarded : List String}
    (h : compile tokens = .ok (.load name discarded)) :
    name = "" ↔ ∃ t ∈ tokens, t.kind = .directive "load" [""] := by
  obtain ⟨t, hfilter, hkind⟩ := loadName?_eq_some_iff.1 (compile_load h)
  have hmem : t ∈ tokens.filter (·.isDirective "load") := hfilter ▸ List.mem_cons_self
  constructor
  · rintro rfl
    exact ⟨t, (List.mem_filter.1 hmem).1, hkind⟩
  · rintro ⟨u, hu, hempty⟩
    have hother : u ∈ tokens.filter (·.isDirective "load") :=
      List.mem_filter.2 ⟨hu, Token.isDirective_iff.2 ⟨_, hempty⟩⟩
    rw [hfilter, List.mem_singleton] at hother
    rw [hother, hkind] at hempty
    simpa using hempty

end

/-- Whether every name of what a text compiles to has something in it. -/
def Compiled.Named : Compiled → Prop
  | .ready q =>
    (∀ name, .project name ∈ q.filters → name ≠ "") ∧
    (∀ name negated, .tag name negated ∈ q.filters → name ≠ "") ∧
    ∀ name, q.directives.save = some name → name ≠ ""
  | .load name _ => name ≠ ""

/-- **THE EMPTY NAMES THAT GET THROUGH**: no project is named by nothing; a tag, the name that a
query is saved under and the name that is loaded are empty exactly if a word of the text writes
them with quotes only. -/
theorem empty_name_iff {text : String} {tokens : List Token} (h : lex text = .ok tokens) :
    (∀ q, compile tokens = .ok (.ready q) →
      .project "" ∉ q.filters ∧
      (∀ negated, .tag "" negated ∈ q.filters ↔ ∃ t ∈ tokens, EmptyTag negated t.raw) ∧
      (q.directives.save = some "" ↔ ∃ t ∈ tokens, EmptyValue "save" t.raw)) ∧
    ∀ name discarded, compile tokens = .ok (.load name discarded) →
      (name = "" ↔ ∃ t ∈ tokens, EmptyValue "load" t.raw) := by
  have htag : ∀ negated, (∃ t ∈ tokens, t.kind = .tagExpr "" negated) ↔
      ∃ t ∈ tokens, EmptyTag negated t.raw := fun negated =>
    exists_congr fun t => and_congr_right fun ht => (saysItsWord_of_lex h t ht).tag_empty_iff
  have hvalue : ∀ key, IsKey key.toList → key ≠ "due" → key ≠ "status" →
      ((∃ t ∈ tokens, t.kind = .directive key [""]) ↔ ∃ t ∈ tokens, EmptyValue key t.raw) :=
    fun key hkey hdue hstatus => exists_congr fun t => and_congr_right fun ht =>
      (saysItsWord_of_lex h t ht).directive_empty_iff hkey hdue hstatus
  constructor
  · intro q hq
    rw [← hvalue "save" (by decide) (by decide) (by decide)]
    simp only [← htag]
    exact empty_name_of_ready hq
  · intro name discarded hload
    rw [← hvalue "load" (by decide) (by decide) (by decide)]
    exact empty_name_of_load hload

/-- An empty tag and an empty name to save under, beside names that are not empty, and a name to load
that is not. -/
theorem empty_name_iff_mixed :
    let tokens : List Token := [
      ⟨.domain .task, "TASKS", 0⟩, ⟨.tagExpr "" true, "-#\"\"", 6⟩, ⟨.tagExpr "a" false, "#\"a\"", 11⟩,
      ⟨.projectRef "b c", "@\"b c\"", 16⟩, ⟨.directive "save" [""], "Save:\"\"\"\"", 23⟩]
    let q : Query :=
      { domain := .task
        filters := [.tag "" true, .tag "a" false, .project "b c"]
        directives := { save := some "" } }
    let loading : List Token := [⟨.domain .task, "tasks", 0⟩, ⟨.directive "load" ["x"], "load:x", 6⟩]
    (lex "TASKS -#\"\" #\"a\" @\"b c\" Save:\"\"\"\"" = .ok tokens ∧
      compile tokens = .ok (.ready q) ∧ .project "" ∉ q.filters ∧
      (∀ negated, .tag "" negated ∈ q.filters ↔ ∃ t ∈ tokens, EmptyTag negated t.raw) ∧
      (q.directives.save = some "" ↔ ∃ t ∈ tokens, EmptyValue "save" t.raw)) ∧
    lex "tasks load:x" = .ok loading ∧ compile loading = .ok (.load "x" ["tasks"]) ∧
      ("x" = "" ↔ ∃ t ∈ loading, EmptyValue "load" t.raw) := by
  intro tokens q loading
  have hlex : lex "TASKS -#\"\" #\"a\" @\"b c\" Save:\"\"\"\"" = .ok tokens := by decide +kernel
  have hq : compile tokens = .ok (.ready q) := by decide +kernel
  have hloading : lex "tasks load:x" = .ok loading := by decide +kernel
  have hload : compile loading = .ok (.load "x" ["tasks"]) := by decide +kernel
  exact ⟨⟨hlex, hq, (empty_name_iff hlex).1 q hq⟩, hloading, hload,
    (empty_name_iff hloading).2 "x" ["tasks"] hload⟩

/-- **QUOTES AROUND NOTHING ARE TAKEN FOR A NAME**, by a tag, by `save:` and by `load:`, where nothing
at all is refused. -/
theorem empty_name_taken :
    (compileText "tasks #\"\"" =
        .ok (.ready { domain := .task, filters := [.tag "" false] }) ∧
      compileText "tasks save:\"\"" =
        .ok (.ready { domain := .task, directives := { save := some "" } }) ∧
      compileText "load:\"\"" = .ok (.load "" [])) ∧
    (compileText "tasks save:" = .error (.lex (.malformedDirective "save:" 6)) ∧
      compileText "load:" = .error (.lex (.malformedDirective "load:" 0)) ∧
      compileText "tasks @\"\"" = .error (.compile (.invalidProject "@\"\""))) ∧
    ¬ ∀ text compiled, compileText text = .ok compiled → compiled.Named := by
  have hsave : compileText "tasks save:\"\"" =
      .ok (.ready { domain := .task, directives := { save := some "" } }) := by decide +kernel
  refine ⟨⟨by decide +kernel, hsave, by decide +kernel⟩, by decide +kernel, fun hall => ?_⟩
  have hnamed := hall "tasks save:\"\"" _ hsave
  exact hnamed.2.2 "" rfl rfl

end Agenda
