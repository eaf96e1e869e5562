import Agenda.Proofs.Query.Classification
import Agenda.Proofs.Query.Words
import Agenda.Proofs.Text.Recasing

/-!
# Words in other case

A word keeps its form when the case of its letters changes. What marks a form is either no letter at
all or compared without regard to case: quotes, `@`, `#` and commas stay what they are, `due:`,
`status:`, `overdue` and the `p` of a priority are found in any case, and a key ends where it ended.
What the word says changes no more than the word; keywords are brought to lower case, and so is what
stands behind `due:` and `status:`.

Main results:
  * `Form.read?_recased` — one form;
  * `classify_recased` — a word says the same in other case, up to the case of names and values;
  * `Domain.ofKeyword?_recased` — domain words;
  * `isWord_of_recased` — the shape of a word.
-/

namespace Agenda

open Text (Recased SameLetter CaseBlind)

/-! ## §1. Options -/

theorem optionRel_map {α β α' β' : Type} {R : α → β → Prop} {S : α' → β' → Prop} {f : α → α'}
    {g : β → β'} {x : Option α} {y : Option β} (h : Option.Rel R x y)
    (hfg : ∀ a b, R a b → S (f a) (g b)) : Option.Rel S (x.map f) (y.map g) := by
  cases h with
  | some hab => exact .some (hfg _ _ hab)
  | none => exact .none

/-! ## §2. Values -/

theorem unquoted_recased {cs cs' : List Char} (h : Recased cs cs') :
    Recased (unquoted cs).toList (unquoted cs').toList := by
  unfold unquoted
  rw [String.toList_ofList, String.toList_ofList]
  exact h.filter (by decide)

namespace Form

theorem caseBlind_isKeyChar : CaseBlind isKeyChar := by decide

theorem caseBlind_startsPriority : CaseBlind startsPriority := by decide

/-- A list is cut at the same commas. -/
theorem entries?_recased {cs cs' : List Char} (h : Recased cs cs') (inQuote : Bool)
    {read read' : List Char} (hread : Recased read read') :
    Option.Rel (List.Forall₂ Recased) (entries? inQuote read cs) (entries? inQuote read' cs') := by
  induction h generalizing inQuote read read' with
  | nil =>
    cases inQuote with
    | true => exact .none
    | false => exact .some (.cons (List.forall₂_reverse_iff.2 hread) .nil)
  | @cons c c' cs cs' hc hcs ih =>
    have hquote : c = '"' ↔ c' = '"' := hc.eq_iff (by decide)
    have hcomma : c = ',' ↔ c' = ',' := hc.eq_iff (by decide)
    unfold entries?
    simp only [hquote, hcomma]
    split
    · exact ih _ (.cons hc hread)
    · split
      · exact optionRel_map (ih _ .nil) fun _ _ => .cons (List.forall₂_reverse_iff.2 hread)
      · exact ih _ (.cons hc hread)

/-- Two lists of values are equal up to case, value by value. -/
abbrev ValuesRecased (values values' : List String) : Prop :=
  List.Forall₂ (fun v v' : String => Recased v.toList v'.toList) values values'

theorem exists_single_of_recased {v : String} {values' : List String}
    (h : ValuesRecased [v] values') : ∃ v', values' = [v'] ∧ Recased v.toList v'.toList := by
  obtain ⟨v', rest, hv, hrest, rfl⟩ := List.forall₂_cons_left_iff.1 h
  obtain rfl := List.forall₂_nil_left_iff.1 hrest
  exact ⟨v', rfl, hv⟩

/-- An entry is empty in any case or in none. -/
theorem nil_mem_recased {es es' : List (List Char)} (h : List.Forall₂ Recased es es') :
    [] ∈ es ↔ [] ∈ es' := by
  induction h with
  | nil => rfl
  | cons he _ ih =>
    rw [List.mem_cons, List.mem_cons, ih]
    cases he <;> simp

theorem directiveValues?_recased {cs cs' : List Char} (h : Recased cs cs') :
    Option.Rel ValuesRecased (directiveValues? cs) (directiveValues? cs') := by
  have hentries := entries?_recased h false .nil
  unfold directiveValues?
  generalize entries? false [] cs = es at hentries
  generalize entries? false [] cs' = es' at hentries
  cases hentries with
  | none => exact .none
  | some hes =>
    simp only [nil_mem_recased hes]
    split
    · exact .none
    · have hvalues := hes.imp fun _ _ => unquoted_recased
      exact .some (List.forall₂_map_left_iff.2 (List.forall₂_map_right_iff.2 hvalues))

theorem directiveParts?_recased {cs cs' : List Char} (h : Recased cs cs') :
    Option.Rel (fun parts parts' => Recased parts.1 parts'.1 ∧ Recased parts.2 parts'.2)
      (directiveParts? cs) (directiveParts? cs') := by
  have hkey := h.takeWhile caseBlind_isKeyChar
  have hrest := h.dropWhile caseBlind_isKeyChar
  unfold directiveParts?
  generalize cs.takeWhile isKeyChar = key at hkey
  generalize cs'.takeWhile isKeyChar = key' at hkey
  generalize cs.dropWhile isKeyChar = rest at hrest
  generalize cs'.dropWhile isKeyChar = rest' at hrest
  cases hkey with
  | nil => exact .none
  | cons hk hks =>
    cases hrest with
    | nil => exact .none
    | cons hc hcs =>
      rcases hc.mark ':' rfl with ⟨rfl, rfl⟩ | ⟨hcolon, hcolon'⟩
      · exact .some ⟨.cons hk hks, hcs⟩
      · split
        next hcs => exact absurd (List.cons.inj hcs).1 hcolon
        next =>
          split
          next hcs' => exact absurd (List.cons.inj hcs').1 hcolon'
          next => exact .none

end Form

/-! ## §3. What words say -/

/-- Two classified words say the same, up to the case of names and values. -/
inductive TokenKind.Recased : TokenKind → TokenKind → Prop
  | projectRef {name name' : String} (h : Text.Recased name.toList name'.toList) :
    Recased (.projectRef name) (.projectRef name')
  | tagExpr {tag tag' : String} {negated : Bool} (h : Text.Recased tag.toList tag'.toList) :
    Recased (.tagExpr tag negated) (.tagExpr tag' negated)
  | textTerm {term term' : String} (h : Text.Recased term.toList term'.toList) :
    Recased (.textTerm term) (.textTerm term')
  | dateExpr {expr : String} : Recased (.dateExpr expr) (.dateExpr expr)
  | overdue : Recased .overdue .overdue
  | statusExpr {value : String} : Recased (.statusExpr value) (.statusExpr value)
  | priorityExpr {expr expr' : String} (h : Text.Recased expr.toList expr'.toList) :
    Recased (.priorityExpr expr) (.priorityExpr expr')
  | directive {name : String} {values values' : List String}
    (h : Form.ValuesRecased values values') :
    Recased (.directive name values) (.directive name values')

/-- Two words are both malformed, or say the same up to the case of names and values. -/
inductive SaidRecased : Except LexError TokenKind → Except LexError TokenKind → Prop
  | error {e e' : LexError} : SaidRecased (.error e) (.error e')
  | ok {kind kind' : TokenKind} (h : kind.Recased kind') : SaidRecased (.ok kind) (.ok kind')

namespace Form

section

variable {word word' : List Char} (h : Recased word word') (position : Nat)

include h

/-- A tag begins with its mark, and something stands behind it. -/
theorem read?_tag_recased :
    Option.Rel SaidRecased (tag.read? word position) (tag.read? word' position) := by
  cases h with
  | nil => exact .none
  | cons hc hcs =>
    cases hcs with
    | nil => simp [read?]
    | cons hname hnames =>
      rcases hc.mark '#' rfl with ⟨rfl, rfl⟩ | ⟨hne, hne'⟩
      · exact .some (.ok (.tagExpr (unquoted_recased (.cons hname hnames))))
      · simp [read?, hne, hne']

theorem read?_negatedTag_recased :
    Option.Rel SaidRecased (negatedTag.read? word position) (negatedTag.read? word' position) := by
  cases h with
  | nil => exact .none
  | cons hc hcs =>
    cases hcs with
    | nil => simp [read?]
    | cons hd hds =>
      cases hds with
      | nil => simp [read?]
      | cons hname hnames =>
        rcases hc.mark '-' rfl with ⟨rfl, rfl⟩ | ⟨hne, hne'⟩
        · rcases hd.mark '#' rfl with ⟨rfl, rfl⟩ | ⟨hne, hne'⟩
          · exact .some (.ok (.tagExpr (unquoted_recased (.cons hname hnames))))
          · simp [read?, hne, hne']
        · simp [read?, hne, hne']

/-- What may follow the `p` of a priority is no letter. -/
theorem read?_priority_recased :
    Option.Rel SaidRecased (priority.read? word position) (priority.read? word' position) := by
  have hafter := Text.afterFolded_recased ['p'] h
  unfold read?
  dsimp only
  generalize Text.afterFolded ['p'] word = rest at hafter
  generalize Text.afterFolded ['p'] word' = rest' at hafter
  cases hafter with
  | none => exact .none
  | some hrest =>
    cases hrest with
    | nil => exact .none
    | cons hc hcs =>
      dsimp only
      rw [hc.congr caseBlind_startsPriority]
      split
      · refine .some (.ok (.priorityExpr ?_))
        rw [String.toList_ofList, String.toList_ofList]
        exact .cons hc hcs
      · exact .none

/-- A directive is well formed in any case or in none. -/
theorem read?_directive_recased :
    Option.Rel SaidRecased (directive.read? word position) (directive.read? word' position) := by
  refine optionRel_map (directiveParts?_recased h) fun parts parts' hparts => ?_
  obtain ⟨hkey, hrest⟩ := hparts
  have hvalues := directiveValues?_recased hrest
  dsimp only
  rw [Text.fold_eq_iff.2 hkey]
  generalize directiveValues? parts.2 = values at hvalues
  generalize directiveValues? parts'.2 = values' at hvalues
  cases hvalues with
  | none => exact .error
  | some hvalues => exact .ok (.directive hvalues)

/-- **A form fits a word in any case or in none**, and says the same. -/
theorem read?_recased (form : Form) :
    Option.Rel SaidRecased (form.read? word position) (form.read? word' position) := by
  cases form with
  | quotedText =>
    cases h with
    | nil => exact .none
    | cons hc hcs =>
      rcases hc.mark '"' rfl with ⟨rfl, rfl⟩ | ⟨hne, hne'⟩
      · exact .some (.ok (.textTerm (unquoted_recased (.cons hc hcs))))
      · simp [read?, hne, hne']
  | projectRef =>
    cases h with
    | nil => exact .none
    | cons hc hcs =>
      rcases hc.mark '@' rfl with ⟨rfl, rfl⟩ | ⟨hne, hne'⟩
      · exact .some (.ok (.projectRef (unquoted_recased hcs)))
      · simp [read?, hne, hne']
  | negatedTag => exact read?_negatedTag_recased h position
  | tag => exact read?_tag_recased h position
  | due =>
    refine optionRel_map (Text.afterFolded_recased _ h) fun rest rest' hrest => ?_
    rw [Text.lower_eq_of_recased (unquoted_recased hrest)]
    exact .ok .dateExpr
  | overdue =>
    have hafter := Text.afterFolded_recased "overdue".toList h
    show Option.Rel _ (if _ then _ else _) (if _ then _ else _)
    generalize Text.afterFolded "overdue".toList word = rest at hafter
    generalize Text.afterFolded "overdue".toList word' = rest' at hafter
    cases hafter with
    | none => exact .none
    | some hrest =>
      cases hrest with
      | nil => exact .some (.ok .overdue)
      | cons _ _ => exact .none
  | status =>
    refine optionRel_map (Text.afterFolded_recased _ h) fun rest rest' hrest => ?_
    rw [Text.lower_eq_of_recased (unquoted_recased hrest)]
    exact .ok .statusExpr
  | priority => exact read?_priority_recased h position
  | directive => exact read?_directive_recased h position
  | text => exact .some (.ok (.textTerm (unquoted_recased h)))

end

end Form

/-- The first form that fits is the same one. -/
theorem findSome?_recased {word word' : List Char} (h : Recased word word') (position : Nat)
    (forms : List Form) :
    Option.Rel (fun found found' => SaidRecased found.2 found'.2)
      (forms.findSome? fun f => (f.read? word position).map (f, ·))
      (forms.findSome? fun f => (f.read? word' position).map (f, ·)) := by
  induction forms with
  | nil => exact .none
  | cons f forms ih =>
    have hread := Form.read?_recased h position f
    rw [List.findSome?_cons, List.findSome?_cons]
    generalize f.read? word position = said at hread
    generalize f.read? word' position = said' at hread
    cases hread with
    | none => exact ih
    | some hsaid => exact .some hsaid

/-- **A word says the same in other case**, up to the case of names and values. -/
theorem classify_recased {word word' : String} (h : Recased word.toList word'.toList)
    (position : Nat) : SaidRecased (classify word position) (classify word' position) := by
  have hfound := findSome?_recased h position Form.all
  unfold classify classified
  generalize Form.all.findSome? (fun f => (f.read? word.toList position).map (f, ·)) = found
    at hfound
  generalize Form.all.findSome? (fun f => (f.read? word'.toList position).map (f, ·)) = found'
    at hfound
  cases hfound with
  | none => exact .ok (.textTerm (unquoted_recased h))
  | some hsaid => exact hsaid

/-- A domain word names its domain in any case. -/
theorem Domain.ofKeyword?_recased {word word' : String} (h : Recased word.toList word'.toList) :
    ofKeyword? word = ofKeyword? word' := by
  unfold ofKeyword?
  rw [Text.lower_eq_of_recased h]

/-! ## §4. The shape of words -/

namespace Word

theorem closes_recased {cs cs' : List Char} (h : Recased cs cs') (inQuote : Bool) :
    closes inQuote cs = closes inQuote cs' := by
  induction h generalizing inQuote with
  | nil => rfl
  | cons hc _ ih =>
    rw [closes, closes, hc.congr Text.caseBlind_isBlank, ih, ih]
    simp only [hc.eq_iff (d := '"') rfl]

/-- **What has the shape of a word** has it in any case. -/
theorem isWord_of_recased {w w' : String} (h : Recased w.toList w'.toList) (hw : IsWord w) :
    IsWord w' := by
  rw [isWord_iff] at hw ⊢
  rw [closes_recased h] at hw
  refine ⟨?_, hw.2⟩
  rintro rfl
  exact hw.1 (String.toList_eq_nil_iff.1 (List.forall₂_nil_right_iff.1 h))

/-- A change of case changes no lengths. -/
theorem bytes_recased {cs cs' : List Char} (h : Recased cs cs') : bytes cs = bytes cs' := by
  induction h with
  | nil => rfl
  | cons hc _ ih => rw [bytes_cons, bytes_cons, hc.congr Text.caseBlind_utf8Size, ih]

end Word

end Agenda
