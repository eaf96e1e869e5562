import Agenda.Proofs.Query.Lexing
import Agenda.Proofs.Query.TokenCase

/-!
# Keywords in any case

Keywords, the words of filters on dates, states and priorities, and the names in directives are known
in any case. Where a text compiles to a query, the case of ASCII letters may be changed anywhere in
these: the words stay where they are, each takes the same form, and what is compiled of it is the same.
Names of projects, tags and saved queries and the terms of a search are not keywords, and their case
counts.

The case of one word has no effect on another. A changed letter takes as many bytes as before, so that
no word moves, and words do not overlap, so that the places that belong to one keyword belong to no
other token.

Main results:
  * `Word.split_recased` — the words of a text in other case;
  * `Token.respelled_of_recased` — what the word of a token says with its keyword in other case;
  * `lex_respelled` — the tokens of a text with its keywords in other case;
  * `keywords_case_insensitive` — the whole of a text.
-/

namespace Agenda

open Text (Recased SameLetter)

/-! ## §1. Places -/

/-- Two texts from a byte offset on are equal, up to the case of ASCII letters at places that are
free. -/
def RecasedAt (free : Nat → Prop) : Nat → List Char → List Char → Prop
  | _, [], [] => True
  | offset, c :: cs, c' :: cs' =>
    (c = c' ∨ free offset ∧ SameLetter c c') ∧ RecasedAt free (offset + c.utf8Size) cs cs'
  | _, _, _ => False

namespace RecasedAt

instance decidable (free : Nat → Prop) [DecidablePred free] :
    ∀ offset cs cs', Decidable (RecasedAt free offset cs cs')
  | _, [], [] => .isTrue trivial
  | offset, c :: cs, _ :: cs' =>
    @instDecidableAnd _ _ inferInstance (decidable free (offset + c.utf8Size) cs cs')
  | _, [], _ :: _ => .isFalse id
  | _, _ :: _, [] => .isFalse id

variable {free : Nat → Prop} {offset : Nat} {cs cs' : List Char}

theorem recased (h : RecasedAt free offset cs cs') : Recased cs cs' := by
  induction cs generalizing offset cs' with
  | nil =>
    cases cs' with
    | nil => exact .nil
    | cons => exact h.elim
  | cons c cs ih =>
    cases cs' with
    | nil => exact h.elim
    | cons c' cs' =>
      obtain ⟨hc, hcs⟩ := h
      rcases hc with rfl | ⟨_, hc⟩
      · exact .cons (.refl c) (ih hcs)
      · exact .cons hc (ih hcs)

/-- A text in two stretches is in other case stretch by stretch. -/
theorem exists_append {xs ys : List Char} (h : RecasedAt free offset (xs ++ ys) cs') :
    ∃ xs' ys', cs' = xs' ++ ys' ∧ RecasedAt free offset xs xs' ∧
      RecasedAt free (offset + Word.bytes xs) ys ys' := by
  induction xs generalizing offset cs' with
  | nil => exact ⟨[], cs', rfl, trivial, h⟩
  | cons x xs ih =>
    cases cs' with
    | nil => exact h.elim
    | cons x' cs' =>
      obtain ⟨hx, hrest⟩ := h
      obtain ⟨xs', ys', rfl, hxs, hys⟩ := ih hrest
      refine ⟨x' :: xs', ys', rfl, ⟨hx, hxs⟩, ?_⟩
      rwa [Word.bytes_cons, ← Nat.add_assoc]

/-- Where no place is free, nothing changes. -/
theorem eq_of_not_free (h : RecasedAt free offset cs cs')
    (hfree : ∀ place, offset ≤ place → place < offset + Word.bytes cs → ¬ free place) :
    cs' = cs := by
  induction cs generalizing offset cs' with
  | nil => exact List.forall₂_nil_left_iff.1 h.recased
  | cons c cs ih =>
    cases cs' with
    | nil => exact h.elim
    | cons c' cs' =>
      rw [Word.bytes_cons] at hfree
      have hpos := c.utf8Size_pos
      obtain ⟨hc, hcs⟩ := h
      have hrest : cs' = cs := ih hcs fun place hfrom hto => hfree place (by omega) (by omega)
      rcases hc with rfl | ⟨hhere, _⟩
      · rw [hrest]
      · exact absurd hhere (hfree offset (Nat.le_refl _) (by omega))

end RecasedAt

/-- How many bytes at the start of a token are a keyword: all of it, unless it is a name or a term, or
says under which name to save, where only the key is. -/
def Token.keywordBytes (t : Token) : Nat :=
  match t.kind with
  | .projectRef _ | .tagExpr _ _ | .textTerm _ => 0
  | .directive name _ => if name = "save" then name.utf8ByteSize else t.raw.utf8ByteSize
  | .domain _ | .priorityExpr _ | .dateExpr _ | .overdue | .statusExpr _ => t.raw.utf8ByteSize

/-- Whether a byte of the text belongs to a keyword of the tokens. -/
def InKeyword (tokens : List Token) (place : Nat) : Prop :=
  ∃ t ∈ tokens, t.position ≤ place ∧ place < t.position + t.keywordBytes

instance (tokens : List Token) : DecidablePred (InKeyword tokens) := fun place =>
  inferInstanceAs (Decidable (∃ t ∈ tokens, t.position ≤ place ∧ place < t.position + t.keywordBytes))

/-! ## §2. Words -/

namespace SpacedWord

variable {free : Nat → Prop} {tail : String}

/-- Words are found at their places in a text in other case, with the same blanks around them. -/
theorem exists_recased (htail : ∀ c ∈ tail.toList, Text.isBlank c = true) :
    ∀ {pieces : List SpacedWord} {offset : Nat} {cs' : List Char},
      RecasedAt free offset (joined tail pieces).toList cs' →
      ∃ pieces' : List SpacedWord, (joined tail pieces').toList = cs' ∧
        pieces'.map gap = pieces.map gap ∧
        List.Forall₂ (fun w w' : Word => w'.position = w.position ∧
          RecasedAt free w.position w.text.toList w'.text.toList)
          (placed offset pieces) (placed offset pieces')
  | [], offset, cs', h => by
    have hcs : cs' = tail.toList := h.recased.eq_of_not_alpha fun c hc =>
      Text.not_isAlpha_of_isBlank (htail c hc)
    exact ⟨[], hcs.symm, rfl, .nil⟩
  | p :: pieces, offset, cs', h => by
    rw [toList_joined_cons] at h
    obtain ⟨gap, rest, rfl, hgap, h⟩ := h.exists_append
    obtain ⟨word, rest, rfl, hword, h⟩ := h.exists_append
    have hgap : gap = p.gap.toList := hgap.recased.eq_of_not_alpha fun c hc =>
      Text.not_isAlpha_of_isBlank (p.gap_blank c hc)
    have hrecased : Recased p.word.toList (String.ofList word).toList := by
      rw [String.toList_ofList]
      exact hword.recased
    rw [Word.bytes_toList, Word.bytes_toList] at h
    obtain ⟨pieces', htext, hgaps, hwords⟩ := exists_recased htail h
    have hbytes : (String.ofList word).utf8ByteSize = p.word.utf8ByteSize := by
      rw [← Word.bytes_toList, ← Word.bytes_toList, Word.bytes_recased hrecased]
    refine ⟨⟨p.gap, String.ofList word, p.gap_blank, Word.isWord_of_recased hrecased p.word_shaped⟩ ::
      pieces', ?_, ?_, .cons ⟨rfl, ?_⟩ ?_⟩
    · rw [toList_joined_cons, htext, hgap, String.toList_ofList]
    · rw [List.map_cons, List.map_cons, hgaps]
    · rw [String.toList_ofList, ← Word.bytes_toList p.gap]
      exact hword
    · rw [hbytes]
      exact hwords

end SpacedWord

/-- **The words of a text in other case** are its words in other case, at the same places. -/
theorem Word.split_recased {free : Nat → Prop} {text text' : String} {words : List Word}
    (hsplit : split text = .ok words) (h : RecasedAt free 0 text.toList text'.toList) :
    ∃ words', split text' = .ok words' ∧
      List.Forall₂ (fun w w' : Word => w'.position = w.position ∧
        RecasedAt free w.position w.text.toList w'.text.toList) words words' := by
  obtain ⟨l, rfl, rfl⟩ := split_eq_ok_iff.1 hsplit
  obtain ⟨pieces', htext, hgaps, hwords⟩ := SpacedWord.exists_recased l.tail_blank h
  have hapart : ∀ p ∈ pieces'.tail, p.gap ≠ "" := by
    intro p hp
    have hmem : p.gap ∈ (l.pieces.map SpacedWord.gap).tail := by
      rw [← hgaps, ← List.map_tail]
      exact List.mem_map_of_mem hp
    rw [← List.map_tail] at hmem
    obtain ⟨q, hq, hgap⟩ := List.mem_map.1 hmem
    rw [← hgap]
    exact l.apart q hq
  refine ⟨_, split_eq_ok_iff.2 ⟨⟨pieces', l.tail, hapart, l.tail_blank⟩, ?_, rfl⟩, hwords⟩
  exact String.toList_inj.1 htext

/-! ## §3. Tokens -/

namespace Token

variable {t : Token}

/-- A token that says under which name to save is a key and the name behind a colon. -/
theorem save_parts {values : List String} (hkind : t.kind = .directive "save" values)
    (hclassify : classify t.raw t.position = .ok t.kind) :
    ∃ key rest, t.raw.toList = key ++ ':' :: rest ∧ Text.fold key = "save".toList ∧
      Word.bytes key = t.keywordBytes ∧ Form.directiveValues? rest = some values := by
  rw [hkind] at hclassify
  obtain ⟨key, rest, hword, _, hkey, hvalues⟩ := parts_of_classify_directive hclassify
  have hrecased : Recased key "save".toList := Text.fold_eq_iff.1 (hkey.trans rfl)
  refine ⟨key, rest, hword, hkey, ?_, hvalues⟩
  unfold keywordBytes
  rw [Word.bytes_recased hrecased, Word.bytes_toList, hkind]
  rfl

theorem keywordBytes_le (h : t.SaysItsWord) : t.keywordBytes ≤ t.raw.utf8ByteSize := by
  cases hkind : t.kind with
  | directive name values =>
    by_cases hsave : name = "save"
    · obtain rfl := hsave
      have hclassify := h.classify_of_ne_domain (by simp [hkind])
      obtain ⟨key, rest, hword, _, hbytes, _⟩ := save_parts hkind hclassify
      rw [← hbytes, ← Word.bytes_toList, hword, Word.bytes_append]
      exact Nat.le_add_right _ _
    · simp [keywordBytes, hkind, hsave]
  | _ => simp [keywordBytes, hkind]

section

variable {free : Nat → Prop} {raw' : String} (hclassify : classify t.raw t.position = .ok t.kind)
  (hfree : ∀ place, t.position + t.keywordBytes ≤ place →
    place < t.position + t.raw.utf8ByteSize → ¬ free place)
  (h : RecasedAt free t.position t.raw.toList raw'.toList)

include hclassify hfree h

/-- The name to save under is out of reach. -/
theorem save_of_recased {values : List String} (hkind : t.kind = .directive "save" values) :
    classify raw' t.position = .ok t.kind := by
  obtain ⟨key, rest, hword, hfold, hbytes, hvalues⟩ := save_parts hkind hclassify
  rw [hword] at h
  obtain ⟨key', rest', hword', hkey', hrest⟩ := h.exists_append
  obtain rfl : rest' = ':' :: rest := by
    refine hrest.eq_of_not_free fun place hfrom hto => hfree place (by omega) ?_
    rw [← Word.bytes_toList, hword, Word.bytes_append]
    omega
  have hfold' : Text.fold key' = "save".toList := (Text.fold_eq_iff.2 hkey'.recased.symm).trans hfold
  have hkey : IsKey key' := Form.isKey_of_fold hfold' (by decide)
  rw [classify_keyed hword' hkey (by rw [hfold']; decide) (by rw [hfold']; decide), hvalues, hfold',
    hkind]
  rfl

/-- **A token with its keyword in other case** says the same, or the same in other case. -/
theorem respelled_of_recased :
    ∃ kind', classify raw' t.position = .ok kind' ∧ t.kind.Respelled kind' := by
  have hunchanged : t.keywordBytes = 0 → classify raw' t.position = .ok t.kind := by
    intro hnone
    obtain rfl : raw' = t.raw := by
      refine String.toList_inj.1 (h.eq_of_not_free fun place hfrom hto => hfree place (by omega) ?_)
      rwa [Word.bytes_toList] at hto
    exact hclassify
  have hsaid := classify_recased h.recased t.position
  rw [hclassify] at hsaid
  generalize hsaid' : classify raw' t.position = said' at hsaid hunchanged
  cases hsaid with
  | @ok _ kind' hrecased =>
    generalize hkind : t.kind = kind at hrecased hunchanged
    cases hrecased with
    | projectRef | tagExpr | textTerm =>
      exact ⟨_, hunchanged (by simp [keywordBytes, hkind]), .filter nofun nofun⟩
    | dateExpr | overdue | statusExpr => exact ⟨_, rfl, .filter nofun nofun⟩
    | priorityExpr hexpr => exact ⟨_, rfl, .priorityExpr hexpr⟩
    | @directive name values values' hvalues =>
      refine ⟨_, rfl, .directive hvalues ?_⟩
      rintro rfl
      have hsame := save_of_recased hclassify hfree h hkind
      rw [hsaid', hkind] at hsame
      exact (TokenKind.directive.inj (Except.ok.inj hsame)).2

end

end Token

/-! ## §4. Texts -/

section

variable {text text' : String} {tokens : List Token} {t : Token}

/-- Two tokens of a text that share a place are one. -/
theorem eq_of_shared_place (hlex : lex text = .ok tokens) {u : Token} (ht : t ∈ tokens)
    (hu : u ∈ tokens) {place : Nat}
    (htp : t.position ≤ place ∧ place < t.position + t.raw.utf8ByteSize)
    (hup : u.position ≤ place ∧ place < u.position + u.raw.utf8ByteSize) : t = u := by
  have hpairwise := List.pairwise_iff_getElem.1 (pairwise_of_lex hlex)
  obtain ⟨i, hi, rfl⟩ := List.getElem_of_mem ht
  obtain ⟨j, hj, rfl⟩ := List.getElem_of_mem hu
  rcases Nat.lt_trichotomy i j with hij | rfl | hji
  · have := hpairwise i j hi hj hij
    omega
  · rfl
  · have := hpairwise j i hj hi hji
    omega

/-- Behind its keyword a token has no place that belongs to another keyword. -/
theorem not_inKeyword (hlex : lex text = .ok tokens) (ht : t ∈ tokens) (place : Nat)
    (hfrom : t.position + t.keywordBytes ≤ place)
    (hto : place < t.position + t.raw.utf8ByteSize) : ¬ InKeyword tokens place := by
  rintro ⟨u, hu, hufrom, huto⟩
  have hle := Token.keywordBytes_le (saysItsWord_of_lex hlex u hu)
  obtain rfl : t = u := eq_of_shared_place hlex ht hu ⟨by omega, hto⟩ ⟨hufrom, by omega⟩
  omega

section

variable {first : Token} {rest : List Token} (hlex : lex text = .ok (first :: rest))

include hlex

/-- The token of a word behind the first one. -/
theorem exists_ofWord_of_recased (ht : t ∈ rest) {w : Word} (hplace : w.position = t.position)
    (hw : RecasedAt (InKeyword (first :: rest)) t.position t.raw.toList w.text.toList) :
    ∃ t', Token.ofWord w = .ok t' ∧ t.kind.Respelled t'.kind := by
  have hclassify := Token.ofWord_eq_ok_iff.1 ((Token.ofWord_of_lex hlex).2 t ht)
  have hfree := not_inKeyword hlex (List.mem_cons_of_mem first ht)
  obtain ⟨kind, hkind, hrespelled⟩ := Token.respelled_of_recased hclassify hfree hw
  rw [← hplace] at hkind
  exact ⟨_, map_eq_ok.2 ⟨kind, hkind, rfl⟩, hrespelled⟩

/-- **The tokens of a text with its keywords in other case**: the same domain, and tokens that say what
the others do, one by one. -/
theorem lex_respelled {domain : Domain} (hdomain : first.kind = .domain domain)
    (h : RecasedAt (InKeyword (first :: rest)) 0 text.toList text'.toList) :
    ∃ first' rest', lex text' = .ok (first' :: rest') ∧ first'.kind = .domain domain ∧
      List.Forall₂ (fun t t' : Token => t.kind.Respelled t'.kind) rest rest' := by
  obtain ⟨words, hsplit, hwords⟩ := Word.split_recased (split_of_lex hlex) h
  rw [List.forall₂_map_left_iff] at hwords
  obtain ⟨w, ws, ⟨_, hw⟩, hws, rfl⟩ := List.forall₂_cons_left_iff.1 hwords
  have hfirst : Token.ofFirstWord w = .ok ⟨.domain domain, w.text, w.position⟩ := by
    have hkeyword := Token.ofKeyword?_of_ofFirstWord (Token.ofWord_of_lex hlex).1 hdomain
    unfold Token.ofFirstWord
    rw [← Domain.ofKeyword?_recased hw.recased, hkeyword]
  have hmem := (List.forall₂_and_left _ _).2 ⟨fun t (ht : t ∈ rest) => ht, hws⟩
  obtain ⟨rest', hrest', hrespelled⟩ := exists_mapM_eq_ok <| hmem.imp fun t w ht =>
    exists_ofWord_of_recased (t := t) (w := w) hlex ht.1 ht.2.1 ht.2.2
  refine ⟨⟨.domain domain, w.text, w.position⟩, rest', ?_, rfl, hrespelled⟩
  refine bind_eq_ok.2 ⟨w :: ws, hsplit, ?_⟩
  exact bind_eq_ok.2 ⟨_, hfirst, bind_eq_ok.2 ⟨_, hrest', rfl⟩⟩

end

end

/-- **KEYWORDS ARE KNOWN IN ANY CASE.** Where a text compiles to a query, the case of ASCII letters can
be changed at any places in its keywords, and the text that comes out compiles to the same query. The
keywords are the domain word, the words of filters on dates, states and priorities, and directives with
their keys and values; names of projects and tags, terms of a search and the name behind `save:` are
none, and stay as they are. -/
theorem keywords_case_insensitive {text text' : String} {tokens : List Token} {q : Query}
    (hlex : lex text = .ok tokens) (hq : compileText text = .ok (.ready q))
    (h : RecasedAt (InKeyword tokens) 0 text.toList text'.toList) :
    compileText text' = .ok (.ready q) := by
  have hcompile : compile tokens = .ok (.ready q) := by
    unfold compileText at hq
    rwa [hlex] at hq
  obtain ⟨hname, domain, raw, position, rest, rfl, hrest⟩ := compile_ready hcompile
  obtain ⟨first', rest', hlex', hdomain, hrespelled⟩ := lex_respelled hlex rfl h
  have hload : ∀ t ∈ rest', t.isDirective "load" = false := by
    refine not_load_respelled hrespelled fun t ht => ?_
    exact not_load_of_loadName? hname t (List.mem_cons_of_mem _ ht)
  unfold compileText
  rw [hlex']
  show compile (first' :: rest') = _
  rw [compile_domain hdomain hload, Query.ofTokens_respelled hrespelled hrest]
  rfl

/-- A domain word with a Kelvin sign in it, which is no letter of ASCII and stays as it is, and keywords
between a project, a term that ends in a sigma and a name to save under. -/
theorem keywords_case_insensitive_kelvin :
    let text := "tas\u212As @Home due:Eow ΑΣ sort:due- save:\"My p1\""
    let text' := "TaS\u212AS @Home DUE:eOW ΑΣ Sort:DUE- sAvE:\"My p1\""
    let tokens : List Token := [⟨.domain .task, "tas\u212As", 0⟩, ⟨.projectRef "Home", "@Home", 8⟩,
      ⟨.dateExpr "eow", "due:Eow", 14⟩, ⟨.textTerm "ΑΣ", "ΑΣ", 22⟩,
      ⟨.directive "sort" ["due-"], "sort:due-", 27⟩,
      ⟨.directive "save" ["My p1"], "save:\"My p1\"", 37⟩]
    let q : Query :=
      { domain := .task
        filters := [.project "Home", .due .endOfWeek, .text "ΑΣ"]
        directives := { sort := [⟨"due", .descending⟩], save := some "My p1" } }
    lex text = .ok tokens ∧ compileText text = .ok (.ready q) ∧
      RecasedAt (InKeyword tokens) 0 text.toList text'.toList ∧
      compileText text' = .ok (.ready q) := by
  intro text text' tokens q
  have hlex : lex text = .ok tokens := by decide +kernel +revert
  have hq : compileText text = .ok (.ready q) := by decide +kernel +revert
  have h : RecasedAt (InKeyword tokens) 0 text.toList text'.toList := by decide +kernel +revert
  exact ⟨hlex, hq, h, keywords_case_insensitive hlex hq h⟩

end Agenda
