import Agenda.Proofs.Query.Lexing
import Agenda.Proofs.Query.Steps
import Agenda.Proofs.Query.Words

/-!
# Names of saved queries

The name behind `save:` has lost its quotes, so it can be quoted again: behind `load:` and in quotes
it is one word and one value, whatever else stands in it, and the word asks for that name.

Main results:
  * `saveName_unquoted` — no name that a query is saved under holds a quote;
  * `compileText_loadText` — a quoted name behind `load:` is that name.
-/

namespace Agenda

/-! ## §1. The name behind `save:` -/

/-- Whether the name to save under, if there is one, is free of quotes. -/
def Directives.SavesUnquoted (d : Directives) : Prop :=
  ∀ name, d.save = some name → '"' ∉ name.toList

namespace Directives

variable {d d' : Directives} {domain : Domain}

@[simp] theorem save_imply {schema : Schema} {name : String} :
    (d.imply schema name).save = d.save := by
  rw [imply_frame]

/-- A loop of steps that do not touch the name does not touch it. -/
theorem save_foldlM {f : Directives → String → Except QueryError Directives}
    (hf : ∀ d value d', f d value = .ok d' → d'.save = d.save) {values : List String}
    (h : values.foldlM f d = .ok d') : d'.save = d.save := by
  refine foldlM_preserves (P := fun c => c.save = d.save) ?_ rfl h
  intro value _ c c' hc hstep
  rw [hf c value c' hstep, hc]

theorem save_addColumn {value : String} (h : addColumn domain d value = .ok d') :
    d'.save = d.save := by
  obtain ⟨_, rfl⟩ := addColumn_eq_ok.1 h
  exact save_imply

theorem save_addSortKey {value : String} (h : addSortKey domain d value = .ok d') :
    d'.save = d.save := by
  obtain ⟨key, _, rfl⟩ := addSortKey_eq_ok.1 h
  exact save_imply

theorem save_addMetric {value : String} (h : addMetric domain d value = .ok d') :
    d'.save = d.save := by
  obtain ⟨_, rfl⟩ := addMetric_eq_ok.1 h
  rfl

theorem save_addRelation {value : String} (h : addRelation domain d value = .ok d') :
    d'.save = d.save := by
  obtain ⟨_, rfl⟩ := addRelation_eq_ok.1 h
  rfl

/-- A directive leaves the name as it is, or sets it to its only value. -/
theorem save_add {token : Token} {key : String} {values : List String}
    (h : d.add domain token key values = .ok d') :
    d'.save = d.save ∨ ∃ name k, token.kind = .directive k [name] ∧ d'.save = some name := by
  rcases add_cases h with ⟨_, h⟩ | ⟨_, h⟩ | ⟨_, h⟩ | ⟨_, h⟩ | ⟨_, _, _, _, _, _, _, rfl⟩ |
    ⟨_, _, _, _, _, _, _, rfl⟩ | ⟨_, _, name, k, hname, rfl⟩
  case inl =>
    have hsave := save_foldlM (fun _ _ _ => save_addColumn) h
    exact .inl hsave
  case inr.inl => exact .inl (save_foldlM (fun _ _ _ => save_addSortKey) h)
  case inr.inr.inl => exact .inl (save_foldlM (fun _ _ _ => save_addMetric) h)
  case inr.inr.inr.inl => exact .inl (save_foldlM (fun _ _ _ => save_addRelation) h)
  case inr.inr.inr.inr.inl => exact .inl rfl
  case inr.inr.inr.inr.inr.inl => exact .inl rfl
  case inr.inr.inr.inr.inr.inr => exact .inr ⟨name, k, hname, rfl⟩

theorem SavesUnquoted.add {token : Token} {key : String} {values : List String}
    (hd : d.SavesUnquoted) (htoken : token.kind.WellFormed)
    (h : d.add domain token key values = .ok d') : d'.SavesUnquoted := by
  intro name hname
  -- a name that is new is a value of the token, and those have lost their quotes
  rcases save_add h with hsame | ⟨value, k, hkind, hvalue⟩
  · exact hd name (hsame ▸ hname)
  · obtain rfl : value = name := Option.some.inj (hvalue.symm.trans hname)
    rw [hkind] at htoken
    exact htoken.2 value List.mem_cons_self

end Directives

theorem Query.addToken_savesUnquoted {q q' : Query} {token : Token}
    (hq : q.directives.SavesUnquoted) (htoken : token.kind.WellFormed)
    (h : q.addToken token = .ok q') : q'.directives.SavesUnquoted := by
  rcases addToken_cases h with ⟨_, _, _, _, _, rfl⟩ | ⟨key, values, d, _, hd, rfl⟩
  · exact hq
  · exact hq.add htoken hd

/-- **No name that a query is saved under holds a quote.** -/
theorem saveName_unquoted {text : String} {q : Query} (h : compileText text = .ok (.ready q)) :
    q.directives.SavesUnquoted := by
  obtain ⟨domain, raw, position, rest, hlex, hq⟩ := compileText_ready h
  have htokens := lex_wellFormed hlex
  have hstart : ({ domain } : Query).directives.SavesUnquoted := by
    intro name hname
    cases hname
  refine foldlM_preserves (P := fun q : Query => q.directives.SavesUnquoted) ?_ hstart hq
  intro token htoken q q' hq h
  exact Query.addToken_savesUnquoted hq (htokens token (List.mem_cons_of_mem _ htoken)) h

/-! ## §2. A quoted name behind `load:` -/

/-- The text that loads the query saved under a name. -/
def loadText (name : String) : String :=
  "load:\"" ++ name ++ "\""

theorem toList_loadText (name : String) :
    (loadText name).toList = 'l' :: 'o' :: 'a' :: 'd' :: ':' :: '"' :: (name.toList ++ ['"']) := by
  unfold loadText
  rw [String.toList_append, String.toList_append]
  rfl

/-- Inside a quote nothing ends a word, and the closing quote does not end it either. -/
theorem Word.scan_quoted {start opened offset : Nat} {read fragment cs : List Char}
    (h : '"' ∉ cs) : scan (.quoted start read opened fragment) offset (cs ++ ['"']) =
      .ok [ofRead start ('"' :: (cs.reverse ++ read))] := by
  rw [scan_in_quote h]
  rfl

theorem split_loadText {name : String} (h : '"' ∉ name.toList) :
    Word.split (loadText name) = .ok [⟨0, loadText name⟩] := by
  have hscan : Word.scan .between 0 (loadText name).toList =
      .ok [Word.ofRead 0 ('"' :: (name.toList.reverse ++ ['"', ':', 'd', 'a', 'o', 'l']))] := by
    rw [toList_loadText]
    exact Word.scan_quoted h
  have hread : ('"' :: (name.toList.reverse ++ ['"', ':', 'd', 'a', 'o', 'l'])).reverse =
      (loadText name).toList := by
    rw [toList_loadText]
    simp
  unfold Word.split
  rw [hscan, Word.ofRead, hread, String.ofList_toList]

/-- Commas inside a quote separate nothing. -/
theorem Form.entries?_quoted : ∀ {cs read : List Char}, '"' ∉ cs →
    entries? true read (cs ++ ['"']) = some [read.reverse ++ cs ++ ['"']]
  | [], read, _ => by
    show some [('"' :: read).reverse] = _
    simp
  | c :: cs, read, h => by
    obtain ⟨hc, hcs⟩ := not_or.1 (mt List.mem_cons.2 h)
    rw [List.cons_append, entries?, if_neg (Ne.symm hc), if_neg (by simp), entries?_quoted hcs]
    simp

theorem unquoted_quoted {cs : List Char} (h : '"' ∉ cs) :
    unquoted ('"' :: (cs ++ ['"'])) = String.ofList cs := by
  have hfilter : cs.filter (· != '"') = cs := by
    rw [List.filter_eq_self]
    intro c hc
    have hne : c ≠ '"' := fun heq => h (heq ▸ hc)
    simpa using hne
  unfold unquoted
  rw [List.filter_cons_of_neg (by simp), List.filter_append, hfilter]
  simp

theorem Form.directiveValues?_quoted {cs : List Char} (h : '"' ∉ cs) :
    directiveValues? ('"' :: (cs ++ ['"'])) = some [String.ofList cs] := by
  have hentries : entries? false [] ('"' :: (cs ++ ['"'])) = some ['"' :: (cs ++ ['"'])] :=
    entries?_quoted h
  unfold directiveValues?
  rw [hentries]
  show some [unquoted _] = _
  rw [unquoted_quoted h]

/-- The key of the word is not that of a filter. -/
theorem classify_loadText {name : String} (h : '"' ∉ name.toList) :
    classify (loadText name) 0 = .ok (.directive "load" [name]) := by
  have hword : (loadText name).toList =
      ['l', 'o', 'a', 'd'] ++ ':' :: '"' :: (name.toList ++ ['"']) := toList_loadText name
  rw [classify_keyed hword (by decide) (by decide) (by decide), Form.directiveValues?_quoted h,
    String.ofList_toList]
  rfl

theorem ofKeyword?_loadText (name : String) : Domain.ofKeyword? (loadText name) = none :=
  Domain.ofKeyword?_eq_none_of_quote (by simp [toList_loadText])

theorem lex_loadText {name : String} (h : '"' ∉ name.toList) :
    lex (loadText name) = .ok [⟨.directive "load" [name], loadText name, 0⟩] := by
  have hfirst : Token.ofFirstWord ⟨0, loadText name⟩ =
      .ok ⟨.directive "load" [name], loadText name, 0⟩ := by
    unfold Token.ofFirstWord Token.ofWord
    dsimp only
    rw [ofKeyword?_loadText, classify_loadText h]
    rfl
  have hwords : Token.ofWords [⟨0, loadText name⟩] =
      .ok [⟨.directive "load" [name], loadText name, 0⟩] := bind_eq_ok.2 ⟨_, hfirst, rfl⟩
  exact bind_eq_ok.2 ⟨_, split_loadText h, hwords⟩

/-- **A quoted name behind `load:` is that name**, whatever stands in it. -/
theorem compileText_loadText {name : String} (h : '"' ∉ name.toList) :
    compileText (loadText name) = .ok (.load name []) := by
  unfold compileText
  rw [lex_loadText h]
  rfl

end Agenda
