import Agenda.Proofs.Outcomes
import Agenda.Proofs.Query.DirectiveValues

/-!
# What lexing promises

A directive that comes out of the lexer has at least one value, and none of its values holds a
double quote: the entries of a list are never empty as written, and quotes are removed from them.
The compiler relies on the first part (a `cols:` token always names a column); the second part lets
a value be quoted again.

Main results:
  * `saysItsWord_of_lex` — every token of a lexed text says what its word says;
  * `Token.SaysItsWord.classify_of_quote` — a word with a quote in it is no domain word;
  * `lex_wellFormed` — every directive among them keeps the promise.
-/

namespace Agenda

/-- What the lexer promises of the values of a directive. -/
def TokenKind.WellFormed : TokenKind → Prop
  | .directive _ values => values ≠ [] ∧ ∀ v ∈ values, '"' ∉ v.toList
  | _ => True

theorem quote_not_mem_unquoted (cs : List Char) : '"' ∉ (unquoted cs).toList := by
  unfold unquoted
  rw [String.toList_ofList]
  intro h
  have := (List.mem_filter.1 h).2
  simp at this

namespace Form

/-! ## §1. The values of a directive -/

theorem directiveValues?_wellFormed {cs : List Char} {values : List String} (name : String)
    (h : directiveValues? cs = some values) : (TokenKind.directive name values).WellFormed := by
  obtain ⟨es, hcut, _, _, rfl⟩ := directiveValues?_eq_some_iff.1 h
  refine ⟨?_, ?_⟩
  · intro hnil
    exact hcut.ne_nil (List.map_eq_nil_iff.1 hnil)
  · intro v hv
    obtain ⟨e, _, rfl⟩ := List.mem_map.1 hv
    exact quote_not_mem_unquoted e

end Form

/-! ## §2. Words -/

theorem classify_wellFormed {word : String} {position : Nat} {kind : TokenKind}
    (h : classify word position = .ok kind) : kind.WellFormed := by
  have hsays := says_classify word position
  rw [h] at hsays
  cases hsays with
  | directive _ _ hvalues => exact Form.directiveValues?_wellFormed _ hvalues
  | _ => trivial

/-! ## §3. Texts -/

/-- A quote has no case. -/
theorem Text.quote_mem_lowerAfter :
    ∀ {before cs : List Char}, '"' ∈ cs → '"' ∈ lowerAfter before cs
  | before, c :: cs, h => by
    rw [lowerAfter, List.mem_append]
    rcases List.mem_cons.1 h with rfl | h
    · exact .inl List.mem_cons_self
    · exact .inr (quote_mem_lowerAfter h)

theorem Domain.ofKeyword?_eq_none_of_quote {word : String} (h : '"' ∈ word.toList) :
    ofKeyword? word = none := by
  have hlower : '"' ∈ (Text.lower word).toList := by
    unfold Text.lower
    rw [String.toList_ofList]
    exact Text.quote_mem_lowerAfter h
  unfold ofKeyword?
  split
  case h_7 => rfl
  all_goals
    next heq =>
      rw [heq] at hlower
      simp at hlower

namespace Token

/-- What the token says is what its word says, or the domain that its word names. -/
def SaysItsWord (t : Token) : Prop :=
  classify t.raw t.position = .ok t.kind ∨
    ∃ domain, Domain.ofKeyword? t.raw = some domain ∧ t.kind = .domain domain

/-- A token that is no domain says what its word is classified as. -/
theorem SaysItsWord.classify_of_ne_domain {t : Token} (h : t.SaysItsWord)
    (hkind : ∀ domain, t.kind ≠ .domain domain) : classify t.raw t.position = .ok t.kind := by
  rcases h with h | ⟨domain, _, hdomain⟩
  · exact h
  · exact absurd hdomain (hkind domain)

/-- A word with a quote in it is classified, also where a domain word may stand. -/
theorem SaysItsWord.classify_of_quote {t : Token} (h : t.SaysItsWord) (hquote : '"' ∈ t.raw.toList) :
    classify t.raw t.position = .ok t.kind := by
  rcases h with h | ⟨domain, hdomain, _⟩
  · exact h
  · rw [Domain.ofKeyword?_eq_none_of_quote hquote] at hdomain
    cases hdomain

theorem saysItsWord_of_ofWord {w : Word} {t : Token} (h : ofWord w = .ok t) : t.SaysItsWord := by
  obtain ⟨kind, hkind, rfl⟩ := map_eq_ok.1 h
  exact .inl hkind

theorem saysItsWord_of_ofFirstWord {w : Word} {t : Token} (h : ofFirstWord w = .ok t) :
    t.SaysItsWord := by
  unfold ofFirstWord at h
  split at h
  next domain hdomain =>
    obtain rfl := Except.ok.inj h
    exact .inr ⟨domain, hdomain, rfl⟩
  next => exact saysItsWord_of_ofWord h

theorem saysItsWord_of_ofWords {words : List Word} {tokens : List Token}
    (h : ofWords words = .ok tokens) : ∀ t ∈ tokens, t.SaysItsWord := by
  cases words with
  | nil =>
    obtain rfl := Except.ok.inj h
    exact nofun
  | cons first rest =>
    obtain ⟨t, ht, h⟩ := bind_eq_ok.1 h
    obtain ⟨ts, hts, h⟩ := bind_eq_ok.1 h
    obtain rfl : t :: ts = tokens := Except.ok.inj h
    intro u hu
    rcases List.mem_cons.1 hu with rfl | hu
    · exact saysItsWord_of_ofFirstWord ht
    · exact forall_mem_of_mapM_eq_ok (fun _ _ h => saysItsWord_of_ofWord h) hts u hu

end Token

/-- Every token of a lexed text says what its word says. -/
theorem saysItsWord_of_lex {text : String} {tokens : List Token} (h : lex text = .ok tokens) :
    ∀ t ∈ tokens, t.SaysItsWord := by
  obtain ⟨words, _, hwords⟩ := bind_eq_ok.1 h
  exact Token.saysItsWord_of_ofWords hwords

/-- Only a domain word says a domain. -/
theorem Token.ofKeyword?_of_ofFirstWord {w : Word} {t : Token} {domain : Domain}
    (h : ofFirstWord w = .ok t) (hkind : t.kind = .domain domain) :
    Domain.ofKeyword? w.text = some domain := by
  unfold ofFirstWord at h
  split at h
  next d hd =>
    obtain rfl := Except.ok.inj h
    obtain rfl := TokenKind.domain.inj hkind
    exact hd
  next =>
    obtain ⟨kind, hclassify, rfl⟩ := map_eq_ok.1 h
    obtain rfl : kind = .domain domain := hkind
    have hsays := says_classify w.text w.position
    rw [hclassify] at hsays
    cases hsays

/-- **Every directive of a lexed text has values, and none of them holds a quote.** -/
theorem lex_wellFormed {text : String} {tokens : List Token} (h : lex text = .ok tokens) :
    ∀ t ∈ tokens, t.kind.WellFormed := by
  intro t ht
  rcases saysItsWord_of_lex h t ht with hclassify | ⟨domain, _, hkind⟩
  · exact classify_wellFormed hclassify
  · rw [hkind]
    trivial

end Agenda
