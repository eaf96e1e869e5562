import Agenda.Proofs.Query.NameResolution
import Agenda.Proofs.Query.PriorityExpressions
import Agenda.Proofs.Query.WordCase

/-!
# Tokens in other case

What is compiled of a token is the same when its keyword is in other case. Most filters say nothing
else than before; a priority that is read has no letters to change. The names in directives are looked
up in lower case, and so is the view, and the sign of a sort key is no letter.

Main results:
  * `Naming.step_recased` — one value of a directive;
  * `Directives.add_respelled` — one directive;
  * `Query.addToken_respelled`, `Query.ofTokens_respelled` — one token, and all of them.
-/

namespace Agenda

open Text (Recased)
open Form (ValuesRecased)

/-! ## §1. Values -/

namespace PriorityExpression

theorem Sign.not_isAlpha {sign : List Char} {relation : Nat → Nat → Prop}
    (h : Sign sign relation) : ∀ c ∈ sign, c.isAlpha = false := by
  cases h <;> simp

/-- What asks for priorities has no letters. -/
theorem Asks.not_isAlpha {cs : List Char} {asked : Nat → Prop} (h : Asks cs asked) :
    ∀ c ∈ cs, c.isAlpha = false := by
  have hlevel : ∀ {ds : List Char}, Level ds → ∀ c ∈ ds, c.isAlpha = false :=
    fun hds c hc => Text.not_isAlpha_of_isDigit (hds.numeral.2 c hc)
  cases h with
  | between has hbs _ =>
    intro c hc
    simp only [List.mem_append, List.mem_cons] at hc
    rcases hc with hc | rfl | rfl | hc
    · exact hlevel has c hc
    · rfl
    · rfl
    · exact hlevel hbs c hc
  | compared hsign hds =>
    intro c hc
    rcases List.mem_append.1 hc with hc | hc
    · exact hsign.not_isAlpha c hc
    · exact hlevel hds c hc

theorem eq_of_recased {expr expr' : String} {c : Clause} (hread : read? expr = some c)
    (h : Recased expr.toList expr'.toList) : expr' = expr := by
  obtain ⟨asked, hasks⟩ := exists_asks_of_read? hread
  exact String.toList_inj.1 (h.eq_of_not_alpha hasks.not_isAlpha)

end PriorityExpression

/-- What ends in a sign does so in any case. -/
theorem exists_append_of_recased {front value' : String} (sign : Char) (hsign : sign.isAlpha = false)
    (h : Recased (front ++ String.singleton sign).toList value'.toList) :
    ∃ front', value' = front' ++ String.singleton sign ∧ Recased front.toList front'.toList := by
  rw [String.toList_append, String.toList_singleton] at h
  obtain ⟨front', last, hvalue, hfront, hlast⟩ := h.exists_append
  have hlast : last = [sign] := hlast.eq_of_not_alpha (by simpa using hsign)
  refine ⟨String.ofList front', ?_, ?_⟩
  · apply String.toList_inj.1
    rw [hvalue, hlast, String.toList_append, String.toList_ofList, String.toList_singleton]
  · rwa [String.toList_ofList]

/-- A sort key is a field and a direction, in any case. -/
theorem SortEntry.recased {value value' field : String} {direction : Direction}
    (h : SortEntry value field direction) (hvalue : Recased value.toList value'.toList) :
    ∃ field', SortEntry value' field' direction ∧ Recased field.toList field'.toList := by
  cases h with
  | descending =>
    obtain ⟨field', rfl, hfield⟩ := exists_append_of_recased '-' rfl hvalue
    exact ⟨field', .descending field', hfield⟩
  | ascending =>
    obtain ⟨field', rfl, hfield⟩ := exists_append_of_recased '+' rfl hvalue
    exact ⟨field', .ascending field', hfield⟩
  | unsigned _ minus plus =>
    refine ⟨value', .unsigned value' ?_ ?_, hvalue⟩
    · rintro front rfl
      obtain ⟨front', hfront, _⟩ := exists_append_of_recased '-' rfl hvalue.symm
      exact minus front' hfront
    · rintro front rfl
      obtain ⟨front', hfront, _⟩ := exists_append_of_recased '+' rfl hvalue.symm
      exact plus front' hfront

namespace Naming

/-- A value has one effect in any case. -/
theorem step_recased (n : Naming) (domain : Domain) (d : Directives) {value value' : String}
    (h : Recased value.toList value'.toList) : n.step domain d value = n.step domain d value' := by
  have hlower := Text.lower_eq_of_recased h
  cases n with
  | cols =>
    show d.addColumn domain value = d.addColumn domain value'
    unfold Directives.addColumn Domain.column
    rw [hlower]
  | sort =>
    rcases hsplit : splitDirection value with ⟨field, direction⟩
    obtain ⟨field', hentry, hfield⟩ := (splitDirection_eq_iff.1 hsplit).recased h
    show d.addSortKey domain value = d.addSortKey domain value'
    unfold Directives.addSortKey Domain.sortKey
    rw [hsplit, splitDirection_eq_iff.2 hentry]
    dsimp only
    rw [Text.lower_eq_of_recased hfield]
  | metrics =>
    show d.addMetric domain value = d.addMetric domain value'
    unfold Directives.addMetric Domain.metric
    rw [hlower]
  | relations =>
    show d.addRelation domain value = d.addRelation domain value'
    unfold Directives.addRelation Domain.relation
    rw [hlower]
  | group =>
    show (domain.groupField value).map _ = (domain.groupField value').map _
    unfold Domain.groupField
    rw [hlower]

theorem foldlM_step_recased (n : Naming) (domain : Domain) (d : Directives)
    {values values' : List String} (h : ValuesRecased values values') :
    values.foldlM (n.step domain) d = values'.foldlM (n.step domain) d := by
  induction h generalizing d with
  | nil => rfl
  | cons hvalue _ ih =>
    rw [List.foldlM_cons, List.foldlM_cons, step_recased n domain d hvalue]
    exact congrArg _ (funext ih)

end Naming

theorem View.ofValue_recased {value value' : String} {view : View}
    (h : Recased value.toList value'.toList) (hview : ofValue value = .ok view) :
    ofValue value' = .ok view := by
  have hname : ofName? value = ofName? value' := by
    unfold ofName?
    rw [Text.lower_eq_of_recased h]
  unfold ofValue at hview ⊢
  rw [hname] at hview
  split at hview
  · exact hview
  · cases hview

/-! ## §2. Tokens -/

/-- What the word of a token may say in other case: a filter says the same, but for the priorities as
they are written, and a directive has values in other case, unless they are a name to save under. -/
inductive TokenKind.Respelled : TokenKind → TokenKind → Prop
  | filter {kind : TokenKind} (hdomain : ∀ domain, kind ≠ .domain domain)
    (hdirective : ∀ name values, kind ≠ .directive name values) : Respelled kind kind
  | priorityExpr {expr expr' : String} (h : Text.Recased expr.toList expr'.toList) :
    Respelled (.priorityExpr expr) (.priorityExpr expr')
  | directive {name : String} {values values' : List String} (h : ValuesRecased values values')
    (hsave : name = "save" → values' = values) :
    Respelled (.directive name values) (.directive name values')

/-! ## §3. Compilation -/

namespace Directives

variable {domain : Domain} {d d' : Directives} {t t' : Token} {values values' : List String}

/-- A name to group by is the first one, and the only one. -/
theorem single_of_add_group (ht : t.kind = .directive "group" values)
    (h : d.add domain t "group" values = .ok d') : d.group = none ∧ ∃ v, values = [v] := by
  obtain ⟨v, hv, _⟩ := bind_eq_ok.1 h
  obtain ⟨habsent, key, hkey⟩ := onlyValue_eq_ok.1 hv
  exact ⟨by simpa using habsent, v, (TokenKind.directive.inj (ht.symm.trans hkey)).2⟩

/-- A directive that takes names does the same with names in other case. -/
theorem add_naming_recased {n : Naming} (ht : t.kind = .directive n.key values)
    (ht' : t'.kind = .directive n.key values') (hvalues : ValuesRecased values values')
    (h : d.add domain t n.key values = .ok d') : d.add domain t' n.key values' = .ok d' := by
  have honce : n = .group → d.group = none ∧ ∃ v, values = [v] := by
    rintro rfl
    exact single_of_add_group ht h
  have honce' : n = .group → d.group = none ∧ ∃ v, values' = [v] := by
    intro hgroup
    obtain ⟨hnone, v, rfl⟩ := honce hgroup
    obtain ⟨v', rfl, _⟩ := Form.exists_single_of_recased hvalues
    exact ⟨hnone, v', rfl⟩
  rw [Naming.add_eq_foldlM ht honce] at h
  rw [Naming.add_eq_foldlM ht' honce', ← Naming.foldlM_step_recased n domain _ hvalues, h]

/-- **A directive does the same with values in other case**, if they are no name to save under. -/
theorem add_respelled {key : String} (ht : t.kind = .directive key values)
    (ht' : t'.kind = .directive key values') (hvalues : ValuesRecased values values')
    (hsave : key = "save" → values' = values) (h : d.add domain t key values = .ok d') :
    d.add domain t' key values' = .ok d' := by
  rcases add_cases h with ⟨rfl, _⟩ | ⟨rfl, _⟩ | ⟨rfl, _⟩ | ⟨rfl, _⟩ | ⟨rfl, _⟩ |
    ⟨rfl, hnone, v, view, k, hk, hview, rfl⟩ | ⟨rfl, hnone, v, k, hk, rfl⟩
  · exact add_naming_recased (n := .cols) ht ht' hvalues h
  · exact add_naming_recased (n := .sort) ht ht' hvalues h
  · exact add_naming_recased (n := .metrics) ht ht' hvalues h
  · exact add_naming_recased (n := .relations) ht ht' hvalues h
  · exact add_naming_recased (n := .group) ht ht' hvalues h
  · obtain ⟨_, rfl⟩ := TokenKind.directive.inj (ht.symm.trans hk)
    obtain ⟨v', rfl, hv⟩ := Form.exists_single_of_recased hvalues
    have honly : onlyValue t' "view" d.view.isSome = .ok v' :=
      onlyValue_eq_ok.2 ⟨by rw [hnone]; rfl, _, ht'⟩
    exact bind_eq_ok.2 ⟨v', honly, bind_eq_ok.2 ⟨view, View.ofValue_recased hv hview, rfl⟩⟩
  · obtain rfl := hsave rfl
    obtain ⟨_, rfl⟩ := TokenKind.directive.inj (ht.symm.trans hk)
    have honly : onlyValue t' "save" d.save.isSome = .ok v :=
      onlyValue_eq_ok.2 ⟨by rw [hnone]; rfl, _, ht'⟩
    exact bind_eq_ok.2 ⟨v, honly, rfl⟩

end Directives

/-- A filter states its condition whatever the word is, unless it is the word that is searched for. -/
theorem Token.clause_of_kind_eq {domain : Domain} {t t' : Token} {c : Clause}
    (hkind : t'.kind = t.kind) (hdomain : ∀ d, t.kind ≠ .domain d) (h : t.clause domain = .ok c) :
    t'.clause domain = .ok c := by
  unfold clause at h ⊢
  rw [hkind]
  generalize t.kind = kind at h hdomain
  cases kind with
  | domain d => exact absurd rfl (hdomain d)
  | projectRef name =>
    dsimp only at h ⊢
    split at h
    next => cases h
    next hname => rw [if_neg hname, h]
  | priorityExpr expr =>
    dsimp only at h ⊢
    split at h
    next => exact h
    next => cases h
  | dateExpr expr =>
    dsimp only at h ⊢
    split at h
    next => exact h
    next => cases h
  | statusExpr value => exact ite_eq_ok.2 (ite_eq_ok.1 h)
  | directive => cases h
  | _ => exact h

/-- A filter that states a condition is the same with its keyword in other case. -/
theorem Token.filter_of_respelled {domain : Domain} {t t' : Token} {family : FilterKind}
    {c : Clause} (h : t.kind.Respelled t'.kind) (hfamily : t.kind.filterKind? = some family)
    (hclause : t.clause domain = .ok c) : t'.kind = t.kind ∧ ∀ d, t.kind ≠ .domain d := by
  unfold clause at hclause
  generalize t.kind = kind at h hfamily hclause
  generalize t'.kind = kind' at h
  cases h with
  | filter hdomain => exact ⟨rfl, hdomain⟩
  | priorityExpr hexpr =>
    -- an expression that is read has no letters to change
    dsimp only at hclause
    split at hclause
    next hread => exact ⟨by rw [PriorityExpression.eq_of_recased hread hexpr], nofun⟩
    next => cases hclause
  | directive => cases hfamily

/-- **What is compiled of a token** with its keyword in other case is the same. -/
theorem Query.addToken_respelled {q q' : Query} {t t' : Token} (h : t.kind.Respelled t'.kind)
    (hq : q.addToken t = .ok q') : q.addToken t' = .ok q' := by
  rcases addToken_cases hq with ⟨family, clause, hfamily, hallows, hclause, rfl⟩ |
    ⟨key, values, d, hkind, hadd, rfl⟩
  · obtain ⟨hkind, hdomain⟩ := Token.filter_of_respelled h hfamily hclause
    exact addToken_filter (hkind ▸ hfamily) hallows (Token.clause_of_kind_eq hkind hdomain hclause)
  · rw [hkind] at h
    generalize hkind' : t'.kind = kind' at h
    cases h with
    | filter _ hdirective => exact absurd rfl (hdirective key values)
    | directive hvalues hsave =>
      rw [addToken_directive hkind', Directives.add_respelled hkind hkind' hvalues hsave hadd]
      rfl

/-- The tokens of a text in other case are compiled alike. -/
theorem Query.ofTokens_respelled {domain : Domain} {q : Query} {tokens tokens' : List Token}
    (h : List.Forall₂ (fun t t' : Token => t.kind.Respelled t'.kind) tokens tokens')
    (hq : ofTokens domain tokens = .ok q) : ofTokens domain tokens' = .ok q := by
  refine foldlM_eq_ok_of_forall₂ ?_ h hq
  intro t t' ht q q' hstep
  exact addToken_respelled ht hstep

theorem not_load_respelled {tokens tokens' : List Token}
    (h : List.Forall₂ (fun t t' : Token => t.kind.Respelled t'.kind) tokens tokens')
    (hload : ∀ t ∈ tokens, t.isDirective "load" = false) :
    ∀ t' ∈ tokens', t'.isDirective "load" = false := by
  induction h with
  | nil => exact nofun
  | @cons t t' _ _ ht _ ih =>
    obtain ⟨hhead, htail⟩ := List.forall_mem_cons.1 hload
    refine List.forall_mem_cons.2 ⟨?_, ih htail⟩
    rw [← hhead]
    unfold Token.isDirective
    generalize t.kind = kind at ht
    generalize t'.kind = kind' at ht
    cases ht <;> rfl

end Agenda
