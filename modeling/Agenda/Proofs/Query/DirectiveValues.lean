import Mathlib.Algebra.Ring.Parity
import Agenda.Proofs.Query.Classification
import Agenda.Proofs.Text.Lowering

/-!
# The values of a directive

A directive is a key, a colon and a list. The list is cut at its commas, but not at those inside of
quotes: a comma lies outside if the double quotes in front of it are even in number. Every text has
exactly one such cut (`IsCut`), whether its quotes are closed or not.

THE CUT DECIDES EVERYTHING: a list with a quote that is never closed, or with an entry that has nothing
in it, makes the directive malformed; any other list gives one value for each entry of its cut, which
is the entry without its quotes.

A cut is followed from its front: the first entry ends at the first comma outside of quotes, and the
text behind that comma is cut in turn (`isCut_cons`). The scan for the entries goes the same way.

Main results:
  * `exists_isCut`, `IsCut.unique` — every text has one cut;
  * `Form.directiveValues?_eq` — the values of a list in terms of its cut;
  * `directive_word_cut` — what a word with a key says.
-/

namespace Agenda

/-! ## §1. Cuts -/

/-- What stands in front of one of the commas that join some entries: the text of the first few of
them, but not of all. -/
def IsFront (entries : List (List Char)) (before : List Char) : Prop :=
  ∃ k, 0 < k ∧ k < entries.length ∧ before = [','].intercalate (entries.take k)

/-- A text is cut into entries at its commas that lie outside of quotes, behind an even number of
them, and nowhere else. -/
structure IsCut (cs : List Char) (entries : List (List Char)) : Prop where
  ne_nil : entries ≠ []
  joined : [','].intercalate entries = cs
  front_iff : ∀ before after, cs = before ++ ',' :: after →
    (IsFront entries before ↔ Even (before.count '"'))

/-- All commas of a stretch lie inside of quotes, where the stretch itself may begin inside of one. -/
def CommasQuoted (inQuote : Bool) (cs : List Char) : Prop :=
  ∀ before after, cs = before ++ ',' :: after → Odd (before.count '"' + inQuote.toNat)

/-! ### Entries -/

theorem intercalate_cons {e : List Char} {es : List (List Char)} (hes : es ≠ []) :
    [','].intercalate (e :: es) = e ++ ',' :: [','].intercalate es := by
  obtain ⟨e', es, rfl⟩ := List.exists_cons_of_ne_nil hes
  rw [List.intercalate_cons_cons, List.append_assoc]
  rfl

theorem not_isFront_singleton {e before : List Char} : ¬ IsFront [e] before := by
  intro ⟨k, hpos, hk, _⟩
  rw [List.length_singleton] at hk
  omega

/-- The first comma stands behind the first entry, and the others join the rest of them. -/
theorem isFront_cons {e before : List Char} {es : List (List Char)} (hes : es ≠ []) :
    IsFront (e :: es) before ↔ before = e ∨ ∃ mid, before = e ++ ',' :: mid ∧ IsFront es mid := by
  have hlength : 0 < es.length := List.length_pos_iff.2 hes
  have htake : ∀ k, 0 < k → [','].intercalate ((e :: es).take (k + 1)) =
      e ++ ',' :: [','].intercalate (es.take k) := by
    intro k hpos
    rw [List.take_succ_cons, intercalate_cons]
    intro hnil
    have := congrArg List.length hnil
    rw [List.length_take, List.length_nil] at this
    omega
  constructor
  · intro ⟨k, hpos, hk, hbefore⟩
    rw [List.length_cons] at hk
    obtain ⟨k, rfl⟩ := Nat.exists_eq_succ_of_ne_zero (Nat.pos_iff_ne_zero.1 hpos)
    rcases Nat.eq_zero_or_pos k with hzero | hpos
    · left
      rw [hbefore, hzero]
      exact List.intercalate_singleton
    · right
      rw [htake k hpos] at hbefore
      exact ⟨_, hbefore, k, hpos, by omega, rfl⟩
  · intro h
    rcases h with hbefore | ⟨mid, hbefore, k, hpos, hk, hmid⟩
    · refine ⟨1, by omega, by rw [List.length_cons]; omega, ?_⟩
      rw [hbefore]
      exact (List.intercalate_singleton).symm
    · refine ⟨k + 1, by omega, by rw [List.length_cons]; omega, ?_⟩
      rw [htake k hpos, hbefore, hmid]

/-! ### The first entry -/

/-- One entry is the whole text, with all of its commas inside of quotes. -/
theorem isCut_singleton {cs e : List Char} : IsCut cs [e] ↔ e = cs ∧ CommasQuoted false cs := by
  constructor
  · intro h
    have he : e = cs := by rw [← h.joined, List.intercalate_singleton]
    refine ⟨he, fun before after hcs => ?_⟩
    show Odd (before.count '"' + 0)
    rw [Nat.add_zero, ← Nat.not_even_iff_odd, ← h.front_iff before after hcs]
    exact not_isFront_singleton
  · intro ⟨he, hquoted⟩
    refine ⟨List.cons_ne_nil _ _, by rw [List.intercalate_singleton, he], ?_⟩
    intro before after hcs
    have hodd : Odd (before.count '"' + 0) := hquoted before after hcs
    rw [Nat.add_zero, ← Nat.not_even_iff_odd] at hodd
    exact iff_of_false not_isFront_singleton hodd

/-- Behind an entry with closed quotes the counting starts again. -/
theorem even_count_behind {e mid : List Char} (he : Even (e.count '"')) :
    Even ((e ++ ',' :: mid).count '"') ↔ Even (mid.count '"') := by
  rw [List.count_append, List.count_cons_of_ne (by decide), Nat.even_add]
  exact ⟨fun h => h.1 he, fun h => iff_of_true he h⟩

/-- **The first of several entries** ends at the first comma outside of quotes, and the text behind
that comma is cut in turn. -/
theorem isCut_cons {cs e : List Char} {es : List (List Char)} (hes : es ≠ []) :
    IsCut cs (e :: es) ↔ ∃ rest, cs = e ++ ',' :: rest ∧ CommasQuoted false e ∧
      Even (e.count '"') ∧ IsCut rest es := by
  constructor
  · intro h
    have hcs : cs = e ++ ',' :: [','].intercalate es := by rw [← h.joined, intercalate_cons hes]
    have heven : Even (e.count '"') := by
      rw [← h.front_iff e _ hcs, isFront_cons hes]
      exact .inl rfl
    refine ⟨_, hcs, ?_, heven, hes, rfl, ?_⟩
    · intro before after he
      show Odd (before.count '"' + 0)
      rw [Nat.add_zero, ← Nat.not_even_iff_odd,
        ← h.front_iff before (after ++ ',' :: [','].intercalate es) (by rw [hcs, he]; simp),
        isFront_cons hes]
      -- what stands in front of a comma that joins entries is not shorter than the first of them
      have hlength := congrArg List.length he
      rw [List.length_append, List.length_cons] at hlength
      intro hfront
      rcases hfront with hbefore | ⟨mid, hbefore, _⟩
      · rw [hbefore] at hlength
        omega
      · rw [hbefore, List.length_append, List.length_cons] at hlength
        omega
    · intro before after hrest
      rw [← even_count_behind heven,
        ← h.front_iff (e ++ ',' :: before) after (by rw [hcs, hrest]; simp), isFront_cons hes]
      simp
  · intro ⟨rest, hcs, hquoted, heven, hrest⟩
    refine ⟨List.cons_ne_nil _ _, by rw [intercalate_cons hes, hrest.joined, hcs], ?_⟩
    intro before after heq
    rw [hcs] at heq
    rw [isFront_cons hes]
    -- the comma lies inside of the first entry, or ends it, or lies behind it
    rcases List.append_eq_append_iff.1 heq with ⟨mid, hbefore, hmid⟩ | ⟨mid, he, hmid⟩
    · cases mid with
      | nil =>
        rw [List.append_nil] at hbefore
        rw [hbefore]
        exact iff_of_true (.inl rfl) heven
      | cons c mid =>
        obtain ⟨hc, hmid⟩ := List.cons.inj hmid
        rw [hbefore, ← hc, even_count_behind heven, ← hrest.front_iff mid after hmid]
        simp
    · cases mid with
      | nil =>
        rw [List.append_nil] at he
        rw [← he]
        exact iff_of_true (.inl rfl) heven
      | cons c mid =>
        obtain ⟨hc, hmid⟩ := List.cons.inj hmid
        have hodd : Odd (before.count '"' + 0) := hquoted before mid (by rw [he, hc])
        rw [Nat.add_zero, ← Nat.not_even_iff_odd] at hodd
        refine iff_of_false ?_ hodd
        rw [he]
        simp

/-! ### Every text has one cut -/

/-- Whether the text behind a character is inside of quotes. -/
def quotedBehind (inQuote : Bool) (c : Char) : Bool :=
  if c = '"' then !inQuote else inQuote

theorem odd_count_cons {inQuote : Bool} {c : Char} {cs : List Char} :
    Odd ((c :: cs).count '"' + inQuote.toNat) ↔
      Odd (cs.count '"' + (quotedBehind inQuote c).toNat) := by
  unfold quotedBehind
  by_cases hc : c = '"'
  · cases inQuote <;> simp [hc, Nat.odd_add_one]
  · rw [List.count_cons_of_ne hc, if_neg hc]

theorem commasQuoted_cons {inQuote : Bool} {c : Char} {cs : List Char} :
    CommasQuoted inQuote (c :: cs) ↔
      (c = ',' → inQuote = true) ∧ CommasQuoted (quotedBehind inQuote c) cs := by
  constructor
  · intro h
    constructor
    · intro hc
      have hodd := h [] cs (by rw [hc]; rfl)
      revert hodd
      cases inQuote <;> simp
    · intro before after hcs
      rw [← odd_count_cons]
      exact h (c :: before) after (by rw [hcs]; rfl)
  · intro h before after hcs
    cases before with
    | nil =>
      obtain ⟨hc, _⟩ := List.cons.inj hcs
      simp [h.1 hc]
    | cons d before =>
      obtain ⟨hc, hrest⟩ := List.cons.inj hcs
      rw [← hc, odd_count_cons]
      exact h.2 before after hrest

/-- A text has no comma outside of quotes, or a first one. -/
theorem commasQuoted_or_first (cs : List Char) : ∀ inQuote : Bool, CommasQuoted inQuote cs ∨
    ∃ e rest, cs = e ++ ',' :: rest ∧ CommasQuoted inQuote e ∧
      ¬ Odd (e.count '"' + inQuote.toNat) := by
  induction cs with
  | nil =>
    intro inQuote
    left
    intro before after hcs
    simp at hcs
  | cons c cs ih =>
    intro inQuote
    by_cases hc : c = ',' → inQuote = true
    · rcases ih (quotedBehind inQuote c) with hall | ⟨e, rest, hcs, he, hodd⟩
      · left
        exact commasQuoted_cons.2 ⟨hc, hall⟩
      · right
        refine ⟨c :: e, rest, by rw [hcs]; rfl, commasQuoted_cons.2 ⟨hc, he⟩, ?_⟩
        rw [odd_count_cons]
        exact hodd
    · right
      obtain ⟨hcomma, hquote⟩ := Classical.not_imp.1 hc
      refine ⟨[], cs, by rw [hcomma]; rfl, fun before after h => by simp at h, ?_⟩
      simp [hquote]

/-- Every text is cut in some way. -/
theorem exists_isCut (cs : List Char) : ∃ entries, IsCut cs entries := by
  rcases commasQuoted_or_first cs false with hall | ⟨e, rest, hcs, he, hodd⟩
  · exact ⟨[cs], isCut_singleton.2 ⟨rfl, hall⟩⟩
  · have hshorter : rest.length < cs.length := by
      rw [hcs, List.length_append, List.length_cons]
      omega
    have heven : Even (e.count '"') := Nat.not_odd_iff_even.1 hodd
    obtain ⟨es, hes⟩ := exists_isCut rest
    exact ⟨e :: es, (isCut_cons hes.ne_nil).2 ⟨rest, hcs, he, heven, hes⟩⟩
termination_by cs.length

/-- A stretch with all of its commas inside of quotes has none of them behind a beginning with closed
quotes. -/
theorem CommasQuoted.not_comma {e mid : List Char} (h : CommasQuoted false (e ++ ',' :: mid)) :
    ¬ Even (e.count '"') := by
  have hodd : Odd (e.count '"' + 0) := h e mid rfl
  rw [Nat.add_zero] at hodd
  exact Nat.not_even_iff_odd.2 hodd

/-- There is only one first comma outside of quotes. -/
theorem first_comma_unique {e e' rest rest' : List Char} (he : CommasQuoted false e)
    (heven : Even (e.count '"')) (he' : CommasQuoted false e') (heven' : Even (e'.count '"'))
    (h : e ++ ',' :: rest = e' ++ ',' :: rest') : e = e' ∧ rest = rest' := by
  -- neither of the two can go on behind the comma that ends the other
  rcases List.append_eq_append_iff.1 h with ⟨mid, heq, hmid⟩ | ⟨mid, heq, hmid⟩
  · cases mid with
    | nil => exact ⟨by rw [heq, List.append_nil], (List.cons.inj hmid).2⟩
    | cons c mid =>
      rw [heq, ← (List.cons.inj hmid).1] at he'
      exact absurd heven he'.not_comma
  · cases mid with
    | nil => exact ⟨by rw [heq, List.append_nil], (List.cons.inj hmid).2.symm⟩
    | cons c mid =>
      rw [heq, ← (List.cons.inj hmid).1] at he
      exact absurd heven' he.not_comma

/-- **Every text is cut in only one way.** -/
theorem IsCut.unique : ∀ {es es' : List (List Char)} {cs : List Char},
    IsCut cs es → IsCut cs es' → es = es'
  | [], _, _, h, _ => absurd rfl h.ne_nil
  | _, [], _, _, h' => absurd rfl h'.ne_nil
  | [e], [e'], cs, h, h' => by rw [(isCut_singleton.1 h).1, (isCut_singleton.1 h').1]
  | [e], e' :: f' :: es', cs, h, h' => by
    obtain ⟨rest, hcs, _, heven, _⟩ := (isCut_cons (List.cons_ne_nil _ _)).1 h'
    have hquoted := (isCut_singleton.1 h).2
    rw [hcs] at hquoted
    exact absurd heven hquoted.not_comma
  | e :: f :: es, [e'], cs, h, h' => by
    obtain ⟨rest, hcs, _, heven, _⟩ := (isCut_cons (List.cons_ne_nil _ _)).1 h
    have hquoted := (isCut_singleton.1 h').2
    rw [hcs] at hquoted
    exact absurd heven hquoted.not_comma
  | e :: f :: es, e' :: f' :: es', cs, h, h' => by
    obtain ⟨rest, hcs, he, heven, hrest⟩ := (isCut_cons (List.cons_ne_nil _ _)).1 h
    obtain ⟨rest', hcs', he', heven', hrest'⟩ := (isCut_cons (List.cons_ne_nil _ _)).1 h'
    obtain ⟨hfirst, hbehind⟩ := first_comma_unique he heven he' heven' (hcs.symm.trans hcs')
    rw [← hbehind] at hrest'
    rw [hfirst, hrest.unique hrest']

namespace Form

/-! ## §2. The scan for the entries -/

theorem entries?_cons {inQuote : Bool} {read cs : List Char} {c : Char} :
    entries? inQuote read (c :: cs) =
      if c = ',' ∧ inQuote = false then (entries? false [] cs).map (read.reverse :: ·)
      else entries? (quotedBehind inQuote c) (c :: read) cs := by
  rw [entries?]
  unfold quotedBehind
  by_cases hc : c = '"'
  · rw [if_pos hc, if_pos hc, if_neg (by rw [hc]; simp)]
  · rw [if_neg hc, if_neg hc]

/-- A stretch without a comma outside of quotes is read on. -/
theorem entries?_stretch {e : List Char} (rest : List Char) : ∀ {inQuote : Bool} (read : List Char),
    CommasQuoted inQuote e → ∃ inside, (inside = true ↔ Odd (e.count '"' + inQuote.toNat)) ∧
      entries? inQuote read (e ++ rest) = entries? inside (e.reverse ++ read) rest := by
  induction e with
  | nil =>
    intro inQuote read _
    refine ⟨inQuote, ?_, rfl⟩
    cases inQuote <;> simp
  | cons c e ih =>
    intro inQuote read h
    obtain ⟨hc, he⟩ := commasQuoted_cons.1 h
    obtain ⟨inside, hinside, hscan⟩ := ih (c :: read) he
    refine ⟨inside, by rw [odd_count_cons]; exact hinside, ?_⟩
    rw [List.cons_append, entries?_cons, if_neg, hscan]
    · simp
    · intro ⟨hcomma, hquote⟩
      rw [hc hcomma] at hquote
      cases hquote

/-- **The scan finds the cut**, if the quotes are closed. -/
theorem entries?_eq : ∀ {es : List (List Char)} {cs : List Char}, IsCut cs es →
    entries? false [] cs = if Odd (cs.count '"') then none else some es
  | [], _, h => absurd rfl h.ne_nil
  | [e], cs, h => by
    obtain ⟨he, hquoted⟩ := isCut_singleton.1 h
    obtain ⟨inside, hinside, hscan⟩ := entries?_stretch [] [] hquoted
    rw [List.append_nil, List.append_nil] at hscan
    rw [hscan, he]
    by_cases hodd : Odd (cs.count '"')
    · rw [if_pos hodd, hinside.2 hodd]
      rfl
    · rw [if_neg hodd, Bool.eq_false_iff.2 (mt hinside.1 hodd)]
      show some [cs.reverse.reverse] = _
      rw [List.reverse_reverse]
  | e :: f :: es, cs, h => by
    obtain ⟨rest, hcs, hquoted, heven, hrest⟩ := (isCut_cons (List.cons_ne_nil _ _)).1 h
    obtain ⟨inside, hinside, hscan⟩ := entries?_stretch (',' :: rest) [] hquoted
    have houtside : inside = false :=
      Bool.eq_false_iff.2 (mt hinside.1 (Nat.not_odd_iff_even.2 heven))
    have hodd : Odd (cs.count '"') ↔ Odd (rest.count '"') := by
      rw [hcs, ← Nat.not_even_iff_odd, even_count_behind heven, Nat.not_even_iff_odd]
    rw [List.append_nil, houtside, entries?_cons, if_pos ⟨rfl, rfl⟩, List.reverse_reverse,
      entries?_eq hrest] at hscan
    rw [hcs, hscan, ← hcs]
    by_cases hopen : Odd (rest.count '"')
    · rw [if_pos hopen, if_pos (hodd.2 hopen)]
      rfl
    · rw [if_neg hopen, if_neg (mt hodd.1 hopen)]
      rfl

/-- **The values of a list** are the entries of its cut without their quotes, if the quotes are closed
and there is something in every entry. -/
theorem directiveValues?_eq {cs : List Char} {es : List (List Char)} (h : IsCut cs es) :
    directiveValues? cs =
      if Odd (cs.count '"') ∨ [] ∈ es then none else some (es.map unquoted) := by
  unfold directiveValues?
  rw [entries?_eq h]
  by_cases hodd : Odd (cs.count '"')
  · rw [if_pos hodd, if_pos (.inl hodd)]
  · rw [if_neg hodd]
    by_cases hempty : [] ∈ es
    · rw [if_pos (.inr hempty)]
      show (if [] ∈ es then none else some (es.map unquoted)) = _
      rw [if_pos hempty]
    · rw [if_neg (not_or.2 ⟨hodd, hempty⟩)]
      show (if [] ∈ es then none else some (es.map unquoted)) = _
      rw [if_neg hempty]

theorem directiveValues?_eq_some_iff {cs : List Char} {values : List String} :
    directiveValues? cs = some values ↔ ∃ es, IsCut cs es ∧ ¬ Odd (cs.count '"') ∧ [] ∉ es ∧
      values = es.map unquoted := by
  constructor
  · intro h
    obtain ⟨es, hcut⟩ := exists_isCut cs
    rw [directiveValues?_eq hcut] at h
    split at h
    next => cases h
    next hgood =>
      obtain ⟨hclosed, hfull⟩ := not_or.1 hgood
      exact ⟨es, hcut, hclosed, hfull, (Option.some.inj h).symm⟩
  · intro ⟨es, hcut, hclosed, hfull, hvalues⟩
    rw [directiveValues?_eq hcut, if_neg (not_or.2 ⟨hclosed, hfull⟩), hvalues]

/-- What the scan finds is the cut. -/
theorem isCut_of_entries? {cs : List Char} {es : List (List Char)}
    (h : entries? false [] cs = some es) : IsCut cs es := by
  obtain ⟨es', hes'⟩ := exists_isCut cs
  rw [entries?_eq hes'] at h
  split at h
  next => cases h
  next => exact Option.some.inj h ▸ hes'

/-! ## §3. Words -/

theorem isAscii_of_isKeyChar {c : Char} (h : isKeyChar c = true) : c.toNat < 0x80 := by
  rcases isKeyChar_iff.1 h with ⟨_, hto⟩ | ⟨_, hto⟩ | rfl
  · omega
  · omega
  · decide

end Form

/-- **WHAT A WORD WITH A KEY SAYS**, if no earlier form fits it. The text behind its colon is cut into
entries in one way. If its quotes are odd in number or one of the entries has nothing in it, the word
is a malformed directive; otherwise it is the directive of the key in lower case, and its values are
the entries without their quotes. -/
theorem directive_word_cut {word : String} {key rest : List Char} (position : Nat)
    (hword : word.toList = key ++ ':' :: rest) (hkey : IsKey key)
    (hunclaimed : ∀ form ∈ [.quotedText, .projectRef, .negatedTag, .tag, .due, .overdue, .status,
      .priority], Form.read? form word.toList position = none) :
    ∃ entries, IsCut rest entries ∧ (∀ other, IsCut rest other → other = entries) ∧
      classify word position =
        if Odd (rest.count '"') ∨ [] ∈ entries then .error (.malformedDirective word position)
        else .ok (.directive (Text.lower (String.ofList key)) (entries.map unquoted)) := by
  obtain ⟨entries, hcut⟩ := exists_isCut rest
  have hlower : Text.lower (String.ofList key) = String.ofList (Text.fold key) :=
    Text.lower_of_ascii fun c hc => Form.isAscii_of_isKeyChar (hkey.2 c hc)
  refine ⟨entries, hcut, fun other hother => hother.unique hcut, ?_⟩
  rw [classify_unclaimed hword hkey hunclaimed, Form.directiveValues?_eq hcut, hlower]
  by_cases hbad : Odd (rest.count '"') ∨ [] ∈ entries
  · rw [if_pos hbad, if_pos hbad]
  · rw [if_neg hbad, if_neg hbad]

/-- A comma inside of quotes and one outside. -/
theorem directive_word_cut_quoted_comma :
    let word := "Group:\"a,b\",c\"d\""
    let key := "Group".toList
    let rest := "\"a,b\",c\"d\"".toList
    (word.toList = key ++ ':' :: rest ∧ IsKey key ∧
      ∀ form ∈ [.quotedText, .projectRef, .negatedTag, .tag, .due, .overdue, .status, .priority],
        Form.read? form word.toList 6 = none) ∧
    IsCut rest ["\"a,b\"".toList, "c\"d\"".toList] ∧
    classify word 6 = .ok (.directive "group" ["a,b", "cd"]) := by
  intro word key rest
  have hword : word.toList = key ++ ':' :: rest := by decide +kernel
  have hkey : IsKey key := by decide +kernel
  have hunclaimed : ∀ form ∈ [.quotedText, .projectRef, .negatedTag, .tag, .due, .overdue, .status,
      .priority], Form.read? form word.toList 6 = none := by decide +kernel
  have hcut : IsCut rest ["\"a,b\"".toList, "c\"d\"".toList] :=
    Form.isCut_of_entries? (by decide +kernel)
  obtain ⟨entries, _, honly, hsays⟩ := directive_word_cut 6 hword hkey hunclaimed
  rw [← honly _ hcut] at hsays
  exact ⟨⟨hword, hkey, hunclaimed⟩, hcut, hsays.trans (by decide +kernel)⟩

example : classify "cols:id,,due" 6 = .error (.malformedDirective "cols:id,,due" 6) ∧
    classify "cols:\"id,due" 6 = .error (.malformedDirective "cols:\"id,due" 6) ∧
    classify "cols:\"\",due" 6 = .ok (.directive "cols" ["", "due"]) := by decide +kernel

end Agenda
