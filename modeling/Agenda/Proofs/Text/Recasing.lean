import Agenda.Proofs.Text.Lowering
import Agenda.Text.Basic

/-!
# Texts in other case

What a change of the case of ASCII letters does to a text. The two cases of a letter are told apart by
nothing but the letter itself: both are letters with case, none is ignorable, and each takes one byte.
So neither where words end nor what lower case is looks different, in the letters or around them.

Main results:
  * `SameLetter.congr` — what is blind to case is equal on the two cases of a letter;
  * `lower_eq_of_recased` — texts in other case have one lower-case form.
-/

namespace Agenda.Text

/-! ## §1. Letters -/

/-- Whether a function makes no difference between a capital of the ASCII alphabet and its small
letter. -/
def CaseBlind {β : Type} (f : Char → β) : Prop :=
  ∀ n < 26, f (Char.ofNat (65 + n)) = f (Char.ofNat (97 + n))

instance {β : Type} [DecidableEq β] (f : Char → β) : Decidable (CaseBlind f) :=
  inferInstanceAs (Decidable (∀ n < 26, f (Char.ofNat (65 + n)) = f (Char.ofNat (97 + n))))

variable {c c' : Char}

theorem IsCapitalOf.exists_letter (h : IsCapitalOf c c') :
    ∃ n < 26, c = Char.ofNat (65 + n) ∧ c' = Char.ofNat (97 + n) := by
  obtain ⟨⟨hfrom, hto⟩, hsmall⟩ := h
  have hcapital : 65 + (c.toNat - 65) = c.toNat := by omega
  have hsmall : 97 + (c.toNat - 65) = c'.toNat := by omega
  refine ⟨c.toNat - 65, by omega, ?_, ?_⟩
  · rw [hcapital, Char.ofNat_toNat]
  · rw [hsmall, Char.ofNat_toNat]

instance (a b : Char) : Decidable (IsCapitalOf a b) :=
  inferInstanceAs (Decidable (_ ∧ _))

instance (a b : Char) : Decidable (SameLetter a b) :=
  inferInstanceAs (Decidable (_ ∨ _ ∨ _))

theorem SameLetter.refl (c : Char) : SameLetter c c :=
  .inl rfl

theorem SameLetter.symm (h : SameLetter c c') : SameLetter c' c := by
  rcases h with h | h | h
  · exact .inl h.symm
  · exact .inr (.inr h)
  · exact .inr (.inl h)

/-- **What is blind to case** is equal on the two cases of a letter. -/
theorem SameLetter.congr (h : SameLetter c c') {β : Type} {f : Char → β} (hf : CaseBlind f) :
    f c = f c' := by
  rcases h with rfl | h | h
  · rfl
  · obtain ⟨n, hn, rfl, rfl⟩ := h.exists_letter
    exact hf n hn
  · obtain ⟨n, hn, rfl, rfl⟩ := h.exists_letter
    exact (hf n hn).symm

theorem isAlpha_iff : c.isAlpha = true ↔
    65 ≤ c.toNat ∧ c.toNat ≤ 90 ∨ 97 ≤ c.toNat ∧ c.toNat ≤ 122 := by
  show (decide (c.val ≥ 65 ∧ c.val ≤ 90) || (c.val ≥ 97 && c.val ≤ 122)) = true ↔ _
  simp only [Bool.or_eq_true, Bool.and_eq_true, decide_eq_true_eq, ge_iff_le,
    UInt32.le_iff_toNat_le]
  exact Iff.rfl

/-- What is no letter has one case. -/
theorem SameLetter.eq_of_not_alpha (h : SameLetter c c') (hc : c.isAlpha = false) : c' = c := by
  rw [← Bool.not_eq_true, isAlpha_iff] at hc
  rcases h with h | ⟨hcapital, hsmall⟩ | ⟨hcapital, hsmall⟩
  · exact h.symm
  · omega
  · omega

/-- A letter of any case is a certain character that is no letter exactly if the other one is. -/
theorem SameLetter.eq_iff (h : SameLetter c c') {d : Char} (hd : d.isAlpha = false) :
    c = d ↔ c' = d := by
  constructor
  · rintro rfl
    exact h.eq_of_not_alpha hd
  · rintro rfl
    exact h.symm.eq_of_not_alpha hd

/-- Both characters are a certain one that is no letter, or neither is. -/
theorem SameLetter.mark (h : SameLetter c c') (d : Char) (hd : d.isAlpha = false) :
    c = d ∧ c' = d ∨ c ≠ d ∧ c' ≠ d := by
  by_cases hc : c = d
  · exact .inl ⟨hc, (h.eq_iff hd).1 hc⟩
  · exact .inr ⟨hc, mt (h.eq_iff hd).2 hc⟩

theorem caseBlind_utf8Size : CaseBlind Char.utf8Size := by decide +kernel

theorem caseBlind_isCased : CaseBlind isCased := by decide +kernel

theorem caseBlind_isCaseIgnorable : CaseBlind isCaseIgnorable := by decide +kernel

theorem caseBlind_isBlank : CaseBlind isBlank := by decide +kernel

theorem not_isAlpha_of_isBlank (h : isBlank c = true) : c.isAlpha = false := by
  rw [← Bool.not_eq_true, isAlpha_iff]
  simp [isBlank, inRanges, blankRanges] at h
  omega

theorem not_isAlpha_of_isDigit (h : c.isDigit = true) : c.isAlpha = false := by
  have hto : c.toNat ≤ 57 :=
    UInt32.le_iff_toNat_le.1 (of_decide_eq_true (Bool.and_eq_true_iff.1 h).2)
  rw [← Bool.not_eq_true, isAlpha_iff]
  omega

theorem caseBlind_lowerChar : CaseBlind lowerChar := by decide +kernel

/-! ## §2. Texts -/

/-- Two texts are equal up to the case of ASCII letters. -/
abbrev Recased (cs cs' : List Char) : Prop :=
  List.Forall₂ SameLetter cs cs'

variable {cs cs' : List Char}

theorem Recased.symm (h : Recased cs cs') : Recased cs' cs :=
  fold_eq_iff.1 (fold_eq_iff.2 h).symm

/-- A text in two stretches is in other case stretch by stretch. -/
theorem Recased.exists_append {xs ys : List Char} (h : Recased (xs ++ ys) cs') :
    ∃ xs' ys', cs' = xs' ++ ys' ∧ Recased xs xs' ∧ Recased ys ys' := by
  have hfront := List.forall₂_take xs.length h
  have hback := List.forall₂_drop xs.length h
  rw [List.take_left] at hfront
  rw [List.drop_left] at hback
  exact ⟨_, _, (List.take_append_drop _ _).symm, hfront, hback⟩

/-- A text without letters has one case. -/
theorem Recased.eq_of_not_alpha (h : Recased cs cs') (hcs : ∀ c ∈ cs, c.isAlpha = false) :
    cs' = cs := by
  induction h with
  | nil => rfl
  | cons hc _ ih =>
    obtain ⟨hhead, htail⟩ := List.forall_mem_cons.1 hcs
    rw [hc.eq_of_not_alpha hhead, ih htail]

section

variable {p : Char → Bool}

theorem Recased.filter (h : Recased cs cs') (hp : CaseBlind p) :
    Recased (cs.filter p) (cs'.filter p) := by
  refine List.rel_filter (fun c c' hc => ?_) h
  show p c = true ↔ p c' = true
  rw [hc.congr hp]

theorem Recased.takeWhile (h : Recased cs cs') (hp : CaseBlind p) :
    Recased (cs.takeWhile p) (cs'.takeWhile p) := by
  induction h with
  | nil => exact .nil
  | cons hc hcs ih =>
    rw [List.takeWhile_cons, List.takeWhile_cons, hc.congr hp]
    split
    · exact .cons hc ih
    · exact .nil

theorem Recased.dropWhile (h : Recased cs cs') (hp : CaseBlind p) :
    Recased (cs.dropWhile p) (cs'.dropWhile p) := by
  induction h with
  | nil => exact .nil
  | cons hc hcs ih =>
    rw [List.dropWhile_cons, List.dropWhile_cons, hc.congr hp]
    split
    · exact ih
    · exact .cons hc hcs

end

/-! ## §3. Lower case -/

theorem startsCased_eq_of_recased (h : Recased cs cs') : startsCased cs = startsCased cs' := by
  have hrest := h.dropWhile caseBlind_isCaseIgnorable
  unfold startsCased
  generalize cs.dropWhile isCaseIgnorable = ds at hrest
  generalize cs'.dropWhile isCaseIgnorable = ds' at hrest
  cases hrest with
  | nil => rfl
  | cons hd _ => exact hd.congr caseBlind_isCased

/-- A sigma ends a word or does not, whatever the case of the letters around it. -/
theorem lowerAt_eq_of_recased {before before' after after' : List Char} (hc : SameLetter c c')
    (hbefore : Recased before before') (hafter : Recased after after') :
    lowerAt before c after = lowerAt before' c' after' := by
  have hsigma : c = 'Σ' ↔ c' = 'Σ' := hc.eq_iff (by decide)
  have hdotted : c = 'İ' ↔ c' = 'İ' := hc.eq_iff (by decide)
  unfold lowerAt
  rw [startsCased_eq_of_recased hbefore, startsCased_eq_of_recased hafter,
    hc.congr caseBlind_lowerChar]
  simp only [hsigma, hdotted]

theorem lowerAfter_eq_of_recased {before before' : List Char} (hbefore : Recased before before')
    (h : Recased cs cs') : lowerAfter before cs = lowerAfter before' cs' := by
  induction h generalizing before before' with
  | nil => rfl
  | cons hc hcs ih =>
    show lowerAt _ _ _ ++ lowerAfter _ _ = lowerAt _ _ _ ++ lowerAfter _ _
    rw [lowerAt_eq_of_recased hc hbefore hcs, ih (.cons hc hbefore)]

/-- **Texts in other case have one lower-case form.** -/
theorem lower_eq_of_recased {s s' : String} (h : Recased s.toList s'.toList) :
    lower s = lower s' := by
  unfold lower
  rw [lowerAfter_eq_of_recased .nil h]

/-! ## §4. Beginnings -/

/-- Behind a beginning in any case stands the rest of the text, in its case. -/
theorem afterFolded_recased (head : List Char) (h : Recased cs cs') :
    Option.Rel Recased (afterFolded head cs) (afterFolded head cs') := by
  have htake : fold (cs.take head.length) = fold (cs'.take head.length) :=
    fold_eq_iff.2 (List.forall₂_take _ h)
  unfold afterFolded
  rw [htake]
  split
  · exact .some (List.forall₂_drop _ h)
  · exact .none

end Agenda.Text
