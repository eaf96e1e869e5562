import Mathlib.Data.List.Forall2
import Agenda.Text.Basic

/-!
# Lower case in context

To bring a text to lower case is to do so character by character, but for the capital sigma: it looks
at what stands around it, across characters that are ignorable, for the nearest one on either side. A
stretch of a text can therefore have another lower-case form there than it has alone.

ONLY SIGMAS MATTER: the two forms are equal exactly if every capital sigma of the stretch ends a word
in both places or in neither (`lowerBetween_eq_iff`). A sigma is out of reach of whatever stands
around the stretch if the stretch itself says what is nearest to it (`SettledSigma`). One that is not
can be made to end a word, or not to end one, by a single letter put in front or behind.

WHY COUNTING DECIDES: context that makes sigmas end words where they did not, and none the other way,
adds final sigmas and takes away others (`MoreFinal`). So the one form has more of a character than
the other, and cannot occur in it anywhere, at whatever place.

Main results:
  * `mentions_iff` — a term is found where its lower-case form occurs in that of the text;
  * `lowerAfter_around` — the lower-case form of a stretch stands in that of the text;
  * `lowerBetween_eq_iff` — when two lower-case forms of one stretch are equal;
  * `mentions_of_sigmasAgree` — an occurrence is found if its sigmas do in the text what they do alone;
  * `mentions_iff_sigmasSettled` — the terms that are found wherever they occur;
  * `lower_of_ascii` — an ASCII text, where no context counts;
  * `sameFolded_iff` — the texts that are equal up to the case of ASCII letters;
  * `afterFolded_keyed_eq_none` — a key is not the beginning of another one.
-/

namespace Agenda.Text

/-! ## §1. Runs -/

theorem containsRun_iff {needle cs : List Char} :
    containsRun needle cs = true ↔ needle <:+: cs := by
  induction cs with
  | nil => simp [containsRun]
  | cons c cs ih => simp [containsRun, ih, List.infix_cons_iff]

/-- A term is found where its lower-case form occurs in that of the text. -/
theorem mentions_iff {text term : String} :
    mentions text term = true ↔ lowerAfter [] term.toList <:+: lowerAfter [] text.toList := by
  unfold mentions lower
  rw [containsRun_iff, String.toList_ofList, String.toList_ofList]

/-! ## §2. A stretch of a text -/

/-- The lower-case form of a stretch between the text before it (nearest character first) and the
text after it. -/
def lowerBetween (before : List Char) : List Char → List Char → List Char
  | [], _ => []
  | c :: cs, after => lowerAt before c (cs ++ after) ++ lowerBetween (c :: before) cs after

/-- The lower-case form of a text is put together from those of its stretches. -/
theorem lowerAfter_append (before cs after : List Char) :
    lowerAfter before (cs ++ after) =
      lowerBetween before cs after ++ lowerAfter (cs.reverse ++ before) after := by
  induction cs generalizing before with
  | nil => rfl
  | cons c cs ih => simp [lowerAfter, lowerBetween, ih]

theorem lowerBetween_nil (before cs : List Char) :
    lowerBetween before cs [] = lowerAfter before cs := by
  induction cs generalizing before with
  | nil => rfl
  | cons c cs ih => simp [lowerAfter, lowerBetween, ih]

/-- The lower-case form of a stretch stands in that of the text. -/
theorem lowerAfter_around (before cs after : List Char) :
    lowerBetween before.reverse cs after <:+: lowerAfter [] (before ++ cs ++ after) := by
  refine ⟨lowerBetween [] before (cs ++ after), lowerAfter (cs.reverse ++ before.reverse) after, ?_⟩
  rw [List.append_assoc before, lowerAfter_append, List.append_nil, lowerAfter_append,
    ← List.append_assoc]

/-! ## §3. Sigmas -/

/-- Whether a capital sigma ends a word between the text before it (nearest character first) and the
text after it. -/
def endsAt (before after : List Char) : Bool :=
  startsCased before && !startsCased after

/-- Whether a property holds around every capital sigma of a stretch: of what stands before the sigma
in the stretch (nearest character first) and what stands after it there. -/
def AtSigmas (p : List Char → List Char → Prop) (cs : List Char) : Prop :=
  ∀ u v, cs = u ++ 'Σ' :: v → p u.reverse v

variable {p : List Char → List Char → Prop} {c : Char} {cs : List Char}

@[simp] theorem atSigmas_nil : AtSigmas p [] := by
  intro u v h
  simp at h

/-- The sigmas of a stretch are its first character, if that is one, and those that follow. -/
theorem atSigmas_cons : AtSigmas p (c :: cs) ↔
    (c = 'Σ' → p [] cs) ∧ AtSigmas (fun u v => p (u ++ [c]) v) cs := by
  constructor
  · intro h
    refine ⟨fun hc => h [] cs (by rw [hc, List.nil_append]), fun u v hcs => ?_⟩
    have hp := h (c :: u) v (by rw [hcs, List.cons_append])
    rwa [List.reverse_cons] at hp
  · rintro ⟨hfirst, hrest⟩ u v h
    cases u with
    | nil =>
      obtain ⟨hc, rfl⟩ := List.cons.inj h
      exact hfirst hc
    | cons d u =>
      obtain ⟨rfl, hcs⟩ := List.cons.inj h
      rw [List.reverse_cons]
      exact hrest u v hcs

theorem length_lowerAt (before after before' after' : List Char) (c : Char) :
    (lowerAt before c after).length = (lowerAt before' c after').length := by
  unfold lowerAt
  split
  · rfl
  · split <;> rfl

/-- Only a capital sigma looks at what stands around it. -/
theorem lowerAt_eq_iff {before after before' after' : List Char} :
    lowerAt before c after = lowerAt before' c after' ↔
      (c = 'Σ' → endsAt before after = endsAt before' after') := by
  unfold lowerAt
  by_cases hc : c = 'Σ'
  · simp only [hc, forall_const]
    unfold endsAt
    cases startsCased before && !startsCased after <;>
      cases startsCased before' && !startsCased after' <;> decide
  · simp [hc]

/-- **When two lower-case forms of one stretch are equal**: exactly if every capital sigma ends a word
in both places or in neither. -/
theorem lowerBetween_eq_iff {before after before' after' : List Char} :
    lowerBetween before cs after = lowerBetween before' cs after' ↔
      AtSigmas (fun u v => endsAt (u ++ before) (v ++ after) =
        endsAt (u ++ before') (v ++ after')) cs := by
  induction cs generalizing before before' with
  | nil => simp [lowerBetween]
  | cons c cs ih =>
    simp only [lowerBetween]
    rw [atSigmas_cons, ← lowerAt_eq_iff]
    simp only [List.append_assoc, List.singleton_append, List.nil_append]
    rw [← ih]
    constructor
    · intro h
      exact List.append_inj h (length_lowerAt _ _ _ _ c)
    · rintro ⟨hfirst, hrest⟩
      rw [hfirst, hrest]

/-! ## §4. More words that end -/

/-- Whether the second text is the first one with some sigmas made final. -/
def MoreFinal (xs ys : List Char) : Prop :=
  xs = ys ∨ xs.count 'ς' < ys.count 'ς' ∧ ys.count 'σ' < xs.count 'σ'

theorem MoreFinal.append {xs ys xs' ys' : List Char} (h : MoreFinal xs ys)
    (h' : MoreFinal xs' ys') : MoreFinal (xs ++ xs') (ys ++ ys') := by
  unfold MoreFinal at *
  rcases h with rfl | h <;> rcases h' with rfl | h'
  · exact .inl rfl
  all_goals
    simp only [List.count_append]
    omega

/-- With more final sigmas a text does not occur in what it came from, one letter longer. -/
theorem MoreFinal.eq_of_infix_concat {xs ys : List Char} (h : MoreFinal xs ys)
    (hocc : ys <:+: xs ++ ['a']) : xs = ys := by
  rcases h with heq | ⟨hcount, -⟩
  · exact heq
  · have hle := hocc.sublist.count_le 'ς'
    simp at hle
    omega

/-- With fewer final sigmas a text does not occur in what has become of it, one letter longer. -/
theorem MoreFinal.eq_of_infix_cons {xs ys : List Char} (h : MoreFinal xs ys)
    (hocc : xs <:+: 'a' :: ys) : xs = ys := by
  rcases h with heq | ⟨-, hcount⟩
  · exact heq
  · have hle := hocc.sublist.count_le 'σ'
    simp at hle
    omega

theorem moreFinal_lowerAt {before after before' after' : List Char}
    (h : c = 'Σ' → endsAt before after = true → endsAt before' after' = true) :
    MoreFinal (lowerAt before c after) (lowerAt before' c after') := by
  by_cases heq : lowerAt before c after = lowerAt before' c after'
  · exact .inl heq
  · -- the character is a sigma, and it ends a word in the second place only
    obtain ⟨hc, hne⟩ := Classical.not_imp.1 (mt lowerAt_eq_iff.2 heq)
    have hmore := h hc
    unfold lowerAt endsAt at *
    revert hne hmore
    subst hc
    cases startsCased before && !startsCased after <;>
      cases startsCased before' && !startsCased after' <;> simp [MoreFinal]

/-- Where the sigmas of a stretch that end words do so in a second place as well, the lower-case form
there has more final sigmas or is the same. -/
theorem moreFinal_lowerBetween {before after before' after' : List Char}
    (h : AtSigmas (fun u v => endsAt (u ++ before) (v ++ after) = true →
      endsAt (u ++ before') (v ++ after') = true) cs) :
    MoreFinal (lowerBetween before cs after) (lowerBetween before' cs after') := by
  induction cs generalizing before before' with
  | nil => exact .inl rfl
  | cons c cs ih =>
    obtain ⟨hfirst, hrest⟩ := atSigmas_cons.1 h
    simp only [List.append_assoc, List.singleton_append] at hrest
    exact (moreFinal_lowerAt hfirst).append (ih hrest)

/-! ## §5. Sigmas out of reach -/

/-- Whether the nearest character that is not ignorable has case, if there is such a character. -/
def caseNear? (cs : List Char) : Option Bool :=
  (cs.find? fun c => !isCaseIgnorable c).map isCased

theorem caseNear?_append (cs cs' : List Char) :
    caseNear? (cs ++ cs') = (caseNear? cs).or (caseNear? cs') := by
  simp [caseNear?, List.find?_append, Option.map_or]

theorem lowerAt_letter (before after : List Char) : lowerAt before 'a' after = ['a'] := by
  unfold lowerAt
  rw [if_neg (by decide), if_neg (by decide)]
  decide

theorem caseNear?_letter : caseNear? ['a'] = some true := by decide +kernel

theorem startsCased_eq (cs : List Char) : startsCased cs = (caseNear? cs == some true) := by
  unfold startsCased caseNear?
  induction cs with
  | nil => rfl
  | cons c cs ih =>
    cases hc : isCaseIgnorable c with
    | true => simpa [hc] using ih
    | false => simp [hc]

theorem endsAt_iff {before after : List Char} : endsAt before after = true ↔
    caseNear? before = some true ∧ caseNear? after ≠ some true := by
  simp [endsAt, startsCased_eq]

/-- Whether a stretch says by itself if a sigma in it ends a word, from what stands before the sigma
(nearest character first) and after it: it does if the nearest character before has no case, if the
nearest one after has case, and if there is one on either side. -/
def SettledSigma (before after : List Char) : Prop :=
  caseNear? before = some false ∨ caseNear? after = some true ∨
    caseNear? before ≠ none ∧ caseNear? after ≠ none

/-- Nothing that stands around the stretch changes what it says. -/
theorem SettledSigma.endsAt_around {before after : List Char} (h : SettledSigma before after)
    (outer outer' : List Char) :
    endsAt (before ++ outer) (after ++ outer') = endsAt before after := by
  rw [Bool.eq_iff_iff, endsAt_iff, endsAt_iff, caseNear?_append, caseNear?_append]
  unfold SettledSigma at h
  cases hbefore : caseNear? before <;> cases hafter : caseNear? after <;>
    simp [hbefore, hafter] at h ⊢ <;> simp [h]

/-! ## §6. Terms in texts -/

/-- Whether the capital sigmas of a term do between two texts what they do in the term alone. -/
def SigmasAgree (before term after : List Char) : Prop :=
  AtSigmas (fun u v => endsAt (u ++ before.reverse) (v ++ after) = endsAt u v) term

/-- Whether no context reaches the capital sigmas of a term. -/
def SigmasSettled (term : List Char) : Prop :=
  AtSigmas SettledSigma term

theorem SigmasSettled.agree {term : List Char} (h : SigmasSettled term) (before after : List Char) :
    SigmasAgree before term after :=
  fun u v huv => (h u v huv).endsAt_around _ _

/-- **An occurrence is found if its sigmas do in the text what they do alone.** -/
theorem mentions_of_sigmasAgree {before term after : String}
    (h : SigmasAgree before.toList term.toList after.toList) :
    mentions (before ++ term ++ after) term = true := by
  have hform : lowerBetween before.toList.reverse term.toList after.toList =
      lowerAfter [] term.toList := by
    rw [← lowerBetween_nil, lowerBetween_eq_iff]
    simpa [SigmasAgree] using h
  rw [mentions_iff, String.toList_append, String.toList_append, ← hform]
  exact lowerAfter_around _ _ _

/-- A sigma that ends a word only because the term ends there keeps the term from being found before a
letter. -/
theorem not_mentions_before_letter {term : String} {u v : List Char}
    (hterm : term.toList = u ++ 'Σ' :: v) (hbefore : caseNear? u.reverse = some true)
    (hafter : caseNear? v = none) : mentions (term ++ "a") term = false := by
  have hmore : MoreFinal (lowerBetween [] term.toList ['a']) (lowerBetween [] term.toList []) := by
    refine moreFinal_lowerBetween fun u v _ => ?_
    simp only [List.append_nil, endsAt_iff, caseNear?_append, caseNear?_letter]
    cases caseNear? v <;> simp
  have htext : lowerAfter [] (term ++ "a").toList = lowerBetween [] term.toList ['a'] ++ ['a'] := by
    rw [String.toList_append, show "a".toList = ['a'] from rfl, lowerAfter_append]
    simp [lowerAfter, lowerAt_letter]
  rw [Bool.eq_false_iff, Ne, mentions_iff, htext, ← lowerBetween_nil]
  intro hocc
  -- the two forms would be equal, but they differ at the sigma
  have hends : endsAt (u.reverse ++ []) (v ++ ['a']) = endsAt (u.reverse ++ []) (v ++ []) :=
    lowerBetween_eq_iff.1 (hmore.eq_of_infix_concat hocc) u v hterm
  rw [Bool.eq_iff_iff] at hends
  simp [endsAt_iff, caseNear?_append, caseNear?_letter, hbefore, hafter] at hends

/-- A sigma that ends no word only because the term starts there keeps the term from being found
behind a letter. -/
theorem not_mentions_behind_letter {term : String} {u v : List Char}
    (hterm : term.toList = u ++ 'Σ' :: v) (hbefore : caseNear? u.reverse = none)
    (hafter : caseNear? v ≠ some true) : mentions ("a" ++ term) term = false := by
  have hmore : MoreFinal (lowerBetween [] term.toList []) (lowerBetween ['a'] term.toList []) := by
    refine moreFinal_lowerBetween fun u v _ => ?_
    simp only [List.append_nil, endsAt_iff, caseNear?_append, caseNear?_letter]
    cases caseNear? u.reverse <;> simp
  have htext : lowerAfter [] ("a" ++ term).toList = 'a' :: lowerBetween ['a'] term.toList [] := by
    rw [String.toList_append, show "a".toList = ['a'] from rfl, lowerBetween_nil]
    simp [lowerAfter, lowerAt_letter]
  rw [Bool.eq_false_iff, Ne, mentions_iff, htext, ← lowerBetween_nil]
  intro hocc
  have hends : endsAt (u.reverse ++ []) (v ++ []) = endsAt (u.reverse ++ ['a']) (v ++ []) :=
    lowerBetween_eq_iff.1 (hmore.eq_of_infix_cons hocc) u v hterm
  rw [Bool.eq_iff_iff] at hends
  simp [endsAt_iff, caseNear?_append, caseNear?_letter, hbefore, hafter] at hends

/-- **The terms that are found wherever they occur** are those with sigmas out of reach. -/
theorem mentions_iff_sigmasSettled {term : String} :
    (∀ before after : String, mentions (before ++ term ++ after) term = true) ↔
      SigmasSettled term.toList := by
  constructor
  · intro h u v hterm
    have hbehind : mentions ("a" ++ term) term = true := by simpa using h "a" ""
    have hbefore : mentions (term ++ "a") term = true := by simpa using h "" "a"
    unfold SettledSigma
    -- the two ways to be within reach, each refuted by a text with one more letter
    cases hu : caseNear? u.reverse with
    | none =>
      by_cases hv : caseNear? v = some true
      · exact .inr (.inl hv)
      · rw [not_mentions_behind_letter hterm hu hv] at hbehind
        cases hbehind
    | some cased =>
      cases cased with
      | false => exact .inl rfl
      | true =>
        by_cases hv : caseNear? v = none
        · rw [not_mentions_before_letter hterm hu hv] at hbefore
          cases hbefore
        · exact .inr (.inr ⟨nofun, hv⟩)
  · intro h before after
    exact mentions_of_sigmasAgree (h.agree _ _)

/-! ## §7. ASCII -/

/-- An ASCII text has its lower-case form without regard to context, letter by letter. -/
theorem lower_of_ascii {cs : List Char} (h : ∀ c ∈ cs, c.toNat < 0x80) :
    lower (String.ofList cs) = String.ofList (fold cs) := by
  have hafter : ∀ before, lowerAfter before cs = fold cs := by
    induction cs with
    | nil => intro before; rfl
    | cons c cs ih =>
      intro before
      have hc : c.toNat < 0x80 := h c List.mem_cons_self
      have hsigma : c ≠ 'Σ' := fun heq => absurd hc (by rw [heq]; decide)
      have hdotted : c ≠ 'İ' := fun heq => absurd hc (by rw [heq]; decide)
      rw [lowerAfter, ih fun d hd => h d (List.mem_cons_of_mem c hd)]
      unfold lowerAt lowerChar
      rw [if_neg hsigma, if_neg hdotted, if_pos hc]
      rfl
  unfold lower
  rw [String.toList_ofList, hafter]

/-- The second character is the small letter of the first, a capital of the ASCII alphabet. -/
def IsCapitalOf (capital small : Char) : Prop :=
  (65 ≤ capital.toNat ∧ capital.toNat ≤ 90) ∧ small.toNat = capital.toNat + 32

/-- Two characters are one, or one ASCII letter in its two cases. -/
def SameLetter (a b : Char) : Prop :=
  a = b ∨ IsCapitalOf a b ∨ IsCapitalOf b a

theorem toNat_toLower (c : Char) : c.toLower.toNat =
    if 65 ≤ c.toNat ∧ c.toNat ≤ 90 then c.toNat + 32 else c.toNat := by
  unfold Char.toLower
  split
  next hcapital =>
    have hfrom : 65 ≤ c.toNat := UInt32.le_iff_toNat_le.1 hcapital.1
    have hto : c.toNat ≤ 90 := UInt32.le_iff_toNat_le.1 hcapital.2
    rw [if_pos ⟨hfrom, hto⟩]
    show (c.toNat + 32) % 2 ^ 32 = _
    omega
  next hother =>
    rw [if_neg]
    intro hrange
    obtain ⟨hfrom, hto⟩ := hrange
    exact hother ⟨UInt32.le_iff_toNat_le.2 hfrom, UInt32.le_iff_toNat_le.2 hto⟩

/-- Characters that fold to one are the same letter. -/
theorem toLower_eq_iff {a b : Char} : a.toLower = b.toLower ↔ SameLetter a b := by
  unfold SameLetter IsCapitalOf
  rw [← Char.toNat_inj, ← Char.toNat_inj, toNat_toLower, toNat_toLower]
  split <;> split <;> omega

theorem fold_eq_iff {cs ds : List Char} : fold cs = fold ds ↔ List.Forall₂ SameLetter cs ds := by
  unfold fold
  rw [← List.forall₂_eq_eq_eq, List.forall₂_map_left_iff, List.forall₂_map_right_iff]
  simp only [toLower_eq_iff]

theorem fold_append (cs ds : List Char) : fold (cs ++ ds) = fold cs ++ fold ds :=
  List.map_append

/-- A colon has no case, and no letter is a colon in lower case. -/
theorem toLower_eq_colon_iff {c : Char} : c.toLower = ':' ↔ c = ':' := by
  have hcolon : ':'.toNat = 58 := rfl
  rw [← Char.toNat_inj, ← Char.toNat_inj, toNat_toLower, hcolon]
  split <;> omega

theorem colon_mem_fold_iff {cs : List Char} : ':' ∈ fold cs ↔ ':' ∈ cs := by
  unfold fold
  rw [List.mem_map]
  simp only [toLower_eq_colon_iff, exists_eq_right]

/-- Up to a colon that neither of them has, a text begins with another only if they are equal. -/
theorem eq_of_isPrefix_colon : ∀ {xs ys zs : List Char}, ':' ∉ xs → ':' ∉ ys →
    xs ++ [':'] <+: ys ++ ':' :: zs → xs = ys
  | [], [], _, _, _, _ => rfl
  | [], y :: ys, zs, _, hys, h => by
    obtain ⟨rfl, _⟩ := List.cons_prefix_cons.1 h
    exact absurd List.mem_cons_self hys
  | x :: xs, [], zs, hxs, _, h => by
    obtain ⟨rfl, _⟩ := List.cons_prefix_cons.1 h
    exact absurd List.mem_cons_self hxs
  | x :: xs, y :: ys, zs, hxs, hys, h => by
    obtain ⟨rfl, hrest⟩ := List.cons_prefix_cons.1 h
    have hxs : ':' ∉ xs := mt (List.mem_cons_of_mem _) hxs
    have hys : ':' ∉ ys := mt (List.mem_cons_of_mem _) hys
    rw [eq_of_isPrefix_colon hxs hys hrest]

theorem fold_isPrefix_of_afterFolded {head cs rest : List Char}
    (h : afterFolded head cs = some rest) : fold head <+: fold cs := by
  unfold afterFolded at h
  split at h
  next heq =>
    rw [← heq]
    unfold fold
    rw [List.map_take]
    exact List.take_prefix _ _
  next => cases h

/-- A key with its colon begins a text with another key only if it is that key. -/
theorem afterFolded_keyed_eq_none (name : List Char) {key rest : List Char} (hname : ':' ∉ name)
    (hkey : ':' ∉ key) (hne : fold key ≠ fold name) :
    afterFolded (name ++ [':']) (key ++ ':' :: rest) = none := by
  rw [Option.eq_none_iff_forall_ne_some]
  intro behind h
  have hprefix := fold_isPrefix_of_afterFolded h
  rw [fold_append, fold_append] at hprefix
  have hname : ':' ∉ fold name := mt colon_mem_fold_iff.1 hname
  have hkey : ':' ∉ fold key := mt colon_mem_fold_iff.1 hkey
  exact hne (eq_of_isPrefix_colon hname hkey hprefix).symm

end Agenda.Text
