import Agenda.Proofs.Text.Lowering
import Agenda.Query.Classify

/-!
# Which words become which tokens

A word takes the first form that fits it. What it says is therefore one of the things that its forms
can say, and which one it is depends on what the forms before leave over. Tags are marked by what
they begin with, and no earlier form begins so. Directives come late: they begin with a key and a
colon, and of the forms before them only the two with a key of their own, `due:` and `status:`, take
such a word.

Main results:
  * `says_classify` — all that a word can say;
  * `classify_eq_of_read?` — the first form that fits a word decides;
  * `classify_eq_tag_iff` — the words that are tags;
  * `parts_of_classify_directive`, `classify_unclaimed`, `classify_keyed` — the words that are
    directives.
-/

namespace Agenda

/-! ## §1. All that a word can say -/

/-- What a tag begins with. -/
def tagMark (negated : Bool) : List Char :=
  if negated then ['-', '#'] else ['#']

/-- What a directive begins with, in front of its colon. -/
def IsKey (key : List Char) : Prop :=
  key ≠ [] ∧ ∀ c ∈ key, Form.isKeyChar c = true

instance (key : List Char) : Decidable (IsKey key) :=
  @instDecidableAnd _ _ instDecidableNot (List.decidableBAll _ key)

/-- The things that a word can say, each with what the word must look like. -/
inductive Says (word : List Char) (position : Nat) : Except LexError TokenKind → Prop
  | text : Says word position (.ok (.textTerm (unquoted word)))
  | project {name : List Char} (h : word = '@' :: name) :
    Says word position (.ok (.projectRef (unquoted name)))
  | tag {negated : Bool} {body : List Char} (h : word = tagMark negated ++ body) (hne : body ≠ []) :
    Says word position (.ok (.tagExpr (unquoted body) negated))
  | due {rest : List Char} (h : Text.afterFolded "due:".toList word = some rest) :
    Says word position (.ok (.dateExpr (Text.lower (unquoted rest))))
  | overdue (h : Text.afterFolded "overdue".toList word = some []) :
    Says word position (.ok .overdue)
  | status {rest : List Char} (h : Text.afterFolded "status:".toList word = some rest) :
    Says word position (.ok (.statusExpr (Text.lower (unquoted rest))))
  | priority {c : Char} {cs : List Char} (h : Text.afterFolded ['p'] word = some (c :: cs))
    (hstarts : Form.startsPriority c = true) :
    Says word position (.ok (.priorityExpr (String.ofList (c :: cs))))
  | directive {key rest : List Char} {values : List String} (h : word = key ++ ':' :: rest)
    (hkey : IsKey key) (hvalues : Form.directiveValues? rest = some values) :
    Says word position (.ok (.directive (String.ofList (Text.fold key)) values))
  | malformed {key rest : List Char} (h : word = key ++ ':' :: rest) (hkey : IsKey key)
    (hvalues : Form.directiveValues? rest = none) :
    Says word position (.error (.malformedDirective (String.ofList word) position))

namespace Form

/-- The key is all that stands before the first colon. -/
theorem directiveParts?_eq_some_iff {cs key rest : List Char} :
    directiveParts? cs = some (key, rest) ↔
      cs = key ++ ':' :: rest ∧ IsKey key := by
  unfold directiveParts?
  constructor
  · intro h
    split at h
    next k ks rest' htake hdrop =>
      obtain ⟨rfl, rfl⟩ := Prod.mk.inj (Option.some.inj h)
      refine ⟨?_, List.cons_ne_nil _ _, ?_⟩
      · rw [← htake, ← hdrop, List.takeWhile_append_dropWhile]
      · rw [← htake]
        exact List.all_eq_true.1 List.all_takeWhile
    next => cases h
  · rintro ⟨rfl, hne, hkey⟩
    obtain ⟨k, ks, rfl⟩ := List.exists_cons_of_ne_nil hne
    have htake : (k :: ks ++ ':' :: rest).takeWhile isKeyChar = k :: ks := by
      rw [List.takeWhile_append_of_pos hkey]
      exact List.append_nil _
    have hdrop : (k :: ks ++ ':' :: rest).dropWhile isKeyChar = ':' :: rest := by
      rw [List.dropWhile_append_of_pos hkey]
      rfl
    rw [htake, hdrop]
    rfl

/-- Every form says one of these things. -/
theorem says_of_read? {form : Form} {word : List Char} {position : Nat}
    {said : Except LexError TokenKind} (h : form.read? word position = some said) :
    Says word position said := by
  unfold read? at h
  split at h
  case h_1 | h_10 =>
    obtain rfl := Option.some.inj h
    exact .text
  case h_2 =>
    obtain rfl := Option.some.inj h
    exact .project rfl
  case h_3 =>
    obtain rfl := Option.some.inj h
    exact @Says.tag _ _ true _ rfl (List.cons_ne_nil _ _)
  case h_4 =>
    obtain rfl := Option.some.inj h
    exact @Says.tag _ _ false _ rfl (List.cons_ne_nil _ _)
  case h_5 =>
    obtain ⟨rest, hrest, rfl⟩ := Option.map_eq_some_iff.1 h
    exact .due hrest
  case h_6 =>
    split at h
    next hrest =>
      obtain rfl := Option.some.inj h
      exact .overdue hrest
    next => cases h
  case h_7 =>
    obtain ⟨rest, hrest, rfl⟩ := Option.map_eq_some_iff.1 h
    exact .status hrest
  case h_8 =>
    split at h
    next hrest =>
      split at h
      next hstarts =>
        obtain rfl := Option.some.inj h
        exact .priority hrest hstarts
      next => cases h
    next => cases h
  case h_9 =>
    obtain ⟨⟨key, rest⟩, hparts, h⟩ := Option.map_eq_some_iff.1 h
    obtain ⟨hword, hkey⟩ := directiveParts?_eq_some_iff.1 hparts
    simp only at h
    split at h
    next hvalues =>
      subst h
      exact .directive hword hkey hvalues
    next hvalues =>
      subst h
      exact .malformed hword hkey hvalues
  case h_11 => cases h

end Form

/-- **All that a word can say.** -/
theorem says_classify (word : String) (position : Nat) :
    Says word.toList position (classify word position) := by
  unfold classify classified
  split
  next found hfound =>
    obtain ⟨form, _, hform⟩ := List.exists_of_findSome?_eq_some hfound
    obtain ⟨said, hread, rfl⟩ := Option.map_eq_some_iff.1 hform
    exact Form.says_of_read? hread
  next => exact .text

/-- The first form that fits a word decides what it says. -/
theorem classify_eq_of_read? {word : String} {position : Nat} {said : Except LexError TokenKind}
    (earlier : List Form) (form : Form) {later : List Form}
    (hall : Form.all = earlier ++ form :: later)
    (hearlier : ∀ f ∈ earlier, f.read? word.toList position = none)
    (hread : form.read? word.toList position = some said) : classify word position = said := by
  have hnone : earlier.findSome? (fun f => (f.read? word.toList position).map (f, ·)) = none := by
    rw [List.findSome?_eq_none_iff]
    intro f hf
    rw [hearlier f hf, Option.map_none]
  unfold classify classified
  rw [hall, List.findSome?_append, hnone, Option.none_or, List.findSome?_cons, hread]
  rfl

/-! ## §2. Tags -/

/-- **The words that are tags**: a mark and something behind it, which is the name without its
quotes. -/
theorem classify_eq_tag_iff {word : String} {position : Nat} {name : String} {negated : Bool} :
    classify word position = .ok (.tagExpr name negated) ↔
      ∃ body, word.toList = tagMark negated ++ body ∧ body ≠ [] ∧ unquoted body = name := by
  constructor
  · intro h
    have hsays := says_classify word position
    rw [h] at hsays
    cases hsays with
    | tag hword hne => exact ⟨_, hword, hne, rfl⟩
  · rintro ⟨body, hword, hne, rfl⟩
    obtain ⟨c, cs, rfl⟩ := List.exists_cons_of_ne_nil hne
    cases negated with
    | false =>
      have hword : word.toList = '#' :: c :: cs := hword
      refine classify_eq_of_read? [.quotedText, .projectRef, .negatedTag] .tag rfl ?_
        (by rw [hword]; rfl)
      rw [hword]
      simp only [List.forall_mem_cons]
      exact ⟨rfl, rfl, rfl, nofun⟩
    | true =>
      have hword : word.toList = '-' :: '#' :: c :: cs := hword
      refine classify_eq_of_read? [.quotedText, .projectRef] .negatedTag rfl ?_
        (by rw [hword]; rfl)
      rw [hword]
      simp only [List.forall_mem_cons]
      exact ⟨rfl, rfl, nofun⟩

/-! ## §3. Directives -/

namespace Form

/-- The characters of keys. -/
theorem isKeyChar_iff {c : Char} : isKeyChar c = true ↔
    65 ≤ c.toNat ∧ c.toNat ≤ 90 ∨ 97 ≤ c.toNat ∧ c.toNat ≤ 122 ∨ c = '_' := by
  show (decide (c.val ≥ 65 ∧ c.val ≤ 90) || (c.val ≥ 97 && c.val ≤ 122) || c == '_') = true ↔ _
  simp only [Bool.or_eq_true, Bool.and_eq_true, decide_eq_true_eq, beq_iff_eq, or_assoc, ge_iff_le,
    UInt32.le_iff_toNat_le]
  exact Iff.rfl

theorem isKeyChar_of_toLower {c : Char} (h : isKeyChar c.toLower = true) : isKeyChar c = true := by
  have hmark : '_'.toNat = 95 := rfl
  rw [isKeyChar_iff, ← Char.toNat_inj, Text.toNat_toLower, hmark] at h
  rw [isKeyChar_iff, ← Char.toNat_inj, hmark]
  split at h <;> omega

/-- What folds to a key is a key. -/
theorem isKey_of_fold {k key : List Char} (h : Text.fold k = key) (hkey : IsKey key) :
    IsKey k := by
  refine ⟨?_, fun c hc => ?_⟩
  · rintro rfl
    exact hkey.1 h.symm
  · have hlower : c.toLower ∈ key := h ▸ List.mem_map_of_mem hc
    exact isKeyChar_of_toLower (hkey.2 _ hlower)

/-- What may stand in a key begins no priority. -/
theorem startsPriority_of_isKeyChar {c : Char} (h : isKeyChar c = true) :
    startsPriority c = false := by
  have hdigit : c.isDigit = false := by
    rw [← Bool.not_eq_true]
    intro hdigit
    have hto : c.toNat ≤ 57 :=
      UInt32.le_iff_toNat_le.1 (of_decide_eq_true (Bool.and_eq_true_iff.1 hdigit).2)
    -- the digits come before the letters and the underscore
    rcases isKeyChar_iff.1 h with ⟨hfrom, _⟩ | ⟨hfrom, _⟩ | rfl
    · omega
    · omega
    · revert hto
      decide
  have hsign : c ≠ '<' ∧ c ≠ '>' ∧ c ≠ '=' := by
    refine ⟨?_, ?_, ?_⟩ <;> (rintro rfl; revert h; decide)
  simp [startsPriority, hdigit, hsign]

section

variable {key rest : List Char}

/-- The word `overdue` has no colon. -/
theorem afterFolded_overdue_keyed :
    Text.afterFolded "overdue".toList (key ++ ':' :: rest) ≠ some [] := by
  intro h
  have hfold : Text.fold (key ++ ':' :: rest) = "overdue".toList := by
    unfold Text.afterFolded at h
    split at h
    next heq =>
      have hdrop := List.drop_eq_nil_iff.1 (Option.some.inj h)
      rwa [List.take_of_length_le hdrop] at heq
    next => cases h
  have hcolon : ':' ∈ Text.fold (key ++ ':' :: rest) := Text.colon_mem_fold_iff.2 (by simp)
  rw [hfold] at hcolon
  revert hcolon
  decide

/-- Behind a first letter of a key there is another one, or the colon. -/
theorem startsPriority_keyed {c : Char} {cs : List Char} (hkey : IsKey key)
    (h : Text.afterFolded ['p'] (key ++ ':' :: rest) = some (c :: cs)) :
    startsPriority c = false := by
  have hdrop : (key ++ ':' :: rest).drop 1 = c :: cs := by
    unfold Text.afterFolded at h
    split at h
    next => exact Option.some.inj h
    next => cases h
  match key, hkey with
  | [k], _ =>
    obtain ⟨rfl, _⟩ := List.cons.inj hdrop
    rfl
  | k :: k' :: ks, hkey =>
    obtain ⟨rfl, _⟩ := List.cons.inj hdrop
    exact startsPriority_of_isKeyChar (hkey.2 k' (by simp))

/-- A word that begins with a key is left to the directives, unless the key is that of a filter. -/
theorem read?_keyed_eq_none {position : Nat} (hkey : IsKey key)
    (hdue : Text.fold key ≠ "due".toList) (hstatus : Text.fold key ≠ "status".toList) :
    ∀ form ∈ [quotedText, projectRef, negatedTag, tag, due, overdue, status, priority],
      form.read? (key ++ ':' :: rest) position = none := by
  have hcolon : ':' ∉ key := fun h => absurd (hkey.2 ':' h) (by decide)
  have hafterDue : Text.afterFolded "due:".toList (key ++ ':' :: rest) = none :=
    Text.afterFolded_keyed_eq_none "due".toList (by decide) hcolon hdue
  have hafterStatus : Text.afterFolded "status:".toList (key ++ ':' :: rest) = none :=
    Text.afterFolded_keyed_eq_none "status".toList (by decide) hcolon hstatus
  have hoverdue := @afterFolded_overdue_keyed key rest
  have hpriority := @startsPriority_keyed key rest
  obtain ⟨k, ks, rfl⟩ := List.exists_cons_of_ne_nil hkey.1
  have hk : k ≠ '"' ∧ k ≠ '@' ∧ k ≠ '-' ∧ k ≠ '#' := by
    have hk := hkey.2 k List.mem_cons_self
    refine ⟨?_, ?_, ?_, ?_⟩ <;> (rintro rfl; revert hk; decide)
  simp only [List.forall_mem_cons]
  refine ⟨?_, ?_, ?_, ?_, ?_, ?_, ?_, ?_, nofun⟩
  case refine_5 => exact Option.map_eq_none_iff.2 hafterDue
  case refine_6 => exact if_neg hoverdue
  case refine_7 => exact Option.map_eq_none_iff.2 hafterStatus
  case refine_8 =>
    simp only [read?]
    split
    next c cs hafter =>
      rw [hpriority hkey hafter]
      rfl
    next => rfl
  all_goals simp [read?, hk]

end

end Form

/-- A word that is a directive has a key and values behind a colon. -/
theorem parts_of_classify_directive {word : String} {position : Nat} {name : String}
    {values : List String} (h : classify word position = .ok (.directive name values)) :
    ∃ key rest, word.toList = key ++ ':' :: rest ∧ IsKey key ∧ Text.fold key = name.toList ∧
      Form.directiveValues? rest = some values := by
  have hsays := says_classify word position
  rw [h] at hsays
  cases hsays with
  | directive hword hkey hvalues =>
    exact ⟨_, _, hword, hkey, String.toList_ofList.symm, hvalues⟩

/-- A word with a key and a colon that no earlier form fits is a directive, well formed or not. -/
theorem classify_unclaimed {word : String} {key rest : List Char} {position : Nat}
    (hword : word.toList = key ++ ':' :: rest) (hkey : IsKey key)
    (hunclaimed : ∀ form ∈ [.quotedText, .projectRef, .negatedTag, .tag, .due, .overdue, .status,
      .priority], Form.read? form word.toList position = none) :
    classify word position =
      match Form.directiveValues? rest with
      | some values => .ok (.directive (String.ofList (Text.fold key)) values)
      | none => .error (.malformedDirective word position) := by
  have hparts : Form.directiveParts? word.toList = some (key, rest) :=
    Form.directiveParts?_eq_some_iff.2 ⟨hword, hkey⟩
  refine classify_eq_of_read? _ .directive rfl hunclaimed ?_
  unfold Form.read?
  dsimp only
  rw [hparts, String.ofList_toList]
  rfl

/-- **A word with a key and a colon is a directive**, well formed or not, unless the key is that of a
filter. -/
theorem classify_keyed {word : String} {key rest : List Char} {position : Nat}
    (hword : word.toList = key ++ ':' :: rest) (hkey : IsKey key)
    (hdue : Text.fold key ≠ "due".toList) (hstatus : Text.fold key ≠ "status".toList) :
    classify word position =
      match Form.directiveValues? rest with
      | some values => .ok (.directive (String.ofList (Text.fold key)) values)
      | none => .error (.malformedDirective word position) :=
  classify_unclaimed hword hkey (hword ▸ Form.read?_keyed_eq_none hkey hdue hstatus)

end Agenda
