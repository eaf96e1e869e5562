import Agenda.Proofs.Json.Texts

/-!
# Printed values read back

What the printer writes, the reader reads as the same value: the two follow the same shape, value by
value, item by item and member by member. The reader may take one step for a value and one for a
member, and each of them is at least one character long, so that its bound is never reached.

A value without content (`other`) is printed as `null`, so the values that come back are the others.

Main results:
  * `number?_toDigits` — digits are read as their number;
  * `value?_printed` — a printed value is read, and what follows it is left;
  * `read?_print` — the printed text of a value spells the value.
-/

namespace Agenda

namespace Json

/-! ## §1. Values with content -/

mutual

/-- Whether every part of the value has content. -/
def Plain : Json → Prop
  | list items => PlainItems items
  | object members => PlainMembers members
  | other => False
  | _ => True

/-- Whether every item of a list has content. -/
def PlainItems : List Json → Prop
  | [] => True
  | item :: items => item.Plain ∧ PlainItems items

/-- Whether every member of an object has content. -/
def PlainMembers : List (String × Json) → Prop
  | [] => True
  | (_, value) :: members => value.Plain ∧ PlainMembers members

end

/-! ## §2. Between the parts -/

/-- What stands behind a printed value: nothing, a comma, or a new line. -/
def EndsValue (rest : List Char) : Prop :=
  rest = [] ∨ (∃ cs, rest = ',' :: cs) ∨ ∃ cs, rest = '\n' :: cs

theorem endsValue_newLine (depth : Nat) (cs : List Char) : EndsValue (newLine depth ++ cs) :=
  .inr (.inr ⟨_, rfl⟩)

theorem skipSpace_cons {c : Char} {cs : List Char} (h : isSpace c = false) :
    skipSpace (c :: cs) = c :: cs := by
  unfold skipSpace
  rw [List.dropWhile_cons_of_neg (by simp [h])]

theorem skipSpace_newLine (depth : Nat) (cs : List Char) :
    skipSpace (newLine depth ++ cs) = skipSpace cs := by
  unfold skipSpace
  apply List.dropWhile_append_of_pos
  intro c hc
  rcases List.mem_cons.1 hc with rfl | hc
  · rfl
  · obtain rfl := (List.mem_replicate.1 hc).2
    rfl

theorem skipSpace_quoted (s : String) (rest : List Char) :
    skipSpace (quoted s ++ rest) = quoted s ++ rest :=
  skipSpace_cons rfl

/-! ## §3. Numbers -/

theorem isDigit_ne {c other : Char} (hc : c.isDigit = true) (hother : other.isDigit = false) :
    c ≠ other := by
  rintro rfl
  rw [hc] at hother
  cases hother

theorem toDigits_head (n : Nat) :
    ∃ c cs, Nat.toDigits 10 n = c :: cs ∧ c.isDigit = true := by
  obtain ⟨c, cs, hcs⟩ := List.exists_cons_of_ne_nil (Nat.toDigits_ne_nil (n := n) (b := 10))
  have hmem : c ∈ Nat.toDigits 10 n := by
    rw [hcs]
    exact List.mem_cons_self
  exact ⟨c, cs, hcs, Nat.isDigit_of_mem_toDigits (by decide) (by decide) hmem⟩

/-- Only zero is written with a zero in front. -/
theorem eq_zero_of_head?_toDigits {n : Nat} (h : (Nat.toDigits 10 n).head? = some '0') : n = 0 := by
  induction n using Nat.strongRecOn with
  | ind n ih =>
    by_cases hn : n < 10
    · have hdigits : ∀ n < 10, n.digitChar = '0' → n = 0 := by decide
      rw [Nat.toDigits_of_lt_base hn] at h
      exact hdigits n hn (Option.some.inj h)
    · -- the first digit of a longer number is that of its tenth
      have hle : 10 ≤ n := Nat.le_of_not_lt hn
      obtain ⟨c, cs, hcs, _⟩ := toDigits_head (n / 10)
      rw [Nat.toDigits_of_base_le (by decide) hle, hcs] at h
      have hzero : n / 10 = 0 := ih (n / 10) (by omega) (by rw [hcs]; exact h)
      omega

section

variable {rest : List Char}

theorem EndsValue.takeWhile_isDigit (h : EndsValue rest) : rest.takeWhile Char.isDigit = [] := by
  rcases h with rfl | ⟨cs, rfl⟩ | ⟨cs, rfl⟩ <;> rfl

theorem EndsValue.dropWhile_isDigit (h : EndsValue rest) :
    rest.dropWhile Char.isDigit = rest := by
  rcases h with rfl | ⟨cs, rfl⟩ | ⟨cs, rfl⟩ <;> rfl

theorem EndsValue.dropFraction? (h : EndsValue rest) : dropFraction? rest = some rest := by
  rcases h with rfl | ⟨cs, rfl⟩ | ⟨cs, rfl⟩ <;> rfl

theorem EndsValue.dropExponent? (h : EndsValue rest) : dropExponent? rest = some rest := by
  rcases h with rfl | ⟨cs, rfl⟩ | ⟨cs, rfl⟩ <;> rfl

theorem EndsValue.endsWhole (h : EndsValue rest) : endsWhole rest = true := by
  rcases h with rfl | ⟨cs, rfl⟩ | ⟨cs, rfl⟩ <;> rfl

/-- **Digits are read as their number.** -/
theorem number?_toDigits {negative : Bool} {n : Nat} (hn : negative = true → n ≠ 0)
    (hrest : EndsValue rest) : number? negative (Nat.toDigits 10 n ++ rest) =
      some (num (if negative then -(n : Int) else n), rest) := by
  have hdigits : ∀ c ∈ Nat.toDigits 10 n, c.isDigit = true := fun c hc =>
    Nat.isDigit_of_mem_toDigits (by decide) (by decide) hc
  have htake : (Nat.toDigits 10 n ++ rest).takeWhile Char.isDigit = Nat.toDigits 10 n := by
    rw [List.takeWhile_append_of_pos hdigits, hrest.takeWhile_isDigit, List.append_nil]
  have hdrop : (Nat.toDigits 10 n ++ rest).dropWhile Char.isDigit = rest := by
    rw [List.dropWhile_append_of_pos hdigits, hrest.dropWhile_isDigit]
  -- there is a digit, and a zero stands in front only if it stands alone
  have hstart : ¬ (Nat.toDigits 10 n = [] ∨
      ((Nat.toDigits 10 n).head? = some '0' ∧ Nat.toDigits 10 n ≠ ['0'])) := by
    rintro (hnil | ⟨hhead, hne⟩)
    · exact Nat.toDigits_ne_nil hnil
    · rw [eq_zero_of_head?_toDigits hhead] at hne
      exact hne rfl
  unfold number?
  dsimp only
  rw [htake, hdrop, if_neg hstart, hrest.dropFraction?]
  dsimp only [Option.bind_eq_bind, Option.bind_some]
  rw [hrest.dropExponent?]
  dsimp only [Option.bind_some]
  rw [Nat.ofDigitChars_ten_toDigits, if_pos ⟨hrest.endsWhole, hn⟩]
  rfl

end

theorem value?_number {fuel : Nat} {cs rest : List Char} {n : Int} (hrest : EndsValue rest)
    (hcs : skipSpace cs = integer n ++ rest) : value? (fuel + 1) cs = some (num n, rest) := by
  unfold integer at hcs
  split at hcs
  next hneg =>
    have hnonzero : true = true → n.natAbs ≠ 0 := by omega
    rw [value?, hcs]
    show number? true (Nat.toDigits 10 n.natAbs ++ rest) = _
    rw [number?_toDigits hnonzero hrest, if_pos rfl]
    have habs : -(n.natAbs : Int) = n := by omega
    rw [habs]
  next hneg =>
    obtain ⟨c, ds, hds, hc⟩ := toDigits_head n.natAbs
    have hvalue : value? (fuel + 1) cs = number? false (Nat.toDigits 10 n.natAbs ++ rest) := by
      rw [value?, hcs, hds]
      -- no other value starts with a digit
      split
      case h_8 => rfl
      all_goals
        next heq =>
          have hfirst := (List.cons.inj heq).1
          exact absurd hfirst (isDigit_ne hc rfl)
    have hunsigned : false = true → n.natAbs ≠ 0 := fun h => nomatch h
    rw [hvalue, number?_toDigits hunsigned hrest]
    have habs : (n.natAbs : Int) = n := by omega
    rw [if_neg nofun, habs]

/-! ## §4. Values -/

/-- A printed value starts with neither a blank nor a closing bracket. -/
theorem printed_head (depth : Nat) {j : Json} (hj : j.Plain) :
    ∃ c cs, printed depth j = c :: cs ∧ isSpace c = false ∧ c ≠ ']' := by
  cases j with
  | null => exact ⟨_, _, rfl, rfl, by decide⟩
  | bool b => cases b <;> exact ⟨_, _, rfl, rfl, by decide⟩
  | num n =>
    rw [printed]
    unfold integer
    split
    · exact ⟨_, _, rfl, rfl, by decide⟩
    · obtain ⟨c, ds, hds, hc⟩ := toDigits_head n.natAbs
      refine ⟨c, ds, hds, ?_, isDigit_ne hc rfl⟩
      have h₁ : c ≠ ' ' := isDigit_ne hc rfl
      have h₂ : c ≠ '\t' := isDigit_ne hc rfl
      have h₃ : c ≠ '\n' := isDigit_ne hc rfl
      have h₄ : c ≠ '\r' := isDigit_ne hc rfl
      simp [isSpace, h₁, h₂, h₃, h₄]
  | text s => exact ⟨_, _, rfl, rfl, by decide⟩
  | list items =>
    cases items with
    | nil => exact ⟨_, _, rfl, rfl, by decide⟩
    | cons item items => exact ⟨_, _, rfl, rfl, by decide⟩
  | object members =>
    cases members with
    | nil => exact ⟨_, _, rfl, rfl, by decide⟩
    | cons member members => exact ⟨_, _, rfl, rfl, by decide⟩
  | other => exact hj.elim

theorem skipSpace_printed (depth : Nat) {j : Json} (hj : j.Plain) (rest : List Char) :
    skipSpace (printed depth j ++ rest) = printed depth j ++ rest := by
  obtain ⟨c, cs, hprinted, hspace, _⟩ := printed_head depth hj
  rw [hprinted]
  exact skipSpace_cons hspace

theorem value?_text {fuel : Nat} {cs rest : List Char} {s : String}
    (hcs : skipSpace cs = quoted s ++ rest) : value? (fuel + 1) cs = some (text s, rest) := by
  have hquoted : quoted s ++ rest = '"' :: (s.toList.flatMap escaped ++ '"' :: rest) := by
    simp [quoted]
  rw [value?, hcs, hquoted]
  show (text? _).map _ = _
  rw [text?_quoted]
  rfl

/-- A list with items: behind the bracket stands the first one. -/
theorem value?_list {fuel : Nat} {cs body rest rest' : List Char} {item : Json}
    {items : List Json} (hcs : skipSpace cs = '[' :: body)
    (hopen : ∀ tail, skipSpace body ≠ ']' :: tail)
    (hitem : value? fuel (skipSpace body) = some (item, rest))
    (hitems : items? fuel rest = some (items, rest')) :
    value? (fuel + 1) cs = some (list (item :: items), rest') := by
  rw [value?, hcs]
  split
  case h_2 body' hbody =>
    obtain rfl : body = body' := (List.cons.inj hbody).2
    split
    next tail hclose => exact absurd hclose (hopen tail)
    next =>
      rw [hitem]
      show (items? fuel rest).bind _ = _
      rw [hitems]
      rfl
  -- every other form begins with another character
  all_goals simp_all

theorem items?_cons {fuel : Nat} {cs body rest rest' : List Char} {item : Json}
    {items : List Json} (hcs : skipSpace cs = ',' :: body)
    (hitem : value? fuel body = some (item, rest))
    (hitems : items? fuel rest = some (items, rest')) :
    items? (fuel + 1) cs = some (item :: items, rest') := by
  rw [items?, hcs]
  show (value? fuel body).bind _ = _
  rw [hitem, Option.bind_some]
  show (items? fuel rest).bind _ = _
  rw [hitems]
  rfl

/-- An object with members: behind the brace stands the first one. -/
theorem value?_object {fuel : Nat} {cs body rest rest' : List Char}
    {first : Option String × Json} {members : List (Option String × Json)}
    (hcs : skipSpace cs = '{' :: body)
    (hopen : ∀ tail, skipSpace body ≠ '}' :: tail)
    (hfirst : member? fuel (skipSpace body) = some (first, rest))
    (hmembers : members? fuel rest = some (members, rest')) :
    value? (fuel + 1) cs = some (objectOf (first :: members), rest') := by
  rw [value?, hcs]
  split
  case h_3 body' hbody =>
    obtain rfl : body = body' := (List.cons.inj hbody).2
    split
    next tail hclose => exact absurd hclose (hopen tail)
    next =>
      rw [hfirst]
      show (members? fuel rest).bind _ = _
      rw [hmembers]
      rfl
  all_goals simp_all

theorem members?_cons {fuel : Nat} {cs body rest rest' : List Char}
    {first : Option String × Json} {members : List (Option String × Json)}
    (hcs : skipSpace cs = ',' :: body)
    (hfirst : member? fuel body = some (first, rest))
    (hmembers : members? fuel rest = some (members, rest')) :
    members? (fuel + 1) cs = some (first :: members, rest') := by
  rw [members?, hcs]
  show (member? fuel body).bind _ = _
  rw [hfirst, Option.bind_some]
  show (members? fuel rest).bind _ = _
  rw [hmembers]
  rfl

theorem member?_quoted {fuel : Nat} {cs tail rest : List Char} {name : String} {value : Json}
    (hcs : skipSpace cs = quoted name ++ ':' :: tail)
    (hvalue : value? fuel tail = some (value, rest)) :
    member? (fuel + 1) cs = some ((some name, value), rest) := by
  have hquoted : quoted name ++ ':' :: tail =
      '"' :: (name.toList.flatMap escaped ++ '"' :: ':' :: tail) := by
    simp [quoted]
  have hcolon : skipSpace (':' :: tail) = ':' :: tail := skipSpace_cons rfl
  rw [member?, hcs, hquoted]
  show (text? _).bind _ = _
  rw [text?_quoted, Option.bind_some]
  dsimp only
  rw [hcolon]
  show (value? fuel tail).bind _ = _
  rw [hvalue]
  rfl

theorem objectOf_some (members : List (String × Json)) :
    objectOf (members.map fun (name, value) => (some name, value)) = object members := by
  unfold objectOf
  suffices hnames : List.mapM _ (members.map _) = some members by rw [hnames]
  induction members with
  | nil => rfl
  | cons member members ih =>
    rw [List.map_cons, List.mapM_cons, ih]
    rfl

theorem endsValue_printedItems {depth : Nat} {items : List Json} {tail : List Char}
    (htail : EndsValue tail) : EndsValue (printedItems depth items ++ tail) := by
  cases items with
  | nil => exact htail
  | cons item items => exact .inr (.inl ⟨_, rfl⟩)

theorem endsValue_printedMembers {depth : Nat} {members : List (String × Json)}
    {tail : List Char} (htail : EndsValue tail) :
    EndsValue (printedMembers depth members ++ tail) := by
  cases members with
  | nil => exact htail
  | cons member members => exact .inr (.inl ⟨_, rfl⟩)

/-! ## §5. Layout -/

theorem printed_list_append (depth : Nat) (item : Json) (items : List Json) (rest : List Char) :
    printed depth (list (item :: items)) ++ rest =
      '[' :: (newLine (depth + 1) ++ (printed (depth + 1) item ++
        (printedItems (depth + 1) items ++ (newLine depth ++ ']' :: rest)))) := by
  simp [printed]

theorem printedItems_append (depth : Nat) (item : Json) (items : List Json) (rest : List Char) :
    printedItems depth (item :: items) ++ rest =
      ',' :: (newLine depth ++ (printed depth item ++ (printedItems depth items ++ rest))) := by
  simp [printedItems]

theorem printed_object_append (depth : Nat) (name : String) (value : Json)
    (members : List (String × Json)) (rest : List Char) :
    printed depth (object ((name, value) :: members)) ++ rest =
      '{' :: (newLine (depth + 1) ++ (quoted name ++ ':' :: ' ' :: (printed (depth + 1) value ++
        (printedMembers (depth + 1) members ++ (newLine depth ++ '}' :: rest))))) := by
  simp [printed]

theorem printedMembers_append (depth : Nat) (name : String) (value : Json)
    (members : List (String × Json)) (rest : List Char) :
    printedMembers depth ((name, value) :: members) ++ rest =
      ',' :: (newLine depth ++ (quoted name ++ ':' :: ' ' :: (printed depth value ++
        (printedMembers depth members ++ rest)))) := by
  simp [printedMembers]

theorem skipSpace_line_printed (depth : Nat) {j : Json} (hj : j.Plain) (rest : List Char) :
    skipSpace (newLine depth ++ (printed depth j ++ rest)) = printed depth j ++ rest := by
  rw [skipSpace_newLine, skipSpace_printed _ hj]

theorem skipSpace_line_quoted (depth : Nat) (s : String) (rest : List Char) :
    skipSpace (newLine depth ++ (quoted s ++ rest)) = quoted s ++ rest := by
  rw [skipSpace_newLine, skipSpace_quoted]

theorem skipSpace_line_closing {c : Char} (hc : isSpace c = false) (depth : Nat) (rest : List Char) :
    skipSpace (newLine depth ++ c :: rest) = c :: rest := by
  rw [skipSpace_newLine, skipSpace_cons hc]

/-! ## §6. Round trips -/

mutual

/-- A printed value is read, and what follows it is left. -/
theorem value?_printed : ∀ (j : Json) {fuel depth : Nat} {cs rest : List Char}, j.Plain →
    EndsValue rest → 2 * (printed depth j).length < fuel →
    skipSpace cs = printed depth j ++ rest → value? fuel cs = some (j, rest)
  | j, 0, _, _, _, _, _, hfuel, _ => absurd hfuel (Nat.not_lt_zero _)
  | null, fuel + 1, _, _, _, _, _, _, hcs => by rw [value?, hcs]; rfl
  | bool true, fuel + 1, _, _, _, _, _, _, hcs => by rw [value?, hcs]; rfl
  | bool false, fuel + 1, _, _, _, _, _, _, hcs => by rw [value?, hcs]; rfl
  | num n, fuel + 1, _, _, _, _, hrest, _, hcs => value?_number hrest hcs
  | text s, fuel + 1, _, _, _, _, _, _, hcs => value?_text hcs
  | list [], fuel + 1, _, _, _, _, _, _, hcs => by rw [value?, hcs]; rfl
  | list (item :: items), fuel + 1, depth, cs, rest, hj, _, hfuel, hcs => by
    obtain ⟨hitem, hitems⟩ := hj
    rw [printed_list_append] at hcs
    simp only [printed, List.length_cons, List.length_append] at hfuel
    have htail : EndsValue (newLine depth ++ ']' :: rest) := endsValue_newLine _ _
    have hothers : 2 * (printedItems (depth + 1) items).length < fuel := by omega
    refine value?_list hcs ?_ ?_
      (items?_printedItems items hitems htail (skipSpace_line_closing rfl _ _) hothers)
    · -- the list is not closed at once, because an item does not start with a bracket
      intro tail heq
      obtain ⟨c, ds, hhead, _, hbracket⟩ := printed_head (depth + 1) hitem
      rw [skipSpace_line_printed _ hitem, hhead] at heq
      exact hbracket (List.cons.inj heq).1
    · have hfirst : 2 * (printed (depth + 1) item).length < fuel := by omega
      rw [skipSpace_line_printed _ hitem]
      exact value?_printed item hitem (endsValue_printedItems htail) hfirst
        (skipSpace_printed _ hitem _)
  | object [], fuel + 1, _, _, _, _, _, _, hcs => by rw [value?, hcs]; rfl
  | object ((name, value) :: members), fuel + 1, depth, cs, rest, hj, _, hfuel, hcs => by
    obtain ⟨hvalue, hmembers⟩ := hj
    rw [printed_object_append] at hcs
    simp only [printed, List.length_cons, List.length_append] at hfuel
    have htail : EndsValue (newLine depth ++ '}' :: rest) := endsValue_newLine _ _
    have hothers : 2 * (printedMembers (depth + 1) members).length < fuel := by omega
    rw [← objectOf_some]
    refine value?_object hcs ?_ ?_
      (members?_printedMembers members hmembers htail (skipSpace_line_closing rfl _ _) hothers)
    · intro tail heq
      rw [skipSpace_line_quoted] at heq
      cases heq
    · -- a member takes a step of its own before its value
      obtain ⟨fuel, rfl⟩ : ∃ f, fuel = f + 1 := ⟨fuel - 1, by omega⟩
      have hfirst : 2 * (printed (depth + 1) value).length < fuel := by omega
      rw [skipSpace_line_quoted]
      refine member?_quoted (skipSpace_quoted _ _) ?_
      exact value?_printed value hvalue (endsValue_printedMembers htail) hfirst
        (skipSpace_printed _ hvalue _)
  | other, _, _, _, _, hj, _, _, _ => hj.elim

/-- Printed items are read up to the closing bracket. -/
theorem items?_printedItems : ∀ (items : List Json) {fuel depth : Nat} {tail rest : List Char},
    PlainItems items → EndsValue tail → skipSpace tail = ']' :: rest →
    2 * (printedItems depth items).length < fuel →
    items? fuel (printedItems depth items ++ tail) = some (items, rest)
  | items, 0, _, _, _, _, _, _, hfuel => absurd hfuel (Nat.not_lt_zero _)
  | [], fuel + 1, depth, tail, rest, _, _, htail, _ => by
    show items? (fuel + 1) tail = _
    rw [items?, htail]
    rfl
  | item :: items, fuel + 1, depth, tail, rest, hitems, hends, htail, hfuel => by
    obtain ⟨hitem, hitems⟩ := hitems
    rw [printedItems_append]
    simp only [printedItems, List.length_cons, List.length_append] at hfuel
    have hfirst : 2 * (printed depth item).length < fuel := by omega
    have hothers : 2 * (printedItems depth items).length < fuel := by omega
    refine items?_cons (skipSpace_cons rfl) ?_
      (items?_printedItems items hitems hends htail hothers)
    exact value?_printed item hitem (endsValue_printedItems hends) hfirst
      (skipSpace_line_printed _ hitem _)

/-- Printed members are read up to the closing brace. -/
theorem members?_printedMembers : ∀ (members : List (String × Json)) {fuel depth : Nat}
    {tail rest : List Char}, PlainMembers members → EndsValue tail →
    skipSpace tail = '}' :: rest → 2 * (printedMembers depth members).length < fuel →
    members? fuel (printedMembers depth members ++ tail) =
      some (members.map fun (name, value) => (some name, value), rest)
  | members, 0, _, _, _, _, _, _, hfuel => absurd hfuel (Nat.not_lt_zero _)
  | [], fuel + 1, depth, tail, rest, _, _, htail, _ => by
    show members? (fuel + 1) tail = _
    rw [members?, htail]
    rfl
  | (name, value) :: members, fuel + 1, depth, tail, rest, hmembers, hends, htail, hfuel => by
    obtain ⟨hvalue, hmembers⟩ := hmembers
    rw [printedMembers_append]
    simp only [printedMembers, List.length_cons, List.length_append] at hfuel
    have hothers : 2 * (printedMembers depth members).length < fuel := by omega
    refine members?_cons (skipSpace_cons rfl) ?_
      (members?_printedMembers members hmembers hends htail hothers)
    obtain ⟨fuel, rfl⟩ : ∃ f, fuel = f + 1 := ⟨fuel - 1, by omega⟩
    have hfirst : 2 * (printed depth value).length < fuel := by omega
    refine member?_quoted (skipSpace_line_quoted _ _ _) ?_
    exact value?_printed value hvalue (endsValue_printedMembers hends) hfirst
      (skipSpace_printed _ hvalue _)

end

/-- **The printed text of a value spells the value.** -/
theorem read?_print {j : Json} (hj : j.Plain) : read? j.print = some j := by
  have hvalue : value? (2 * (printed 0 j).length + 1) (printed 0 j) = some (j, []) := by
    refine value?_printed j hj (.inl rfl) (Nat.lt_succ_self _) ?_
    have hskip := skipSpace_printed 0 hj []
    rwa [List.append_nil] at hskip ⊢
  unfold read? print
  rw [String.toList_ofList, hvalue]
  rfl

end Json

end Agenda
