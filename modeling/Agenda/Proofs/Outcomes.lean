import Mathlib.Data.List.Forall2

/-!
# Computations that may fail

How to take an `Except` computation that has succeeded apart: a sequence of two steps, a loop over a
list, and what every step of a loop preserves. Outcomes can be compared, so that a computation on
given inputs can be checked by running it.
-/

namespace Agenda

variable {ε α β : Type}

instance instDecidableEqExcept [DecidableEq ε] [DecidableEq α] : DecidableEq (Except ε α)
  | .error e, .error e' => decidable_of_iff (e = e') (by simp)
  | .ok a, .ok a' => decidable_of_iff (a = a') (by simp)
  | .error _, .ok _ => .isFalse nofun
  | .ok _, .error _ => .isFalse nofun

theorem bind_eq_ok {x : Except ε α} {f : α → Except ε β} {b : β} :
    (x >>= f) = .ok b ↔ ∃ a, x = .ok a ∧ f a = .ok b := by
  cases x with
  | error e => exact ⟨nofun, fun ⟨_, h, _⟩ => nomatch h⟩
  | ok a => exact ⟨fun h => ⟨a, rfl, h⟩, fun ⟨_, rfl, h⟩ => h⟩

theorem bind_pure_eq_ok {x : Except ε α} {f : α → β} {b : β} :
    (x >>= fun a => pure (f a)) = .ok b ↔ ∃ a, x = .ok a ∧ b = f a := by
  rw [bind_eq_ok]
  exact exists_congr fun a => and_congr_right fun _ =>
    ⟨fun h => (Except.ok.inj h).symm, fun h => congrArg _ h.symm⟩

theorem map_eq_ok {x : Except ε α} {f : α → β} {b : β} :
    x.map f = .ok b ↔ ∃ a, x = .ok a ∧ f a = b := by
  cases x with
  | error e => exact ⟨nofun, fun ⟨_, h, _⟩ => nomatch h⟩
  | ok a => exact ⟨fun h => ⟨a, rfl, Except.ok.inj h⟩, fun ⟨_, rfl, h⟩ => congrArg _ h⟩

theorem bind_eq_error {x : Except ε α} {f : α → Except ε β} {e : ε} :
    (x >>= f) = .error e ↔ x = .error e ∨ ∃ a, x = .ok a ∧ f a = .error e := by
  cases x with
  | error e' =>
    constructor
    · intro h
      exact .inl (congrArg _ (Except.error.inj h))
    · rintro (h | ⟨_, h, _⟩)
      · exact congrArg _ (Except.error.inj h)
      · cases h
  | ok a =>
    constructor
    · intro h
      exact .inr ⟨a, rfl, h⟩
    · rintro (h | ⟨b, hb, h⟩)
      · cases h
      · obtain rfl := Except.ok.inj hb
        exact h

theorem map_eq_error {x : Except ε α} {f : α → β} {e : ε} :
    x.map f = .error e ↔ x = .error e := by
  cases x with
  | error e' =>
    constructor <;> intro h <;> exact congrArg _ (Except.error.inj h)
  | ok a => exact ⟨nofun, nofun⟩

theorem mapError_eq_error {ε' : Type} {x : Except ε α} {f : ε → ε'} {e' : ε'} :
    x.mapError f = .error e' ↔ ∃ e, x = .error e ∧ f e = e' := by
  cases x with
  | error e =>
    constructor
    · intro h
      exact ⟨e, rfl, Except.error.inj h⟩
    · rintro ⟨e', he, h⟩
      obtain rfl := Except.error.inj he
      exact congrArg _ h
  | ok a => exact ⟨nofun, fun ⟨_, h, _⟩ => nomatch h⟩

theorem mapError_eq_ok {ε' : Type} {x : Except ε α} {f : ε → ε'} {a : α} :
    x.mapError f = .ok a ↔ x = .ok a := by
  cases x with
  | error e => exact ⟨nofun, nofun⟩
  | ok b => constructor <;> intro h <;> exact congrArg _ (Except.ok.inj h)

theorem ite_eq_ok {p : Prop} [Decidable p] {a b : α} {e : ε} :
    (if p then Except.ok a else .error e) = .ok b ↔ p ∧ a = b := by
  by_cases h : p <;> simp [h]

/-- Every result of a loop over a list is the result of one of its items. -/
theorem forall_mem_of_mapM_eq_ok {f : α → Except ε β} {P : β → Prop}
    (hf : ∀ a b, f a = .ok b → P b) :
    ∀ {l : List α} {bs : List β}, l.mapM f = .ok bs → ∀ b ∈ bs, P b
  | [], bs, h => by
    rw [List.mapM_nil] at h
    obtain rfl : [] = bs := Except.ok.inj h
    exact nofun
  | a :: l, bs, h => by
    rw [List.mapM_cons] at h
    obtain ⟨b, hb, h⟩ := bind_eq_ok.1 h
    obtain ⟨rest, hrest, h⟩ := bind_eq_ok.1 h
    obtain rfl : b :: rest = bs := Except.ok.inj h
    intro c hc
    rcases List.mem_cons.1 hc with rfl | hc
    · exact hf a _ hb
    · exact forall_mem_of_mapM_eq_ok hf hrest c hc

/-- A loop over a list whose results tell the items back. -/
theorem map_of_mapM_eq_ok {f : α → Except ε β} {g : β → α}
    (hf : ∀ a b, f a = .ok b → g b = a) :
    ∀ {l : List α} {bs : List β}, l.mapM f = .ok bs → bs.map g = l
  | [], bs, h => by
    rw [List.mapM_nil] at h
    obtain rfl : [] = bs := Except.ok.inj h
    rfl
  | a :: l, bs, h => by
    rw [List.mapM_cons] at h
    obtain ⟨b, hb, h⟩ := bind_eq_ok.1 h
    obtain ⟨rest, hrest, h⟩ := bind_eq_ok.1 h
    obtain rfl : b :: rest = bs := Except.ok.inj h
    rw [List.map_cons, hf a b hb, map_of_mapM_eq_ok hf hrest]

/-- A loop over a list succeeds if each of the items does. -/
theorem exists_mapM_eq_ok {γ : Type} {f : α → Except ε β} {R : γ → β → Prop} {cs : List γ}
    {l : List α} (h : List.Forall₂ (fun c a => ∃ b, f a = .ok b ∧ R c b) cs l) :
    ∃ bs, l.mapM f = .ok bs ∧ List.Forall₂ R cs bs := by
  induction h with
  | nil => exact ⟨[], rfl, .nil⟩
  | cons hitem _ ih =>
    obtain ⟨b, hb, hR⟩ := hitem
    obtain ⟨bs, hbs, hrest⟩ := ih
    refine ⟨b :: bs, ?_, .cons hR hrest⟩
    rw [List.mapM_cons, hb, hbs]
    rfl

/-- A loop over a list fails where one of the items does. -/
theorem exists_of_mapM_eq_error {f : α → Except ε β} {e : ε} :
    ∀ {l : List α}, l.mapM f = .error e → ∃ a ∈ l, f a = .error e
  | [], h => by
    rw [List.mapM_nil] at h
    cases h
  | a :: l, h => by
    rw [List.mapM_cons] at h
    rcases bind_eq_error.1 h with ha | ⟨b, _, h⟩
    · exact ⟨a, List.mem_cons_self, ha⟩
    · rcases bind_eq_error.1 h with hl | ⟨bs, _, h⟩
      · obtain ⟨a', ha', he⟩ := exists_of_mapM_eq_error hl
        exact ⟨a', List.mem_cons_of_mem _ ha', he⟩
      · cases h

/-- What every step of a loop preserves, the whole loop preserves. -/
theorem foldlM_preserves {f : β → α → Except ε β} {P : β → Prop} :
    ∀ {l : List α} {b b' : β},
      (∀ a ∈ l, ∀ b b', P b → f b a = .ok b' → P b') → P b → l.foldlM f b = .ok b' → P b'
  | [], b, b', _, hb, h => by
    obtain rfl : b = b' := Except.ok.inj h
    exact hb
  | a :: l, b, b', hf, hb, h => by
    rw [List.foldlM_cons] at h
    obtain ⟨c, hc, h⟩ := bind_eq_ok.1 h
    have hP : P c := hf a List.mem_cons_self b c hb hc
    exact foldlM_preserves (fun a ha => hf a (List.mem_cons_of_mem _ ha)) hP h

/-- A loop that succeeds for some items does the same for others that are as good. -/
theorem foldlM_eq_ok_of_forall₂ {γ : Type} {f : β → α → Except ε β} {g : β → γ → Except ε β}
    {R : α → γ → Prop} (hR : ∀ a c, R a c → ∀ b b', f b a = .ok b' → g b c = .ok b')
    {l : List α} {l' : List γ} (hl : List.Forall₂ R l l') {b b' : β}
    (h : l.foldlM f b = .ok b') : l'.foldlM g b = .ok b' := by
  induction hl generalizing b with
  | nil => exact h
  | cons hac _ ih =>
    rw [List.foldlM_cons] at h ⊢
    obtain ⟨d, hd, h⟩ := bind_eq_ok.1 h
    exact bind_eq_ok.2 ⟨d, hR _ _ hac _ _ hd, ih h⟩

/-- A loop whose steps succeed for certain items, whatever came before, succeeds for lists of these
items and does what its steps do. -/
theorem foldlM_eq_ok {f : β → α → Except ε β} {P : α → Prop} {g : β → α → β}
    (hf : ∀ b a b', f b a = .ok b' ↔ P a ∧ b' = g b a) :
    ∀ {l : List α} {b b' : β}, l.foldlM f b = .ok b' ↔ (∀ a ∈ l, P a) ∧ b' = l.foldl g b
  | [], b, b' => by
    constructor
    · intro h
      exact ⟨nofun, (Except.ok.inj h).symm⟩
    · rintro ⟨-, rfl⟩
      rfl
  | a :: l, b, b' => by
    rw [List.foldlM_cons, bind_eq_ok, List.forall_mem_cons, List.foldl_cons, and_assoc]
    constructor
    · rintro ⟨c, hc, h⟩
      obtain ⟨ha, rfl⟩ := (hf b a c).1 hc
      exact ⟨ha, (foldlM_eq_ok hf).1 h⟩
    · rintro ⟨ha, h⟩
      exact ⟨g b a, (hf b a _).2 ⟨ha, rfl⟩, (foldlM_eq_ok hf).2 h⟩

/-- A loop in which every item has a result gives all of them. -/
theorem mapM_eq_some_map {f : α → Option β} {g : α → β} :
    ∀ {l : List α}, (∀ a ∈ l, f a = some (g a)) → l.mapM f = some (l.map g)
  | [], _ => rfl
  | a :: l, h => by
    obtain ⟨ha, hl⟩ := List.forall_mem_cons.1 h
    rw [List.mapM_cons, ha, mapM_eq_some_map hl]
    rfl

end Agenda
