import Mathlib.Data.List.Basic

/-!
# Stable sorting by a comparison

What merge sort makes of a list whose members are compared lawfully: no member is greater than one
behind it, and members that the comparison does not tell apart stay in the order of the list. The
comparison need only be lawful on the members, which is said of its restriction to a property that
they all have.

Main results:
  * `isTotalPreorderOn` — such a comparison is a total preorder on the members;
  * `pairwise_sorted` — the sorted list is in order;
  * `filter_sorted` — the members that tie with a given one stay as they were;
  * `sorted_filter` — leaving members out before sorting or after it makes no difference.
-/

namespace Agenda

variable {α β : Type}

/-- A comparison through a function is as lawful as the comparison of the images. -/
theorem transCmp_of_map {cmp : α → α → Ordering} (cmp' : β → β → Ordering) [Std.TransCmp cmp']
    (f : α → β) (h : ∀ a b, cmp a b = cmp' (f a) (f b)) : Std.TransCmp cmp where
  eq_swap {a b} := by
    rw [h a b, h b a]
    exact Std.OrientedCmp.eq_swap
  isLE_trans {a b c} hab hbc := by
    rw [h] at hab hbc ⊢
    exact Std.TransCmp.isLE_trans hab hbc

/-- Whether a comparison allows the first to stand before the second. -/
def allows (cmp : α → α → Ordering) (a b : α) : Bool :=
  cmp a b != .gt

theorem allows_iff {cmp : α → α → Ordering} {a b : α} :
    allows cmp a b = true ↔ cmp a b ≠ .gt := bne_iff_ne

/-! ## §1. Comparisons that are lawful everywhere -/

section

variable (cmp : α → α → Ordering) [Std.TransCmp cmp]

theorem allows_trans (a b c : α) (hab : allows cmp a b = true) (hbc : allows cmp b c = true) :
    allows cmp a c = true := by
  rw [allows_iff, ne_eq, Ordering.ne_gt_iff_isLE] at hab hbc ⊢
  exact Std.TransCmp.isLE_trans hab hbc

theorem allows_total (a b : α) : (allows cmp a b || allows cmp b a) = true := by
  have hswap : cmp b a = (cmp a b).swap := Std.OrientedCmp.eq_swap
  unfold allows
  rw [hswap]
  cases cmp a b <;> rfl

/-- The members that tie with a given one are sorted already, and sorting keeps the order of a
sorted part. -/
theorem filter_mergeSort (l : List α) (a : α) :
    (l.mergeSort (allows cmp)).filter (fun b => cmp a b = .eq) =
      l.filter fun b => cmp a b = .eq := by
  have hties : (l.filter fun b => cmp a b = .eq).Pairwise fun b c => allows cmp b c = true := by
    refine List.pairwise_iff_forall_sublist.2 fun {b c} hbc => ?_
    have hb : cmp a b = .eq := by simpa using (List.mem_filter.1 (hbc.mem (by simp))).2
    have hc : cmp a c = .eq := by simpa using (List.mem_filter.1 (hbc.mem (by simp))).2
    have hbc : cmp b c = .eq := Std.TransCmp.eq_trans (Std.OrientedCmp.eq_comm.1 hb) hc
    rw [allows_iff, hbc]
    exact nofun
  have hkept : (l.filter fun b => cmp a b = .eq).Sublist (l.mergeSort (allows cmp)) :=
    List.sublist_mergeSort (allows_trans cmp) (allows_total cmp) hties List.filter_sublist
  have hsub : (l.filter fun b => cmp a b = .eq).Sublist
      ((l.mergeSort (allows cmp)).filter fun b => cmp a b = .eq) := by
    have h := hkept.filter fun b => cmp a b = .eq
    rwa [List.filter_filter, funext fun b => Bool.and_self (decide (cmp a b = .eq))] at h
  have hlength : ((l.mergeSort (allows cmp)).filter fun b => cmp a b = .eq).length =
      (l.filter fun b => cmp a b = .eq).length :=
    ((List.mergeSort_perm l (allows cmp)).filter _).length_eq
  exact (hsub.eq_of_length hlength.symm).symm

variable {cmp}

theorem eq_of_allows {a b : α} (hab : allows cmp a b = true) (hba : allows cmp b a = true) :
    cmp a b = .eq := by
  have hswap : cmp b a = (cmp a b).swap := Std.OrientedCmp.eq_swap
  rw [allows_iff] at hab hba
  rw [hswap] at hba
  cases h : cmp a b with
  | eq => rfl
  | lt => simp [h] at hba
  | gt => exact absurd h hab

theorem allows_head {a b : α} {l : List α}
    (hl : (a :: l).Pairwise fun a b => allows cmp a b = true) (hb : b ∈ a :: l) :
    allows cmp a b = true := by
  rcases List.mem_cons.1 hb with rfl | hb
  · simp [allows, Std.ReflCmp.compare_self]
  · exact (List.pairwise_cons.1 hl).1 b hb

/-- Lists in which the same members tie with each member have the same members. -/
theorem mem_of_ties {a : α} {l l' : List α} (ha : a ∈ l)
    (h : l.filter (fun b => cmp a b = .eq) = l'.filter fun b => cmp a b = .eq) : a ∈ l' := by
  have hmem : a ∈ l.filter fun b => cmp a b = .eq := by
    simp [ha, Std.ReflCmp.compare_self]
  rw [h] at hmem
  exact (List.mem_filter.1 hmem).1

/-- Two lists in order are equal if the same members tie with each member, in the same order. -/
theorem eq_of_ties : ∀ {l l' : List α}, (l.Pairwise fun a b => allows cmp a b = true) →
    (l'.Pairwise fun a b => allows cmp a b = true) →
    (∀ a, l.filter (fun b => cmp a b = .eq) = l'.filter fun b => cmp a b = .eq) → l = l'
  | [], [], _, _, _ => rfl
  | a :: l, [], _, _, hties => absurd (mem_of_ties List.mem_cons_self (hties a)) List.not_mem_nil
  | [], b :: l', _, _, hties =>
    absurd (mem_of_ties List.mem_cons_self (hties b).symm) List.not_mem_nil
  | a :: l, b :: l', hl, hl', hties => by
    -- each head is somewhere in the other list, so neither is greater than the other
    have htie : cmp a b = .eq := eq_of_allows
      (allows_head hl (mem_of_ties List.mem_cons_self (hties b).symm))
      (allows_head hl' (mem_of_ties List.mem_cons_self (hties a)))
    have hself : cmp a a = .eq := Std.ReflCmp.compare_self
    -- both heads are the first member that ties with them
    have hheads := hties a
    rw [List.filter_cons_of_pos (by simp [hself]), List.filter_cons_of_pos (by simp [htie])]
      at hheads
    obtain ⟨rfl, -⟩ := List.cons.inj hheads
    have htails : l = l' := by
      refine eq_of_ties (List.pairwise_cons.1 hl).2 (List.pairwise_cons.1 hl').2 fun c => ?_
      have hc := hties c
      by_cases hca : cmp c a = .eq
      · rw [List.filter_cons_of_pos (by simp [hca]), List.filter_cons_of_pos (by simp [hca])] at hc
        exact (List.cons.inj hc).2
      · rwa [List.filter_cons_of_neg (by simp [hca]), List.filter_cons_of_neg (by simp [hca])] at hc
    rw [htails]

variable (cmp)

/-- Sorting keeps the members that satisfy a property as it would sort them alone. -/
theorem mergeSort_filter (l : List α) (p : α → Bool) :
    (l.filter p).mergeSort (allows cmp) = (l.mergeSort (allows cmp)).filter p := by
  have hsorted : ∀ l : List α,
      (l.mergeSort (allows cmp)).Pairwise fun a b => allows cmp a b = true :=
    List.pairwise_mergeSort (allows_trans cmp) (allows_total cmp)
  refine eq_of_ties (hsorted _) ((hsorted l).filter p) fun a => ?_
  rw [filter_mergeSort, List.filter_comm, ← filter_mergeSort, List.filter_comm]

end

/-! ## §2. Comparisons that are lawful on the members -/

section

variable (cmp : α → α → Ordering) {P : α → Prop} {l : List α}

/-- Whether a comparison is a total preorder on the members of a list: it says the opposite when its
sides are exchanged, and standing before, or tying, is total and transitive. -/
structure IsTotalPreorderOn (l : List α) : Prop where
  swap : ∀ a ∈ l, ∀ b ∈ l, cmp a b = (cmp b a).swap
  total : ∀ a ∈ l, ∀ b ∈ l, cmp a b ≠ .gt ∨ cmp b a ≠ .gt
  trans : ∀ a ∈ l, ∀ b ∈ l, ∀ c ∈ l, cmp a b ≠ .gt → cmp b c ≠ .gt → cmp a c ≠ .gt

/-- A list whose members all have a property is a list of members taken with the property, and
sorting does not see the difference. -/
theorem exists_lift_sorted (hl : ∀ a ∈ l, P a) : ∃ l' : List {a // P a}, l = l'.map (·.1) ∧
    l.mergeSort (allows cmp) = (l'.mergeSort (allows fun a b => cmp a.1 b.1)).map (·.1) := by
  have hl' : l = (l.attachWith P hl).map (·.1) := (List.attachWith_map_subtype_val hl).symm
  refine ⟨l.attachWith P hl, hl', ?_⟩
  have hmap : ((l.attachWith P hl).mergeSort (allows fun a b => cmp a.1 b.1)).map (·.1) =
      ((l.attachWith P hl).map (·.1)).mergeSort (allows cmp) :=
    List.map_mergeSort fun _ _ _ _ => rfl
  rw [hmap, ← hl']

variable [Std.TransCmp fun a b : {a // P a} => cmp a.1 b.1]

/-- **A comparison that is lawful on the members is a total preorder on them.** -/
theorem isTotalPreorderOn (hl : ∀ a ∈ l, P a) : IsTotalPreorderOn cmp l := by
  have hcmp : Std.TransCmp fun a b : {a // P a} => cmp a.1 b.1 := inferInstance
  refine ⟨fun a ha b hb => ?_, fun a ha b hb => ?_, fun a ha b hb c hc hab hbc => ?_⟩
  · exact hcmp.eq_swap (a := ⟨a, hl a ha⟩) (b := ⟨b, hl b hb⟩)
  · have htotal := allows_total (fun a b : {a // P a} => cmp a.1 b.1) ⟨a, hl a ha⟩ ⟨b, hl b hb⟩
    rwa [Bool.or_eq_true, allows_iff, allows_iff] at htotal
  · have htrans := allows_trans (fun a b : {a // P a} => cmp a.1 b.1) ⟨a, hl a ha⟩ ⟨b, hl b hb⟩
      ⟨c, hl c hc⟩ (allows_iff.2 hab) (allows_iff.2 hbc)
    exact allows_iff.1 htrans

/-- **The sorted list is in order.** -/
theorem pairwise_sorted (hl : ∀ a ∈ l, P a) :
    (l.mergeSort (allows cmp)).Pairwise fun a b => cmp a b ≠ .gt := by
  obtain ⟨l', -, hsorted⟩ := exists_lift_sorted cmp hl
  rw [hsorted, List.pairwise_map]
  have h := List.pairwise_mergeSort (allows_trans fun a b : {a // P a} => cmp a.1 b.1)
    (allows_total _) l'
  exact h.imp fun h => allows_iff.1 h

/-- **Members that the comparison does not tell apart stay in order.** -/
theorem filter_sorted (hl : ∀ a ∈ l, P a) {a : α} (ha : P a) :
    (l.mergeSort (allows cmp)).filter (fun b => cmp a b = .eq) =
      l.filter fun b => cmp a b = .eq := by
  obtain ⟨l', rfl, hsorted⟩ := exists_lift_sorted cmp hl
  rw [hsorted, List.filter_map, List.filter_map]
  exact congrArg _ (filter_mergeSort (fun a b : {a // P a} => cmp a.1 b.1) l' ⟨a, ha⟩)

/-- **Leaving members out before sorting or after it makes no difference.** -/
theorem sorted_filter (hl : ∀ a ∈ l, P a) (p : α → Bool) :
    (l.filter p).mergeSort (allows cmp) = (l.mergeSort (allows cmp)).filter p := by
  obtain ⟨l', rfl, hsorted⟩ := exists_lift_sorted cmp hl
  have hmap : ∀ l : List {a // P a}, (l.mergeSort (allows fun a b => cmp a.1 b.1)).map (·.1) =
      (l.map (·.1)).mergeSort (allows cmp) := fun _ => List.map_mergeSort fun _ _ _ _ => rfl
  rw [hsorted, List.filter_map, List.filter_map, ← hmap,
    mergeSort_filter fun a b : {a // P a} => cmp a.1 b.1]

end

end Agenda
