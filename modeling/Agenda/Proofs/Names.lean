import Agenda.Names

/-!
# Looking up in sets and maps of names

What each operation on a `NameMap` does to its look-ups, and that the look-ups are all there is to a
map: two maps with the same value under every name are equal, because both keep their entries in
strictly increasing order. The same goes for a `NameSet` and its members.

Main results:
  * `NameSet.eq_of_mem_iff` — equal members make equal sets;
  * `NameMap.get?_insert`, `NameMap.get?_erase` — the look-ups of a changed map;
  * `NameMap.eq_of_get?_eq` — equal look-ups make equal maps;
  * `NameMap.ofList_entries` — a map is rebuilt from its entries.
-/

namespace Agenda

variable {α : Type}

/-! ## §1. Look-ups in lists of entries -/

theorem lookup_cons_eq {n a : String} {v : α} {l : List (String × α)} :
    ((n, v) :: l).lookup a = if a = n then some v else l.lookup a := by
  rw [List.lookup_cons]
  by_cases h : a = n
  · simp [h]
  · have hb : (a == n) = false := beq_eq_false_iff_ne.2 h
    rw [hb, if_neg h]

/-- Where no name comes twice, each entry is found. -/
theorem lookup_of_mem {e : String × α} {l : List (String × α)} (hnodup : (l.map Prod.fst).Nodup)
    (h : e ∈ l) : l.lookup e.1 = some e.2 := by
  induction l with
  | nil => nomatch h
  | cons e' rest ih =>
    obtain ⟨hfresh, hnodup⟩ := List.nodup_cons.1 hnodup
    rw [lookup_cons_eq]
    rcases List.mem_cons.1 h with rfl | h
    · exact if_pos rfl
    · have hne : e.1 ≠ e'.1 := fun heq => hfresh (heq ▸ List.mem_map_of_mem h)
      rw [if_neg hne, ih hnodup h]

/-- Entries that are made from their names hold for each name what is made from it. -/
theorem lookup_map_self {f : String → α} {a : String} {names : List String} :
    (names.map fun n => (n, f n)).lookup a = if a ∈ names then some (f a) else none := by
  induction names with
  | nil => rfl
  | cons n rest ih =>
    rw [List.map_cons, lookup_cons_eq, ih]
    by_cases h : a = n
    · simp [h]
    · simp [h]

theorem lookup_insertEntry {name a : String} {value : α} {l : List (String × α)} :
    (insertEntry name value l).lookup a = if a = name then some value else l.lookup a := by
  induction l with
  | nil => exact lookup_cons_eq
  | cons e rest ih =>
    obtain ⟨n, v⟩ := e
    unfold insertEntry
    split
    · exact lookup_cons_eq
    · split
      · next heq =>
        subst heq
        rw [lookup_cons_eq, lookup_cons_eq]
        split <;> rfl
      · next hne =>
        -- the head stays, and it answers only for its own name
        rw [lookup_cons_eq, lookup_cons_eq, ih]
        by_cases h : a = n
        · have hna : ¬ n = name := fun hn => hne hn.symm
          simp [h, hna]
        · simp [h]

theorem lookup_filter_ne {name a : String} {l : List (String × α)} :
    (l.filter (·.1 != name)).lookup a = if a = name then none else l.lookup a := by
  induction l with
  | nil => simp
  | cons e rest ih =>
    obtain ⟨n, v⟩ := e
    -- the head goes exactly if it stands under the name
    by_cases hn : n = name
    · subst hn
      rw [List.filter_cons_of_neg (by simp), ih, lookup_cons_eq]
      split <;> rfl
    · rw [List.filter_cons_of_pos (by simpa using hn), lookup_cons_eq, lookup_cons_eq, ih]
      by_cases h : a = n
      · simp [h, hn]
      · simp [h]

theorem lookup_eq_none_of_lt {name : String} {l : List (String × α)}
    (h : ∀ n ∈ l.map (·.1), name < n) : l.lookup name = none := by
  rw [List.lookup_eq_none_iff]
  intro e he
  have hlt : name < e.1 := h e.1 (List.mem_map_of_mem he)
  have hne : name ≠ e.1 := fun heq => String.lt_irrefl _ (heq ▸ hlt)
  simpa using hne

/-- No name that is found in an increasing list is less than its first one. -/
theorem not_lt_head_of_lookup {name n : String} {v value : α} {rest : List (String × α)}
    (hl : (((n, v) :: rest).map (·.1)).Pairwise (· < ·))
    (hfound : ((n, v) :: rest).lookup name = some value) : ¬ name < n := by
  intro hlt
  have hnone : ((n, v) :: rest).lookup name = none := by
    apply lookup_eq_none_of_lt
    intro m hm
    rcases List.mem_cons.1 hm with rfl | hm
    · exact hlt
    · exact String.lt_trans hlt ((List.pairwise_cons.1 hl).1 m hm)
  rw [hnone] at hfound
  cases hfound

/-- Two increasing lists of entries with the same look-ups are equal. -/
theorem entries_eq_of_lookup_eq : ∀ {l l' : List (String × α)},
    (l.map (·.1)).Pairwise (· < ·) → (l'.map (·.1)).Pairwise (· < ·) →
    (∀ name, l.lookup name = l'.lookup name) → l = l'
  | [], [], _, _, _ => rfl
  | [], (n, v) :: rest, _, _, h => by
    have := h n
    simp at this
  | (n, v) :: rest, [], _, _, h => by
    have := h n
    simp at this
  | (n, v) :: rest, (n', v') :: rest', hl, hl', h => by
    obtain ⟨hn, hr⟩ := List.pairwise_cons.1 hl
    obtain ⟨hn', hr'⟩ := List.pairwise_cons.1 hl'
    -- the head is the least name on either side, so the heads have one name
    have hle : n ≤ n' := by
      apply String.not_lt.1
      exact not_lt_head_of_lookup hl ((h n').trans List.lookup_cons_self)
    have hge : n' ≤ n := by
      apply String.not_lt.1
      exact not_lt_head_of_lookup hl' ((h n).symm.trans List.lookup_cons_self)
    obtain rfl : n = n' := String.le_antisymm hle hge
    have hv : v = v' := by
      have := h n
      simpa using this
    subst hv
    have hrest : rest = rest' := by
      refine entries_eq_of_lookup_eq hr hr' fun name => ?_
      by_cases hname : name = n
      · subst hname
        rw [lookup_eq_none_of_lt hn, lookup_eq_none_of_lt hn']
      · have := h name
        simpa [lookup_cons_eq, hname] using this
    rw [hrest]

/-! ## §2. Maps -/

namespace NameMap

@[simp] theorem get?_insert (m : NameMap α) (name a : String) (value : α) :
    (m.insert name value).get? a = if a = name then some value else m.get? a :=
  lookup_insertEntry

@[simp] theorem get?_erase (m : NameMap α) (name a : String) :
    (m.erase name).get? a = if a = name then none else m.get? a :=
  lookup_filter_ne

/-- **Two maps with the same look-ups are equal.** -/
theorem eq_of_get?_eq {m m' : NameMap α} (h : ∀ name, m.get? name = m'.get? name) : m = m' := by
  obtain ⟨l, hl⟩ := m
  obtain ⟨l', hl'⟩ := m'
  have : l = l' := entries_eq_of_lookup_eq hl hl' h
  subst this
  rfl

/-- Putting a value where it is already changes nothing. -/
theorem insert_eq_self {m : NameMap α} {name : String} {value : α}
    (h : m.get? name = some value) : m.insert name value = m := by
  apply eq_of_get?_eq
  intro a
  rw [get?_insert]
  split
  · next ha => rw [ha, h]
  · rfl

/-- Entries with increasing names that are put into a map one after the other are found in it, before
whatever it held. -/
theorem get?_foldl_insert : ∀ {l : List (String × α)} {m : NameMap α} {a : String},
    (l.map (·.1)).Pairwise (· < ·) →
    (l.foldl (fun m (name, value) => m.insert name value) m).get? a = (l.lookup a).or (m.get? a)
  | [], _, _, _ => rfl
  | (n, v) :: rest, m, a, h => by
    obtain ⟨hn, hr⟩ := List.pairwise_cons.1 h
    show (rest.foldl _ (m.insert n v)).get? a = _
    rw [get?_foldl_insert hr, get?_insert, lookup_cons_eq]
    -- the names that follow are greater, so none of them replaces this entry
    by_cases ha : a = n
    · subst ha
      rw [lookup_eq_none_of_lt hn]
      simp
    · simp [ha]

/-- A map is rebuilt from its entries. -/
theorem ofList_entries (m : NameMap α) : ofList m.entries = m := by
  apply eq_of_get?_eq
  intro a
  unfold ofList
  rw [get?_foldl_insert m.increasing]
  show (m.get? a).or none = m.get? a
  rw [Option.or_none]

/-- The names of a map are those with a value. -/
theorem mem_names {m : NameMap α} {name : String} : name ∈ m.names ↔ ∃ v, m.get? name = some v := by
  rw [← Option.isSome_iff_exists]
  unfold names get?
  rw [List.lookup_isSome_iff, List.mem_map]
  exact exists_congr fun e => and_congr_right fun _ => by rw [beq_iff_eq, eq_comm]

end NameMap

/-! ## §3. Sets -/

namespace NameSet

/-- The set with the names of a list put into it. -/
def insertAll (s : NameSet) (names : List String) : NameSet :=
  names.foldl insert s

@[simp] theorem insertAll_nil (s : NameSet) : s.insertAll [] = s := rfl

@[simp] theorem mem_insertAll {a : String} {names : List String} {s : NameSet} :
    a ∈ s.insertAll names ↔ a ∈ s ∨ a ∈ names := by
  induction names generalizing s with
  | nil => simp [insertAll]
  | cons n rest ih =>
    show a ∈ (s.insert n).insertAll rest ↔ _
    rw [ih, mem_insert, List.mem_cons]
    exact ⟨by rintro ((h | h) | h) <;> simp [h], by rintro (h | h | h) <;> simp [h]⟩

@[simp] theorem mem_ofList {a : String} {names : List String} : a ∈ ofList names ↔ a ∈ names := by
  show a ∈ empty.insertAll names ↔ _
  rw [mem_insertAll]
  exact or_iff_right (not_mem_empty a)

theorem nodup_toList (s : NameSet) : s.toList.Nodup := by
  refine s.increasing.imp fun {a b} hlt heq => ?_
  subst heq
  exact String.lt_irrefl a hlt

theorem isEmpty_iff {s : NameSet} : s.isEmpty = true ↔ s = ∅ := by
  obtain ⟨l, hl⟩ := s
  cases l with
  | nil => exact ⟨fun _ => rfl, fun _ => rfl⟩
  | cons n rest => exact ⟨nofun, nofun⟩

/-- **Two sets with the same members are equal.** -/
theorem eq_of_mem_iff {s s' : NameSet} (h : ∀ a, a ∈ s ↔ a ∈ s') : s = s' := by
  have hperm : s.toList.Perm s'.toList :=
    (List.perm_ext_iff_of_nodup s.nodup_toList s'.nodup_toList).2 h
  obtain ⟨l, hl⟩ := s
  obtain ⟨l', hl'⟩ := s'
  obtain rfl : l = l' := hperm.eq_of_pairwise
    (fun a b _ _ hab hba => absurd (String.lt_trans hab hba) (String.lt_irrefl a)) hl hl'
  rfl

end NameSet

end Agenda
