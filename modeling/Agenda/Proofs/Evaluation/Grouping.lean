import Mathlib.Data.List.Dedup
import Mathlib.Data.List.Perm.Basic
import Agenda.Evaluation.Row

/-!
# Gathering rows into groups

The groups are the rows cut up by a key that is computed from each row alone: each group holds all
rows with its key, in order, and a group stands where the first of its rows stands. This holds of
any rows and any field, whatever the keys are made from.

Main results:
  * `Group.mem_gather` — the groups are the keys that occur, each with all of its rows;
  * `Group.gather_perm` — together the groups hold every row once;
  * `Group.inOrder_gather` — the groups are listed in the order of their first rows.
-/

namespace Agenda

/-! ## §1. First places -/

section

variable {α : Type}

theorem findIdx_congr {p q : α → Bool} : ∀ {l : List α}, (∀ a ∈ l, p a = q a) →
    l.findIdx p = l.findIdx q
  | [], _ => rfl
  | a :: l, h => by
    obtain ⟨ha, hl⟩ := List.forall_mem_cons.1 h
    rw [List.findIdx_cons, List.findIdx_cons, ha, findIdx_congr hl]

/-- Leaving members out does not change which of two things that stay is met first. -/
theorem findIdx_filter_lt_iff {p q keep : α → Bool} (hp : ∀ a, p a = true → keep a = true)
    (hq : ∀ a, q a = true → keep a = true) : ∀ {l : List α},
    (l.filter keep).findIdx p < (l.filter keep).findIdx q ↔ l.findIdx p < l.findIdx q
  | [] => Iff.rfl
  | a :: l => by
    have ih := findIdx_filter_lt_iff hp hq (l := l)
    by_cases hkeep : keep a = true
    · rw [List.filter_cons_of_pos hkeep]
      simp only [List.findIdx_cons]
      cases p a <;> cases q a <;> simp [ih]
    · have hpa : p a = false := Bool.eq_false_iff.2 (mt (hp a) hkeep)
      have hqa : q a = false := Bool.eq_false_iff.2 (mt (hq a) hkeep)
      rw [List.filter_cons_of_neg hkeep, ih]
      simp [List.findIdx_cons, hpa, hqa]

/-- Without repetitions, the members of a list stand in the order in which they are first met. -/
theorem pairwise_eraseDups [DecidableEq α] (l : List α) :
    l.eraseDups.Pairwise fun a b => l.findIdx (· == a) < l.findIdx (· == b) := by
  match l with
  | [] => simp
  | a :: l =>
    have ih := pairwise_eraseDups (l.filter fun b => !b == a)
    have hother : ∀ b ∈ (l.filter fun b => !b == a).eraseDups, (b == a) = false := by
      intro b hb
      simpa using (List.mem_filter.1 (List.mem_eraseDups.1 hb)).2
    rw [List.eraseDups_cons, List.pairwise_cons]
    refine ⟨fun b hb => ?_, ?_⟩
    · have hab : (a == b) = false := by rw [Bool.beq_comm]; exact hother b hb
      simp [List.findIdx_cons, hab]
    · -- the others are met in the rest, from which only the head has been left out
      refine ih.imp_of_mem fun {b c} hb hc hbc => ?_
      have hkeep : ∀ d, (d == a) = false → ∀ e, (e == d) = true → (!e == a) = true := by
        intro d hd e he
        rw [eq_of_beq he, hd]
        rfl
      rw [findIdx_filter_lt_iff (hkeep b (hother b hb)) (hkeep c (hother c hc))] at hbc
      have hab : (a == b) = false := by rw [Bool.beq_comm]; exact hother b hb
      have hac : (a == c) = false := by rw [Bool.beq_comm]; exact hother c hc
      simpa [List.findIdx_cons, hab, hac] using hbc
termination_by l.length
decreasing_by exact Nat.lt_succ_of_le (List.length_filter_le _ _)

theorem nodup_eraseDups [DecidableEq α] (l : List α) : l.eraseDups.Nodup := by
  refine (pairwise_eraseDups l).imp fun {a b} hlt heq => ?_
  rw [heq] at hlt
  exact Nat.lt_irrefl _ hlt

/-- The members of a list, taken together by a key, are the members of the list. -/
theorem flatMap_filter_perm {β : Type} [DecidableEq β] (key : α → β) : ∀ {keys : List β}
    {l : List α}, keys.Nodup → (∀ a ∈ l, key a ∈ keys) →
      (keys.flatMap fun k => l.filter fun a => key a == k).Perm l
  | [], l, _, hl => by
    obtain rfl : l = [] := List.eq_nil_iff_forall_not_mem.2 fun a ha => by cases hl a ha
    exact .nil
  | k :: keys, l, hkeys, hl => by
    obtain ⟨hk, hkeys⟩ := List.nodup_cons.1 hkeys
    have hrest : ∀ a ∈ l.filter fun a => !(key a == k), key a ∈ keys := by
      intro a ha
      obtain ⟨ha, hne⟩ := List.mem_filter.1 ha
      exact (List.mem_cons.1 (hl a ha)).resolve_left (by simpa using hne)
    -- the other keys are not `k`, so that they miss nothing in the rest
    have hsame : (keys.flatMap fun k' => l.filter fun a => key a == k') =
        keys.flatMap fun k' => (l.filter fun a => !(key a == k)).filter fun a => key a == k' := by
      refine List.flatMap_congr fun k' hk' => ?_
      rw [List.filter_filter]
      refine List.filter_congr fun a _ => ?_
      have hne : k' ≠ k := fun heq => hk (heq ▸ hk')
      by_cases ha : key a = k' <;> simp [ha, hne]
    rw [List.flatMap_cons, hsame]
    exact ((flatMap_filter_perm key hkeys hrest).append_left _).trans (List.filter_append_perm _ _)

end

/-! ## §2. Groups -/

namespace Group

/-- The groups are listed in the order in which the first of their rows stand. -/
def InOrder (rows : List Row) (groups : List Group) : Prop :=
  groups.Pairwise fun g h => rows.findIdx (· ∈ g.rows) < rows.findIdx (· ∈ h.rows)

variable {field : String} {rows : List Row}

theorem map_key_gather : (gather field rows).map (·.key) =
    (rows.map (Row.groupKey field)).eraseDups := by
  unfold gather
  rw [List.map_map]
  exact List.map_id _

/-- No two groups have one key. -/
theorem nodup_keys_gather : ((gather field rows).map (·.key)).Nodup := by
  rw [map_key_gather]
  exact nodup_eraseDups _

/-- **The groups are the keys that occur, each with all of its rows.** -/
theorem mem_gather {g : Group} : g ∈ gather field rows ↔
    g.rows ≠ [] ∧ g.rows = rows.filter fun row => row.groupKey field == g.key := by
  obtain ⟨key, members⟩ := g
  have hoccurs : key ∈ (rows.map (Row.groupKey field)).eraseDups ↔
      (rows.filter fun row => row.groupKey field == key) ≠ [] := by
    rw [List.mem_eraseDups, List.mem_map, ne_eq, List.filter_eq_nil_iff]
    simp
  unfold gather
  rw [List.mem_map]
  constructor
  · rintro ⟨key', hkey', heq⟩
    obtain ⟨rfl, rfl⟩ := Group.mk.inj heq
    exact ⟨hoccurs.1 hkey', rfl⟩
  · rintro ⟨hne, heq⟩
    dsimp only at hne heq
    exact ⟨key, hoccurs.2 (heq ▸ hne), by rw [heq]⟩

/-- A row of a group has the key of the group. -/
theorem groupKey_of_mem {g : Group} {row : Row} (hg : g ∈ gather field rows) (h : row ∈ g.rows) :
    row ∈ rows ∧ row.groupKey field = g.key := by
  rw [(mem_gather.1 hg).2] at h
  obtain ⟨hrow, hkey⟩ := List.mem_filter.1 h
  exact ⟨hrow, eq_of_beq hkey⟩

/-- Two rows are in one group exactly if they have one key. -/
theorem exists_gather_iff {a b : Row} (ha : a ∈ rows) (hb : b ∈ rows) :
    (∃ g ∈ gather field rows, a ∈ g.rows ∧ b ∈ g.rows) ↔ a.groupKey field = b.groupKey field := by
  constructor
  · rintro ⟨g, hg, hag, hbg⟩
    rw [(groupKey_of_mem hg hag).2, (groupKey_of_mem hg hbg).2]
  · intro h
    have hmem : ∀ row ∈ rows, row.groupKey field = a.groupKey field →
        row ∈ rows.filter fun row => row.groupKey field == a.groupKey field := by
      intro row hrow hkey
      exact List.mem_filter.2 ⟨hrow, beq_iff_eq.2 hkey⟩
    refine ⟨⟨a.groupKey field, rows.filter fun row => row.groupKey field == a.groupKey field⟩, ?_,
      hmem a ha rfl, hmem b hb h.symm⟩
    exact mem_gather.2 ⟨List.ne_nil_of_mem (hmem a ha rfl), rfl⟩

/-- **Together the groups hold every row once.** -/
theorem gather_perm : ((gather field rows).flatMap (·.rows)).Perm rows := by
  unfold gather
  rw [List.flatMap_map]
  refine flatMap_filter_perm (Row.groupKey field) (nodup_eraseDups _) fun row hrow => ?_
  exact List.mem_eraseDups.2 (List.mem_map_of_mem hrow)

/-- **The groups are listed in the order of their first rows.** -/
theorem inOrder_gather : InOrder rows (gather field rows) := by
  unfold InOrder gather
  rw [List.pairwise_map]
  have hplace : ∀ key : String,
      (rows.findIdx (· ∈ rows.filter fun row => row.groupKey field == key)) =
        (rows.map (Row.groupKey field)).findIdx (· == key) := by
    intro key
    rw [List.findIdx_map]
    refine findIdx_congr fun row hrow => ?_
    simp [hrow, Bool.beq_eq_decide_eq]
  simp only [hplace]
  exact pairwise_eraseDups _

end Group

end Agenda
