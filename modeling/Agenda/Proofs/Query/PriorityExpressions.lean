import Agenda.Evaluation.Evaluate
import Agenda.Proofs.Text.Numerals
import Agenda.Query.Basic

/-!
# What priority expressions ask for

Behind the `p` of a priority word stands a range of levels, or one level with or without a comparison
sign (`PriorityExpression.Asks`). The sign `<=` begins with the sign `<`, and a reader that tries ranges
first comes back to comparisons when no range is there; yet behind each sign stand digits only, so that
a text says one thing at most.

Levels are compared as the numbers that are written, 1 being the smallest. The order of priorities is
the other one: there level 1 is the greatest.

Main results:
  * `PriorityExpression.level?_eq_some_iff`, `PriorityExpression.range?_eq_some_iff` — the levels and
    the ranges that are read;
  * `priority_expression_meaning` — the texts that are read, and the tasks that each one selects.
-/

namespace Agenda

open Decimal (IsNumeral value)

/-- The clause selects the tasks whose level is as asked, and never breaks off on a task. -/
def Clause.SelectsLevels (c : Clause) (asked : Nat → Prop) : Prop :=
  ∀ (t : Task) (ctx : Context), ∃ b, c.holds (.task t) ctx = .ok b ∧
    (b = true ↔ asked t.priority.level)

namespace PriorityExpression

/-! ## §1. Signs and levels -/

/-- The comparison signs, and the relation of levels that each of them stands for. -/
inductive Sign : List Char → (Nat → Nat → Prop) → Prop
  | bare : Sign [] (fun a b => a = b)
  | eq : Sign ['='] (fun a b => a = b)
  | lt : Sign ['<'] (fun a b => a < b)
  | le : Sign ['<', '='] (fun a b => a ≤ b)
  | gt : Sign ['>'] (fun a b => a > b)
  | ge : Sign ['>', '='] (fun a b => a ≥ b)

/-- A text of digits that spells a level, with any number of leading zeros. -/
structure Level (ds : List Char) : Prop where
  numeral : IsNumeral ds
  one_le : 1 ≤ value ds
  le_three : value ds ≤ 3

/-- The texts of priority expressions, and what each of them asks of a level. -/
inductive Asks : List Char → (Nat → Prop) → Prop
  | between {as bs : List Char} (has : Level as) (hbs : Level bs) (hle : value as ≤ value bs) :
    Asks (as ++ '.' :: '.' :: bs) (fun level => value as ≤ level ∧ level ≤ value bs)
  | compared {sign ds : List Char} {relation : Nat → Nat → Prop} (hsign : Sign sign relation)
    (hds : Level ds) : Asks (sign ++ ds) (fun level => relation level (value ds))

variable {cs ds : List Char} {n : Nat}

theorem level?_eq_some_iff : level? cs = some n ↔ Level cs ∧ value cs = n := by
  unfold level?
  constructor
  · intro h
    split at h
    next m hm =>
      obtain ⟨hnumeral, hvalue⟩ := Decimal.value?_eq_some_iff.1 hm
      obtain ⟨p, hp, hn⟩ := Option.map_eq_some_iff.1 h
      unfold Priority.ofLevel? at hp
      split at hp
      next hrange =>
        obtain rfl := Option.some.inj hp
        rw [← hvalue] at hrange
        exact ⟨⟨hnumeral, hrange.1, hrange.2⟩, hvalue.trans hn⟩
      next => cases hp
    next => cases h
  · intro ⟨hlevel, hvalue⟩
    rw [Decimal.value?_eq_some_iff.2 ⟨hlevel.numeral, hvalue⟩]
    have hrange := And.intro hlevel.one_le hlevel.le_three
    rw [hvalue] at hrange
    show (Priority.ofLevel? n).map (·.level) = some n
    unfold Priority.ofLevel?
    rw [dif_pos hrange]
    rfl

/-- A sign is split off again from what it stands before: a numeral does not begin with `=`, so that
`<` and `>` are not taken for the longer signs. -/
theorem Sign.comparison_append {sign : List Char} {relation : Nat → Nat → Prop}
    (hsign : Sign sign relation) (hds : IsNumeral ds) :
    ∃ op, comparison (sign ++ ds) = (op, ds) ∧ ∀ a b, op.holds a b = true ↔ relation a b := by
  obtain ⟨c, tail, rfl⟩ := List.exists_cons_of_ne_nil hds.1
  have hne : ∀ {d : Char}, d.isDigit = false → c ≠ d := by
    intro d hd heq
    exact hds.not_mem hd (heq ▸ List.mem_cons_self)
  have heq : c ≠ '=' := hne rfl
  have hlt : c ≠ '<' := hne rfl
  have hgt : c ≠ '>' := hne rfl
  cases hsign with
  | bare => exact ⟨.eq, by simp [comparison, heq, hlt, hgt], by simp [Comparison.holds]⟩
  | eq => exact ⟨.eq, rfl, by simp [Comparison.holds]⟩
  | lt => exact ⟨.lt, by simp [comparison, heq], by simp [Comparison.holds]⟩
  | le => exact ⟨.le, rfl, by simp [Comparison.holds]⟩
  | gt => exact ⟨.gt, by simp [comparison, heq], by simp [Comparison.holds]⟩
  | ge => exact ⟨.ge, rfl, by simp [Comparison.holds]⟩

/-- What is split off is a sign. -/
theorem exists_sign (cs : List Char) :
    ∃ sign relation, Sign sign relation ∧ cs = sign ++ (comparison cs).2 := by
  unfold comparison
  split
  · exact ⟨_, _, .le, rfl⟩
  · exact ⟨_, _, .ge, rfl⟩
  · exact ⟨_, _, .lt, rfl⟩
  · exact ⟨_, _, .gt, rfl⟩
  · exact ⟨_, _, .eq, rfl⟩
  · exact ⟨_, _, .bare, rfl⟩

/-! ## §2. Ranges and comparisons -/

/-- **A range** is two levels with two dots between them, the second not below the first. -/
theorem range?_eq_some_iff {c : Clause} : range? cs = some c ↔
    ∃ as bs, cs = as ++ '.' :: '.' :: bs ∧ Level as ∧ Level bs ∧ value as ≤ value bs ∧
      c = .priorityRange (value as) (value bs) := by
  unfold range?
  constructor
  · intro h
    split at h
    next rest hrest =>
      obtain ⟨lo, hlo, h⟩ := Option.bind_eq_some_iff.1 h
      obtain ⟨hi, hhi, h⟩ := Option.bind_eq_some_iff.1 h
      obtain ⟨has, rfl⟩ := level?_eq_some_iff.1 hlo
      obtain ⟨hbs, rfl⟩ := level?_eq_some_iff.1 hhi
      split at h
      next hle =>
        refine ⟨_, rest, ?_, has, hbs, hle, (Option.some.inj h).symm⟩
        rw [← hrest, List.takeWhile_append_dropWhile]
      next => cases h
    next => cases h
  · intro ⟨as, bs, hcs, has, hbs, hle, hc⟩
    have hdigits : cs.takeWhile Char.isDigit = as := by
      rw [hcs, List.takeWhile_append_of_pos has.numeral.2]
      exact List.append_nil as
    have hrest : cs.dropWhile Char.isDigit = '.' :: '.' :: bs := by
      rw [hcs, List.dropWhile_append_of_pos has.numeral.2]
      rfl
    rw [hdigits, hrest, hc]
    show (level? as).bind (fun lo => (level? bs).bind fun hi =>
      if lo ≤ hi then some (Clause.priorityRange lo hi) else none) = _
    rw [level?_eq_some_iff.2 ⟨has, rfl⟩, level?_eq_some_iff.2 ⟨hbs, rfl⟩]
    exact if_pos hle

/-- A comparison is no range, since it has no dots. -/
theorem range?_of_sign {sign : List Char} {relation : Nat → Nat → Prop}
    (hsign : Sign sign relation) (hds : IsNumeral ds) : range? (sign ++ ds) = none := by
  have hdot : '.' ∉ sign ++ ds := by
    intro hmem
    rcases List.mem_append.1 hmem with hmem | hmem
    · cases hsign <;> simp at hmem
    · exact hds.not_mem rfl hmem
  rw [Option.eq_none_iff_forall_ne_some]
  intro c hc
  obtain ⟨as, bs, hcs, _⟩ := range?_eq_some_iff.1 hc
  apply hdot
  rw [hcs]
  exact List.mem_append_right as List.mem_cons_self

/-! ## §3. Reading -/

variable {s : String} {c : Clause} {asked : Nat → Prop}

theorem read?_eq_some_iff : read? s = some c ↔
    range? s.toList = some c ∨ range? s.toList = none ∧ compared? s.toList = some c := by
  unfold read?
  rw [Option.orElse_eq_orElse, Option.orElse_eq_or, Option.or_eq_some_iff]

/-- What is read asks for something. -/
theorem exists_asks_of_read? (h : read? s = some c) : ∃ asked, Asks s.toList asked := by
  rcases read?_eq_some_iff.1 h with h | ⟨_, h⟩
  · obtain ⟨as, bs, hs, has, hbs, hle, _⟩ := range?_eq_some_iff.1 h
    rw [hs]
    exact ⟨_, .between has hbs hle⟩
  · obtain ⟨level, hlevel, _⟩ := Option.map_eq_some_iff.1 h
    obtain ⟨sign, relation, hsign, hs⟩ := exists_sign s.toList
    rw [hs]
    exact ⟨_, .compared hsign (level?_eq_some_iff.1 hlevel).1⟩

/-- What asks for something is read, as a clause that selects the tasks with such a level. -/
theorem Asks.exists_read? {cs : List Char} (h : Asks cs asked) (hs : s.toList = cs) :
    ∃ c, read? s = some c ∧ c.SelectsLevels asked := by
  simp only [read?_eq_some_iff, hs]
  cases h with
  | @between as bs has hbs hle =>
    refine ⟨.priorityRange (value as) (value bs), ?_, ?_⟩
    · exact .inl (range?_eq_some_iff.2 ⟨as, bs, rfl, has, hbs, hle, rfl⟩)
    · intro t ctx
      exact ⟨_, rfl, decide_eq_true_iff⟩
  | @compared sign ds relation hsign hds =>
    obtain ⟨op, hop, hholds⟩ := hsign.comparison_append hds.numeral
    refine ⟨.priority op (value ds), .inr ⟨range?_of_sign hsign hds.numeral, ?_⟩, ?_⟩
    · unfold compared?
      rw [hop]
      show (level? ds).map (Clause.priority op) = some (.priority op (value ds))
      rw [level?_eq_some_iff.2 ⟨hds, rfl⟩]
      rfl
    · intro t ctx
      exact ⟨_, rfl, hholds t.priority.level (value ds)⟩

end PriorityExpression

/-- **WHAT PRIORITY EXPRESSIONS ASK FOR**: a text is read exactly if it is a range or a comparison of
levels, and the clause that is read selects exactly the tasks whose level, as a number, is as the text
asks; the order of priorities is the reverse of the order of their levels. -/
theorem priority_expression_meaning (s : String) :
    ((∃ c, PriorityExpression.read? s = some c) ↔ ∃ asked, PriorityExpression.Asks s.toList asked) ∧
    (∀ c asked, PriorityExpression.read? s = some c → PriorityExpression.Asks s.toList asked →
      c.SelectsLevels asked) ∧
    ∀ p q : Priority, compare p q = .gt ↔ p.level < q.level := by
  refine ⟨⟨?_, ?_⟩, ?_, ?_⟩
  · intro ⟨c, hread⟩
    exact PriorityExpression.exists_asks_of_read? hread
  · intro ⟨asked, hasks⟩
    obtain ⟨c, hread, _⟩ := hasks.exists_read? rfl
    exact ⟨c, hread⟩
  · intro c asked hread hasks
    obtain ⟨c', hread', hselects⟩ := hasks.exists_read? rfl
    obtain rfl := Option.some.inj (hread.symm.trans hread')
    exact hselects
  · intro p q
    show compare q.level p.level = .gt ↔ _
    exact Nat.compare_eq_gt

/-- `<=002` selects the levels 1 and 2, although the priority of level 1 is above that of level 2. -/
theorem priority_expression_leading_zeros : ∃ c,
    PriorityExpression.read? "<=002" = some c ∧
    c.SelectsLevels (fun level => level ≤ 2) ∧
    compare (⟨1, by decide⟩ : Priority) (⟨2, by decide⟩ : Priority) = .gt := by
  have hspelled : PriorityExpression.level? "002".toList = some 2 := by decide +kernel
  have hlevel := (PriorityExpression.level?_eq_some_iff.1 hspelled).1
  have hasks : PriorityExpression.Asks "<=002".toList fun level => level ≤ 2 :=
    .compared .le hlevel
  obtain ⟨hread, hselects, horder⟩ := priority_expression_meaning "<=002"
  obtain ⟨c, hc⟩ := hread.2 ⟨_, hasks⟩
  exact ⟨c, hc, hselects c _ hc hasks, (horder _ _).2 (by decide)⟩

example : PriorityExpression.read? "01..3" = some (.priorityRange 1 3) ∧
    PriorityExpression.read? "3..1" = none ∧ PriorityExpression.read? "==2" = none ∧
    PriorityExpression.read? "257" = none ∧
    PriorityExpression.read? ">=0003" = some (.priority .ge 3) := by
  decide +kernel

end Agenda
