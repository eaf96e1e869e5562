import Mathlib.Algebra.Group.Nat.Defs
import Agenda.Text.Basic

/-!
# Which texts are numerals

A numeral is one or more ASCII digits, of which any number of leading zeros may be a part, so that many
numerals have one value. A reader of numerals takes these texts and no others, and one that stops at 32
bits takes those of them whose value fits.

Main results:
  * `Decimal.value?_eq_some_iff`, `Decimal.word?_eq_some_iff` — the texts that are read as a number;
  * `Decimal.value_lt` — how great the value of so many digits can be.
-/

namespace Agenda.Decimal

/-- A text of one or more digits. -/
def IsNumeral (cs : List Char) : Prop :=
  cs ≠ [] ∧ ∀ c ∈ cs, c.isDigit = true

/-- A text of so many digits. -/
def IsDigits (width : Nat) (cs : List Char) : Prop :=
  cs.length = width ∧ ∀ c ∈ cs, c.isDigit = true

variable {cs : List Char}

theorem IsDigits.isNumeral {width : Nat} (h : IsDigits (width + 1) cs) : IsNumeral cs := by
  refine ⟨?_, h.2⟩
  intro hnil
  have hlength := h.1
  rw [hnil] at hlength
  cases hlength

theorem isNumeral_digits (n : Nat) : IsNumeral (digits n) :=
  ⟨Nat.toDigits_ne_nil, fun _ hc => Nat.isDigit_of_mem_toDigits (by decide) (by decide) hc⟩

/-! ## §1. Digits -/

theorem IsDigits.append {m n : Nat} {ds es : List Char} (hds : IsDigits m ds) (hes : IsDigits n es) :
    IsDigits (m + n) (ds ++ es) := by
  refine ⟨by rw [List.length_append, hds.1, hes.1], ?_⟩
  intro c hc
  rcases List.mem_append.1 hc with hc | hc
  · exact hds.2 c hc
  · exact hes.2 c hc

theorem IsDigits.take {m n : Nat} (h : IsDigits (m + n) cs) : IsDigits m (cs.take m) := by
  refine ⟨?_, fun c hc => h.2 c (List.mem_of_mem_take hc)⟩
  rw [List.length_take, h.1]
  omega

theorem IsDigits.drop {m n : Nat} (h : IsDigits (m + n) cs) : IsDigits n (cs.drop m) := by
  refine ⟨?_, fun c hc => h.2 c (List.mem_of_mem_drop hc)⟩
  rw [List.length_drop, h.1]
  omega

theorem IsDigits.take_append {width : Nat} (h : IsDigits width cs) (rest : List Char) :
    (cs ++ rest).take width = cs := by
  rw [← h.1, List.take_left]

theorem IsDigits.drop_append {width : Nat} (h : IsDigits width cs) (rest : List Char) :
    (cs ++ rest).drop width = rest := by
  rw [← h.1, List.drop_left]

/-! ## §2. Numerals -/

/-- A character that is no digit stands in no numeral. -/
theorem IsNumeral.not_mem {c : Char} (h : IsNumeral cs) (hc : c.isDigit = false) : c ∉ cs := by
  intro hmem
  rw [h.2 c hmem] at hc
  cases hc

theorem value?_eq_some_iff {n : Nat} : value? cs = some n ↔ IsNumeral cs ∧ value cs = n := by
  unfold value?
  simp only [List.all_eq_true]
  constructor
  · intro h
    split at h
    next hnumeral => exact ⟨hnumeral, Option.some.inj h⟩
    next => cases h
  · intro ⟨hnumeral, hvalue⟩
    rw [if_pos ⟨hnumeral.1, hnumeral.2⟩, hvalue]

/-- **A number of 32 bits** is read from the numerals with that value, whatever their length. -/
theorem word?_eq_some_iff {w : UInt32} :
    word? cs = some w ↔ IsNumeral cs ∧ value cs = w.toNat := by
  unfold word?
  constructor
  · intro h
    split at h
    next n hn =>
      obtain ⟨hnumeral, hvalue⟩ := value?_eq_some_iff.1 hn
      split at h
      next hsize =>
        obtain rfl := Option.some.inj h
        refine ⟨hnumeral, ?_⟩
        rw [hvalue, UInt32.toNat_ofNat_of_lt' hsize]
      next => cases h
    next => cases h
  · intro ⟨hnumeral, hvalue⟩
    rw [value?_eq_some_iff.2 ⟨hnumeral, hvalue⟩]
    show (if w.toNat < UInt32.size then some (UInt32.ofNat w.toNat) else none) = some w
    rw [if_pos w.toNat_lt_size, UInt32.ofNat_toNat]

/-! ## §3. Widths -/

/-- **So many digits** do not reach beyond their width. -/
theorem value_lt {width : Nat} (h : IsDigits width cs) : value cs < 10 ^ width := by
  -- a digit more makes ten times as many numbers
  have hbelow : ∀ (cs : List Char) (read : Nat), (∀ c ∈ cs, c.isDigit = true) →
      Nat.ofDigitChars 10 cs read < (read + 1) * 10 ^ cs.length := by
    intro cs
    induction cs with
    | nil =>
      intro read _
      rw [Nat.ofDigitChars_nil]
      show read < (read + 1) * 1
      omega
    | cons c cs ih =>
      intro read hdigits
      have hc : c.toNat ≤ 57 := by
        have hc := hdigits c List.mem_cons_self
        simp only [Char.isDigit, ge_iff_le, UInt32.le_iff_toNat_le, Bool.and_eq_true,
          decide_eq_true_eq] at hc
        exact hc.2
      have hnext : 10 * read + (c.toNat - '0'.toNat) + 1 ≤ (read + 1) * 10 := by
        show 10 * read + (c.toNat - 48) + 1 ≤ (read + 1) * 10
        omega
      rw [Nat.ofDigitChars_cons]
      calc _ < (10 * read + (c.toNat - '0'.toNat) + 1) * 10 ^ cs.length :=
            ih _ fun d hd => hdigits d (List.mem_cons_of_mem c hd)
        _ ≤ (read + 1) * 10 * 10 ^ cs.length := Nat.mul_le_mul_right _ hnext
        _ = (read + 1) * 10 ^ (c :: cs).length := by
            rw [Nat.mul_assoc, List.length_cons, Nat.pow_succ, Nat.mul_comm 10]
  have hvalue := hbelow cs 0 h.2
  rwa [h.1, Nat.zero_add, Nat.one_mul] at hvalue

end Agenda.Decimal
