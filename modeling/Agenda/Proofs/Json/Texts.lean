import Agenda.Json.Basic
import Agenda.Json.Reader

/-!
# Printed texts read back

Printing escapes one character at a time, and reading undoes it in two steps: the pieces behind the
opening quote, then the characters that they make up. A control character without a one-letter escape
comes back as the number of a unit, which is never half of a surrogate pair.

Main result: `text?_quoted` — behind its opening quote a printed text reads back as it was.
-/

namespace Agenda

namespace Json

/-! ## §1. Pieces -/

/-- The piece that a printed character is read as. -/
def pieceOf (c : Char) : Piece :=
  if c.toNat < 0x20 ∧ c ∉ ['\x08', '\x0c', '\n', '\r', '\t'] then .unit c.toNat else .char c

theorem unit?_hexDigit : ∀ n < 0x20,
    unit? '0' '0' (hexDigit (n / 16)) (hexDigit (n % 16)) = some n := by decide

theorem pieces?_unescaped {c : Char} {rest : List Char} (hquote : c ≠ '"') (hslash : c ≠ '\\')
    (hcontrol : ¬ c.toNat < 0x20) :
    pieces? (c :: rest) = (pieces? rest).map fun (ps, rest) => (.char c :: ps, rest) := by
  rw [pieces?, if_neg hcontrol]
  · exact hquote
  · exact fun _ _ _ _ _ h => absurd h hslash
  · exact fun _ _ h => absurd h hslash

/-- A printed character is read as one piece. -/
theorem pieces?_escaped (c : Char) (rest : List Char) :
    pieces? (escaped c ++ rest) =
      (pieces? rest).map fun (ps, rest) => (pieceOf c :: ps, rest) := by
  -- the three groups of escapes, then the characters that stand for themselves
  by_cases hquote : c = '"'
  · subst hquote; rfl
  by_cases hslash : c = '\\'
  · subst hslash; rfl
  by_cases hletter : c ∈ ['\x08', '\x0c', '\n', '\r', '\t']
  · simp only [List.mem_cons, List.not_mem_nil, or_false] at hletter
    rcases hletter with rfl | rfl | rfl | rfl | rfl <;> rfl
  have hescaped : escaped c = if c.toNat < 0x20 then
      ['\\', 'u', '0', '0', hexDigit (c.toNat / 16), hexDigit (c.toNat % 16)] else [c] := by
    simp only [List.mem_cons, List.not_mem_nil, or_false, not_or] at hletter
    obtain ⟨h₁, h₂, h₃, h₄, h₅⟩ := hletter
    unfold escaped
    rw [if_neg hquote, if_neg hslash, if_neg h₁, if_neg h₂, if_neg h₃, if_neg h₄, if_neg h₅]
  rw [hescaped]
  by_cases hcontrol : c.toNat < 0x20
  · have hpiece : pieceOf c = .unit c.toNat := if_pos ⟨hcontrol, hletter⟩
    rw [if_pos hcontrol, hpiece]
    show pieces? ('\\' :: 'u' :: '0' :: '0' :: hexDigit (c.toNat / 16) ::
      hexDigit (c.toNat % 16) :: rest) = _
    rw [pieces?, unit?_hexDigit _ hcontrol]
  · have hpiece : pieceOf c = .char c := if_neg fun h => hcontrol h.1
    rw [if_neg hcontrol, hpiece]
    exact pieces?_unescaped hquote hslash hcontrol

theorem pieces?_flatMap_escaped : ∀ (cs rest : List Char),
    pieces? (cs.flatMap escaped ++ '"' :: rest) = some (cs.map pieceOf, rest)
  | [], rest => rfl
  | c :: cs, rest => by
    rw [List.flatMap_cons, List.append_assoc, pieces?_escaped, pieces?_flatMap_escaped cs rest]
    rfl

/-! ## §2. Characters -/

/-- A unit below the surrogates is a character by itself, whatever follows. -/
theorem assemble?_unit {n : Nat} (h : n < 0xD800) (rest : List Piece) :
    assemble? (.unit n :: rest) = (assemble? rest).map (Char.ofNat n :: ·) := by
  have hhigh : ¬ (0xD800 ≤ n ∧ n < 0xDC00) := by omega
  have hlow : ¬ (0xDC00 ≤ n ∧ n < 0xE000) := by omega
  have hhalf : ¬ (0xD800 ≤ n ∧ n < 0xE000) := by omega
  cases rest with
  | nil => simp [assemble?, hhalf]
  | cons piece rest =>
    cases piece with
    | char c => simp [assemble?, hhalf]
    | unit low => rw [assemble?, if_neg hhigh, if_neg hlow]

theorem assemble?_pieceOf (c : Char) (rest : List Piece) :
    assemble? (pieceOf c :: rest) = (assemble? rest).map (c :: ·) := by
  unfold pieceOf
  split
  next h => rw [assemble?_unit (by omega), Char.ofNat_toNat]
  next => rw [assemble?]

theorem assemble?_map_pieceOf : ∀ cs : List Char, assemble? (cs.map pieceOf) = some cs
  | [] => rfl
  | c :: cs => by
    rw [List.map_cons, assemble?_pieceOf, assemble?_map_pieceOf cs]
    rfl

/-- **A printed text reads back as it was.** -/
theorem text?_quoted (s : String) (rest : List Char) :
    text? (s.toList.flatMap escaped ++ '"' :: rest) = some (some s, rest) := by
  unfold text?
  rw [pieces?_flatMap_escaped]
  show some ((assemble? (s.toList.map pieceOf)).map String.ofList, rest) = _
  rw [assemble?_map_pieceOf, Option.map_some, String.ofList_toList]

end Json

end Agenda
