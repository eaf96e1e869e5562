import Mathlib.Data.List.Nodup
import Agenda.Json.Basic
import Agenda.Proofs.Json.RoundTrip
import Agenda.Proofs.Names

/-!
# Decoding what was encoded

What the decoders make of the values that are written: numbers of 32 bits, optional values, and lists
and objects of values that are themselves decoded again. All of these have content, so that they can
be printed and read. The fields of a structure are found under their names.

Main results:
  * `Json.toWord?_ofNat`, `Json.toWord?_toNat` — numbers;
  * `Json.orNull?_ofOption` — values that may be absent;
  * `Json.toList?_map` — lists;
  * `Json.toFields?_object` — the fields of a structure.
-/

namespace Agenda

namespace Json

variable {α : Type} {encode : α → Json} {decode : Json → Option α}

/-! ## §1. Content -/

theorem plainItems_map (h : ∀ a, (encode a).Plain) : ∀ l : List α, PlainItems (l.map encode)
  | [] => trivial
  | a :: l => ⟨h a, plainItems_map h l⟩

theorem plainMembers_map (h : ∀ a, (encode a).Plain) :
    ∀ l : List (String × α), PlainMembers (l.map (Prod.map id encode))
  | [] => trivial
  | (_, a) :: l => ⟨h a, plainMembers_map h l⟩

theorem plain_ofOption (h : ∀ a, (encode a).Plain) (o : Option α) : (ofOption encode o).Plain := by
  cases o with
  | none => trivial
  | some a => exact h a

/-! ## §2. Decoders -/

theorem toWord?_ofNat {n : Nat} (h : n < UInt32.size) : toWord? (num n) = some (UInt32.ofNat n) := by
  have hbounds : 0 ≤ (n : Int) ∧ (n : Int) < UInt32.size :=
    ⟨Int.natCast_nonneg n, Int.ofNat_lt.2 h⟩
  unfold toWord?
  dsimp only
  rw [if_pos hbounds, Int.toNat_natCast]

theorem toWord?_toNat (w : UInt32) : toWord? (num w.toNat) = some w := by
  rw [toWord?_ofNat w.toNat_lt_size, UInt32.ofNat_toNat]

theorem required?_some (j : Json) : required? decode (some j) = decode j := by
  unfold required?
  rw [Option.bind_some]

theorem defaulted?_some (default : α) (j : Json) :
    defaulted? decode default (some j) = decode j := by
  unfold defaulted?
  dsimp only

/-- No value but the absent one is written as `null`. -/
theorem orNull?_ofOption (hdecode : ∀ a, decode (encode a) = some a)
    (hnull : ∀ a, encode a ≠ null) (o : Option α) : orNull? decode (ofOption encode o) = some o := by
  cases o with
  | none => rfl
  | some a =>
    show orNull? decode (encode a) = some (some a)
    unfold orNull?
    split
    next heq => exact absurd heq (hnull a)
    next => rw [hdecode a, Option.map_some]

theorem toList?_map (hdecode : ∀ a, decode (encode a) = some a) (l : List α) :
    toList? decode (list (l.map encode)) = some l := by
  unfold toList?
  dsimp only
  induction l with
  | nil => rfl
  | cons a l ih =>
    rw [List.map_cons, List.mapM_cons, hdecode, ih]
    rfl

theorem toList?_texts (l : List String) : toList? toText? (texts l) = some l := by
  have hdecode : ∀ s, toText? (text s) = some s := fun _ => rfl
  exact toList?_map hdecode l

theorem toTexts?_texts (l : List (String × String)) :
    toTexts? (object (l.map (Prod.map id text))) = some l := by
  unfold toTexts?
  dsimp only
  induction l with
  | nil => rfl
  | cons e l ih =>
    rw [List.map_cons, List.mapM_cons, ih]
    rfl

/-- The members of an object with the fields of a structure, each once and in their order. -/
theorem toFields?_object {names : List String} {members : List (String × Json)}
    (hnames : members.map Prod.fst = names) (hnodup : names.Nodup) :
    toFields? names (object members) = some (members.map fun m => some m.2) := by
  subst hnames
  have honce : (members.map Prod.fst).all fun name => members.countP (·.1 == name) ≤ 1 := by
    rw [List.all_eq_true]
    intro name _
    have hcount := List.nodup_iff_count_le_one.1 hnodup name
    rw [List.count, List.countP_map] at hcount
    exact decide_eq_true hcount
  have hlookup : ∀ m ∈ members, members.lookup m.1 = some m.2 := fun _ => lookup_of_mem hnodup
  show (if _ then _ else _) = _
  rw [if_pos honce, List.map_map]
  exact congrArg some (List.map_congr_left hlookup)

end Json

end Agenda
