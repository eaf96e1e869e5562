import Mathlib.Algebra.Ring.Parity
import Agenda.Proofs.Outcomes
import Agenda.Query.Classify

/-!
# Words and the blanks around them

Splitting a text into words loses nothing. A layout is a list of words, each of the shape of a word
and behind a stretch of blanks, with blanks at the end; only the first stretch may be empty. The
texts that can be split are those that have a layout, and the words that are found are those of the
layout, each at the byte offset at which it stands.

Main results:
  * `isWord_iff` — the shape of a word, as a check that goes through it once;
  * `scan_word`, `exists_word_of_scan` — what a scan reads of a text, in both directions;
  * `Word.split_eq_ok_iff` — a text is split into words exactly if it is laid out in them;
  * `lex_lossless` — where the tokens of a text stand.
-/

namespace Agenda

/-! ## §1. The shape of a word -/

/-- What makes a text one word: there is something in it, its quotes are closed, and blanks stand
only inside of them. -/
structure IsWord (w : String) : Prop where
  ne_empty : w ≠ ""
  quotes_even : Even (w.toList.count '"')
  blank_quoted : ∀ before c after, w.toList = before ++ c :: after → Text.isBlank c = true →
    Odd (before.count '"')

namespace Word

/-- Whether a stretch of text that starts inside or outside a quote ends outside, and has blanks
only inside. -/
def closes (inQuote : Bool) : List Char → Bool
  | [] => !inQuote
  | c :: cs =>
    if c = '"' then closes (!inQuote) cs
    else (inQuote || !Text.isBlank c) && closes inQuote cs

/-- A blank of a text is its first character or stands in the rest. -/
theorem forall_blank_cons {P : List Char → Prop} {d : Char} {cs : List Char} :
    (∀ before c after, d :: cs = before ++ c :: after → Text.isBlank c = true → P before) ↔
      (Text.isBlank d = true → P []) ∧
        ∀ before c after, cs = before ++ c :: after → Text.isBlank c = true → P (d :: before) := by
  constructor
  · intro h
    refine ⟨fun hd => h [] d cs rfl hd, fun before c after hcs hc => ?_⟩
    exact h (d :: before) c after (congrArg (d :: ·) hcs) hc
  · rintro ⟨hhead, hrest⟩ before c after hcs hc
    rcases List.cons_eq_append_iff.1 hcs with ⟨rfl, heq⟩ | ⟨init, rfl, heq⟩
    · obtain ⟨rfl, rfl⟩ := List.cons.inj heq
      exact hhead hc
    · exact hrest init c after heq hc

theorem closes_iff : ∀ {cs : List Char} {inQuote : Bool},
    closes inQuote cs = true ↔ Even (cs.count '"' + inQuote.toNat) ∧
      ∀ before c after, cs = before ++ c :: after → Text.isBlank c = true →
        Odd (before.count '"' + inQuote.toNat)
  | [], inQuote => by cases inQuote <;> simp [closes]
  | d :: cs, inQuote => by
    rw [forall_blank_cons (P := fun before => Odd (before.count '"' + inQuote.toNat)), closes]
    by_cases hd : d = '"'
    · -- the quote turns inside to outside, and its place in the count does the same
      subst hd
      rw [if_pos rfl, closes_iff]
      cases inQuote <;> simp [Text.isBlank_quote, Nat.even_add_one, Nat.odd_add_one]
    · rw [if_neg hd, Bool.and_eq_true, closes_iff]
      simp only [List.count_cons_of_ne hd]
      cases inQuote <;> simp [and_left_comm]

theorem isWord_iff {w : String} : IsWord w ↔ w ≠ "" ∧ closes false w.toList = true := by
  rw [closes_iff]
  exact ⟨fun h => ⟨h.ne_empty, h.quotes_even, h.blank_quoted⟩, fun ⟨h₁, h₂, h₃⟩ => ⟨h₁, h₂, h₃⟩⟩

/-- A word does not begin with a blank. -/
theorem closes_head {c : Char} {cs : List Char} (h : closes false (c :: cs) = true) :
    Text.isBlank c = false := by
  unfold closes at h
  split at h
  next hc => rw [hc, Text.isBlank_quote]
  next => simpa using (Bool.and_eq_true_iff.1 h).1

/-! ## §2. Reading one word -/

/-- The number of bytes of a stretch of text. -/
def bytes (cs : List Char) : Nat :=
  (String.ofList cs).utf8ByteSize

@[simp] theorem bytes_nil : bytes [] = 0 := rfl

@[simp] theorem bytes_cons (c : Char) (cs : List Char) :
    bytes (c :: cs) = c.utf8Size + bytes cs := by
  unfold bytes
  rw [String.ofList_cons, String.utf8ByteSize_append, String.utf8ByteSize_singleton]

theorem bytes_append (cs ds : List Char) : bytes (cs ++ ds) = bytes cs + bytes ds := by
  unfold bytes
  rw [String.ofList_append, String.utf8ByteSize_append]

theorem bytes_toList (s : String) : bytes s.toList = s.utf8ByteSize := by
  unfold bytes
  rw [String.ofList_toList]

/-- Whether a text can follow a word: it is empty or begins with a blank. -/
def EndsWord (cs : List Char) : Prop :=
  ∀ c ∈ cs.head?, Text.isBlank c = true

/-- A scan that is reading a word from `start` on, inside a quote or outside. -/
inductive Scan.Reads (start : Nat) (read : List Char) : Scan → Bool → Prop
  | bare : Reads start read (.bare start read) false
  | quoted {opened : Nat} {fragment : List Char} :
    Reads start read (.quoted start read opened fragment) true

/-- A word is read up to its end. -/
theorem scan_word : ∀ {cs rest : List Char} {s : Scan} {inQuote : Bool} {start offset : Nat}
    {read : List Char}, s.Reads start read inQuote → closes inQuote cs = true → EndsWord rest →
      scan s offset (cs ++ rest) =
        (scan .between (offset + bytes cs) rest).map (ofRead start (cs.reverse ++ read) :: ·)
  | [], [], _, _, start, offset, read, .bare, _, _ => rfl
  | [], c :: rest, _, _, start, offset, read, .bare, _, hrest => by
    have hc : Text.isBlank c = true := hrest c rfl
    rw [List.nil_append, scan, if_pos hc, scan, if_pos hc]
    rfl
  | [], _, _, _, _, _, _, .quoted, hcs, _ => by simp [closes] at hcs
  | c :: cs, rest, _, _, start, offset, read, .bare, hcs, hrest => by
    rw [closes] at hcs
    rw [List.cons_append, bytes_cons, ← Nat.add_assoc]
    by_cases hc : c = '"'
    · rw [if_pos hc] at hcs
      subst hc
      rw [scan, if_neg (by simp [Text.isBlank_quote]), if_pos rfl, scan_word .quoted hcs hrest]
      simp
    · rw [if_neg hc, Bool.and_eq_true] at hcs
      rw [scan, if_neg (by simpa using hcs.1), if_neg hc, scan_word .bare hcs.2 hrest]
      simp
  | c :: cs, rest, _, _, start, offset, read, .quoted, hcs, hrest => by
    rw [closes] at hcs
    rw [List.cons_append, bytes_cons, ← Nat.add_assoc]
    by_cases hc : c = '"'
    · rw [if_pos hc] at hcs
      subst hc
      rw [scan, if_pos rfl, scan_word .bare hcs hrest]
      simp
    · rw [if_neg hc] at hcs
      rw [scan, if_neg hc, scan_word .quoted (by simpa using hcs) hrest]
      simp

/-- Inside a quote nothing but another quote counts. -/
theorem scan_in_quote {start opened : Nat} {fragment rest : List Char} :
    ∀ {cs read : List Char} {offset : Nat}, '"' ∉ cs →
      scan (.quoted start read opened fragment) offset (cs ++ rest) =
        scan (.quoted start (cs.reverse ++ read) opened fragment) (offset + bytes cs) rest
  | [], _, _, _ => rfl
  | c :: cs, read, offset, h => by
    obtain ⟨hc, hcs⟩ := not_or.1 (mt List.mem_cons.2 h)
    rw [List.cons_append, scan, if_neg (Ne.symm hc), scan_in_quote hcs, bytes_cons, Nat.add_assoc]
    simp

/-- What has been read when a scan succeeds: the rest of a word, and the words behind it. -/
theorem exists_word_of_scan : ∀ {cs : List Char} {s : Scan} {inQuote : Bool} {start offset : Nat}
    {read : List Char} {words : List Word}, s.Reads start read inQuote →
      scan s offset cs = .ok words → ∃ w rest, cs = w ++ rest ∧ closes inQuote w = true ∧
        EndsWord rest
  | [], _, _, _, _, _, _, .bare, _ => ⟨[], [], rfl, rfl, nofun⟩
  | [], _, _, _, _, _, _, .quoted, h => by cases h
  | c :: cs, _, _, start, offset, read, words, .bare, h => by
    rw [scan] at h
    split at h
    next hc =>
      refine ⟨[], c :: cs, rfl, rfl, ?_⟩
      rintro _ ⟨⟩
      exact hc
    next hc =>
      split at h
      next hquote =>
        obtain ⟨w, rest, rfl, hw, hrest⟩ := exists_word_of_scan .quoted h
        exact ⟨c :: w, rest, rfl, by simpa [closes, hquote] using hw, hrest⟩
      next hquote =>
        obtain ⟨w, rest, rfl, hw, hrest⟩ := exists_word_of_scan .bare h
        exact ⟨c :: w, rest, rfl, by simpa [closes, hquote, hc] using hw, hrest⟩
  | c :: cs, _, _, start, offset, read, words, .quoted, h => by
    rw [scan] at h
    split at h
    next hquote =>
      obtain ⟨w, rest, rfl, hw, hrest⟩ := exists_word_of_scan .bare h
      exact ⟨c :: w, rest, rfl, by simpa [closes, hquote] using hw, hrest⟩
    next hquote =>
      obtain ⟨w, rest, rfl, hw, hrest⟩ := exists_word_of_scan .quoted h
      exact ⟨c :: w, rest, rfl, by simpa [closes, hquote] using hw, hrest⟩

/-! ## §3. Whole texts -/

/-- Blanks between words are skipped. -/
theorem scan_blanks : ∀ {gap rest : List Char} {offset : Nat},
    (∀ c ∈ gap, Text.isBlank c = true) →
      scan .between offset (gap ++ rest) = scan .between (offset + bytes gap) rest
  | [], _, _, _ => rfl
  | c :: gap, rest, offset, h => by
    obtain ⟨hc, hgap⟩ := List.forall_mem_cons.1 h
    rw [List.cons_append, scan, if_pos hc, scan_blanks hgap, bytes_cons, Nat.add_assoc]

/-- A character that is no blank begins a word. -/
theorem exists_reads {c : Char} (offset : Nat) (cs : List Char) (hc : Text.isBlank c = false) :
    ∃ s inQuote, s.Reads offset [c] inQuote ∧
      scan .between offset (c :: cs) = scan s (offset + c.utf8Size) cs ∧
      ∀ w, closes false (c :: w) = closes inQuote w := by
  by_cases hquote : c = '"'
  · refine ⟨.quoted offset [c] offset (c :: cs), true, .quoted, ?_, fun w => ?_⟩
    · rw [scan, if_neg (by simp [hc]), if_pos hquote]
    · rw [closes, if_pos hquote, Bool.not_false]
  · refine ⟨.bare offset [c], false, .bare, ?_, fun w => ?_⟩
    · rw [scan, if_neg (by simp [hc]), if_neg hquote]
    · rw [closes, if_neg hquote, hc]
      rfl

/-- A word between blanks is read as it stands. -/
theorem scan_between_word {w rest : List Char} {offset : Nat} (hne : w ≠ [])
    (hw : closes false w = true) (hrest : EndsWord rest) :
    scan .between offset (w ++ rest) =
      (scan .between (offset + bytes w) rest).map (⟨offset, String.ofList w⟩ :: ·) := by
  obtain ⟨c, cs, rfl⟩ := List.exists_cons_of_ne_nil hne
  obtain ⟨s, inQuote, hs, hscan, hcloses⟩ := exists_reads offset (cs ++ rest) (closes_head hw)
  rw [hcloses] at hw
  rw [List.cons_append, hscan, scan_word hs hw hrest, bytes_cons, Nat.add_assoc]
  simp [ofRead]

end Word

/-- A word with the blanks in front of it. -/
structure SpacedWord where
  gap : String
  word : String
  gap_blank : ∀ c ∈ gap.toList, Text.isBlank c = true
  word_shaped : IsWord word

/-- How a text is laid out: words that are kept apart by blanks, and blanks at either end. -/
structure Layout where
  pieces : List SpacedWord
  tail : String
  /-- Only the first word may stand without blanks in front. -/
  apart : ∀ p ∈ pieces.tail, p.gap ≠ ""
  tail_blank : ∀ c ∈ tail.toList, Text.isBlank c = true

namespace SpacedWord

/-- The text of some words and what stands behind them. -/
def joined (tail : String) : List SpacedWord → String
  | [] => tail
  | p :: rest => p.gap ++ p.word ++ joined tail rest

/-- The words with their places, the first blanks standing at an offset. -/
def placed (offset : Nat) : List SpacedWord → List Word
  | [] => []
  | p :: rest =>
    ⟨offset + p.gap.utf8ByteSize, p.word⟩ ::
      placed (offset + p.gap.utf8ByteSize + p.word.utf8ByteSize) rest

end SpacedWord

namespace Layout

/-- The text that is laid out. -/
def text (l : Layout) : String :=
  SpacedWord.joined l.tail l.pieces

/-- The words of the text, at their byte offsets. -/
def words (l : Layout) : List Word :=
  SpacedWord.placed 0 l.pieces

end Layout

namespace SpacedWord

variable {tail : String} {pieces : List SpacedWord}

theorem toList_joined_cons {p : SpacedWord} : (joined tail (p :: pieces)).toList =
    p.gap.toList ++ (p.word.toList ++ (joined tail pieces).toList) := by
  rw [joined, String.toList_append, String.toList_append, List.append_assoc]

theorem toList_word_ne_nil (p : SpacedWord) : p.word.toList ≠ [] := by
  intro h
  exact p.word_shaped.ne_empty (String.toList_eq_nil_iff.1 h)

/-- What stands behind a word begins with blanks. -/
theorem endsWord_joined (htail : ∀ c ∈ tail.toList, Text.isBlank c = true)
    (hpieces : ∀ p ∈ pieces, p.gap ≠ "") : Word.EndsWord (joined tail pieces).toList := by
  intro c hc
  cases pieces with
  | nil => exact htail c (List.mem_of_mem_head? hc)
  | cons p rest =>
    have hgap : p.gap.toList ≠ [] := fun h =>
      hpieces p List.mem_cons_self (String.toList_eq_nil_iff.1 h)
    obtain ⟨d, ds, hds⟩ := List.exists_cons_of_ne_nil hgap
    rw [toList_joined_cons, hds] at hc
    obtain rfl : d = c := Option.some.inj hc
    exact p.gap_blank d (by rw [hds]; exact List.mem_cons_self)

/-- Words that are kept apart are read at their places. -/
theorem scan_joined (htail : ∀ c ∈ tail.toList, Text.isBlank c = true) :
    ∀ {pieces : List SpacedWord} {offset : Nat}, (∀ p ∈ pieces.tail, p.gap ≠ "") →
      Word.scan .between offset (joined tail pieces).toList = .ok (placed offset pieces)
  | [], offset, _ => by
    rw [joined, ← List.append_nil tail.toList, Word.scan_blanks htail]
    rfl
  | p :: rest, offset, hapart => by
    have hrest : ∀ q ∈ rest.tail, q.gap ≠ "" := fun q hq => hapart q (List.mem_of_mem_tail hq)
    have hends : Word.EndsWord (joined tail rest).toList := endsWord_joined htail hapart
    rw [toList_joined_cons, Word.scan_blanks p.gap_blank,
      Word.scan_between_word p.toList_word_ne_nil (Word.isWord_iff.1 p.word_shaped).2 hends,
      scan_joined htail hrest, Word.bytes_toList, Word.bytes_toList, String.ofList_toList]
    rfl

end SpacedWord

namespace Layout

/-- A word in front of a layout that begins with blanks. -/
def cons (p : SpacedWord) (l : Layout) (h : ∀ q ∈ l.pieces, q.gap ≠ "") : Layout where
  pieces := p :: l.pieces
  tail := l.tail
  apart := h
  tail_blank := l.tail_blank

/-- Where the text begins with blanks, so does its first word. -/
theorem gaps_ne_empty {l : Layout} (h : Word.EndsWord l.text.toList) :
    ∀ p ∈ l.pieces, p.gap ≠ "" := by
  obtain ⟨pieces, tail, hapart, htail⟩ := l
  cases pieces with
  | nil => exact nofun
  | cons p rest =>
    refine List.forall_mem_cons.2 ⟨fun hgap => ?_, hapart⟩
    -- without a gap the word itself would begin with a blank
    obtain ⟨c, cs, hword⟩ := List.exists_cons_of_ne_nil p.toList_word_ne_nil
    have hc : Text.isBlank c = true := by
      apply h c
      rw [text, SpacedWord.toList_joined_cons, hgap, hword]
      rfl
    have hclosed := (Word.isWord_iff.1 p.word_shaped).2
    rw [hword] at hclosed
    rw [Word.closes_head hclosed] at hc
    cases hc

/-- A text whose words are found is laid out. -/
theorem exists_of_scan {cs : List Char} {offset : Nat} {words : List Word}
    (h : Word.scan .between offset cs = .ok words) : ∃ l : Layout, l.text.toList = cs := by
  have hcs : cs.takeWhile Text.isBlank ++ cs.dropWhile Text.isBlank = cs :=
    List.takeWhile_append_dropWhile
  have hgap : ∀ c ∈ cs.takeWhile Text.isBlank, Text.isBlank c = true :=
    List.all_eq_true.1 List.all_takeWhile
  have hgap' : ∀ c ∈ (String.ofList (cs.takeWhile Text.isBlank)).toList, Text.isBlank c = true := by
    rwa [String.toList_ofList]
  cases hdrop : cs.dropWhile Text.isBlank with
  | nil =>
    refine ⟨⟨[], String.ofList (cs.takeWhile Text.isBlank), nofun, hgap'⟩, ?_⟩
    rw [hdrop, List.append_nil] at hcs
    rw [text, SpacedWord.joined, String.toList_ofList, hcs]
  | cons c after =>
    have hc : Text.isBlank c = false := by
      have := List.head?_dropWhile_not Text.isBlank cs
      rw [hdrop] at this
      simpa using this
    rw [hdrop] at hcs
    rw [← hcs, Word.scan_blanks hgap] at h
    -- behind the blanks there is a word, and what follows it is laid out in turn
    obtain ⟨s, inQuote, hs, hscan, hcloses⟩ := Word.exists_reads
      (offset + Word.bytes (cs.takeWhile Text.isBlank)) after hc
    rw [hscan] at h
    obtain ⟨w, rest, rfl, hw, hrest⟩ := Word.exists_word_of_scan hs h
    rw [Word.scan_word hs hw hrest] at h
    obtain ⟨words', hwords, -⟩ := map_eq_ok.1 h
    have hshorter : rest.length < cs.length := by
      rw [← hcs]
      simp
      omega
    obtain ⟨l, hl⟩ := exists_of_scan hwords
    have hword : IsWord (String.ofList (c :: w)) := by
      rw [Word.isWord_iff, String.toList_ofList, hcloses]
      refine ⟨fun h => ?_, hw⟩
      rw [String.ofList_eq_empty_iff] at h
      cases h
    refine ⟨l.cons ⟨_, _, hgap', hword⟩ (gaps_ne_empty (hl ▸ hrest)), ?_⟩
    have htext : (SpacedWord.joined l.tail l.pieces).toList = rest := hl
    rw [text, cons, SpacedWord.toList_joined_cons, htext, String.toList_ofList,
      String.toList_ofList, List.cons_append, hcs]
termination_by cs.length

end Layout

/-! ## §4. Places -/

theorem SpacedWord.mem_placed (tail : String) : ∀ {pieces : List SpacedWord} {offset : Nat}
    {w : Word}, w ∈ placed offset pieces → IsWord w.text ∧ ∃ before after,
      joined tail pieces = before ++ w.text ++ after ∧ offset + before.utf8ByteSize = w.position
  | p :: rest, offset, w, h => by
    rcases List.mem_cons.1 h with rfl | h
    · exact ⟨p.word_shaped, p.gap, joined tail rest, rfl, rfl⟩
    · obtain ⟨hshape, before, after, htext, hplace⟩ := mem_placed tail h
      refine ⟨hshape, p.gap ++ p.word ++ before, after, ?_, ?_⟩
      · rw [joined, htext]
        simp only [String.append_assoc]
      · rw [← hplace, String.utf8ByteSize_append, String.utf8ByteSize_append]
        omega

/-- Words with blanks in front of them stand behind the offset. -/
theorem SpacedWord.lt_position : ∀ {pieces : List SpacedWord} {offset : Nat},
    (∀ p ∈ pieces, p.gap ≠ "") → ∀ w ∈ placed offset pieces, offset < w.position
  | p :: rest, offset, hgaps, w, h => by
    obtain ⟨hgap, hrest⟩ := List.forall_mem_cons.1 hgaps
    have hpos : 0 < p.gap.utf8ByteSize := by
      rw [Nat.pos_iff_ne_zero, ne_eq, String.utf8ByteSize_eq_zero_iff]
      exact hgap
    rcases List.mem_cons.1 h with rfl | h
    · exact Nat.lt_add_of_pos_right hpos
    · have := lt_position hrest w h
      omega

/-- Every word ends before the next one begins. -/
theorem SpacedWord.pairwise_placed : ∀ {pieces : List SpacedWord} {offset : Nat},
    (∀ p ∈ pieces.tail, p.gap ≠ "") →
      (placed offset pieces).Pairwise fun a b => a.position + a.text.utf8ByteSize < b.position
  | [], _, _ => .nil
  | p :: rest, offset, hapart => by
    have hrest : ∀ q ∈ rest.tail, q.gap ≠ "" := fun q hq => hapart q (List.mem_of_mem_tail hq)
    exact List.pairwise_cons.2 ⟨lt_position hapart, pairwise_placed hrest⟩

/-- **A text is split into words exactly if it is laid out in them.** -/
theorem Word.split_eq_ok_iff {text : String} {words : List Word} :
    split text = .ok words ↔ ∃ l : Layout, l.text = text ∧ l.words = words := by
  have hlayout : ∀ l : Layout, split l.text = .ok l.words := fun l =>
    SpacedWord.scan_joined l.tail_blank l.apart
  constructor
  · intro h
    obtain ⟨l, hl⟩ := Layout.exists_of_scan h
    obtain rfl : l.text = text := String.toList_injective hl
    exact ⟨l, rfl, Except.ok.inj ((hlayout l).symm.trans h)⟩
  · rintro ⟨l, rfl, rfl⟩
    exact hlayout l

/-! ## §5. Tokens -/

/-- The word that a token was made from. -/
def Token.word (t : Token) : Word :=
  ⟨t.position, t.raw⟩

theorem Token.word_of_ofWord {w : Word} {t : Token} (h : ofWord w = .ok t) : t.word = w := by
  obtain ⟨kind, -, rfl⟩ := map_eq_ok.1 h
  rfl

theorem Token.word_of_ofFirstWord {w : Word} {t : Token} (h : ofFirstWord w = .ok t) :
    t.word = w := by
  unfold ofFirstWord at h
  split at h
  · obtain rfl := Except.ok.inj h
    rfl
  · exact word_of_ofWord h

theorem Token.map_word_of_ofWords {words : List Word} {tokens : List Token}
    (h : ofWords words = .ok tokens) : tokens.map word = words := by
  cases words with
  | nil =>
    obtain rfl := Except.ok.inj h
    rfl
  | cons first rest =>
    obtain ⟨t, ht, h⟩ := bind_eq_ok.1 h
    obtain ⟨ts, hts, h⟩ := bind_eq_ok.1 h
    obtain rfl : t :: ts = tokens := Except.ok.inj h
    rw [List.map_cons, word_of_ofFirstWord ht, map_of_mapM_eq_ok (fun _ _ => word_of_ofWord) hts]

/-- The words of a lexed text, as its tokens have them. -/
theorem split_of_lex {text : String} {tokens : List Token} (h : lex text = .ok tokens) :
    Word.split text = .ok (tokens.map Token.word) := by
  obtain ⟨words, hsplit, hwords⟩ := bind_eq_ok.1 h
  rw [Token.map_word_of_ofWords hwords, hsplit]

/-- The tokens of a lexed text, the first as that of a first word, are those of their words. -/
theorem Token.ofWord_of_lex {text : String} {first : Token} {rest : List Token}
    (h : lex text = .ok (first :: rest)) :
    ofFirstWord first.word = .ok first ∧ ∀ t ∈ rest, ofWord t.word = .ok t := by
  obtain ⟨words, _, hwords⟩ := bind_eq_ok.1 h
  rw [← map_word_of_ofWords hwords, List.map_cons] at hwords
  obtain ⟨t, ht, hwords⟩ := bind_eq_ok.1 hwords
  obtain ⟨ts, hts, hwords⟩ := bind_eq_ok.1 hwords
  have hall : t :: ts = first :: rest := Except.ok.inj hwords
  obtain ⟨rfl, rfl⟩ := List.cons.inj hall
  refine ⟨ht, forall_mem_of_mapM_eq_ok ?_ hts⟩
  intro w u hu
  rw [word_of_ofWord hu, hu]

theorem Token.ofWord_eq_ok_iff {t : Token} :
    ofWord t.word = .ok t ↔ classify t.raw t.position = .ok t.kind := by
  unfold ofWord
  rw [map_eq_ok]
  constructor
  · intro h
    obtain ⟨kind, hkind, ht⟩ := h
    rw [← congrArg Token.kind ht]
    exact hkind
  · intro h
    exact ⟨t.kind, h, rfl⟩

/-- Every token of a lexed text ends before the next one begins. -/
theorem pairwise_of_lex {text : String} {tokens : List Token} (h : lex text = .ok tokens) :
    tokens.Pairwise fun a b => a.position + a.raw.utf8ByteSize < b.position := by
  obtain ⟨l, _, hwords⟩ := Word.split_eq_ok_iff.1 (split_of_lex h)
  have hpairwise : l.words.Pairwise fun a b => a.position + a.text.utf8ByteSize < b.position :=
    SpacedWord.pairwise_placed l.apart
  rwa [hwords, List.pairwise_map] at hpairwise

/-- **LEXING IS LOSSLESS AND EXACT**: a text that is lexed is laid out in the words of its tokens,
so that nothing but blanks stands around them and some blank between any two; each of these words
is the part of the text at its byte offset and has the shape of a word, and each ends before the
next begins. The other way round, a text that is laid out in words, whatever they are, is split into
just these at their byte offsets. -/
theorem lex_lossless :
    (∀ text tokens, lex text = .ok tokens →
      (∃ l : Layout, l.text = text ∧ l.words = tokens.map Token.word) ∧
      (∀ t ∈ tokens, IsWord t.raw ∧ ∃ before after, text = before ++ t.raw ++ after ∧
        before.utf8ByteSize = t.position) ∧
      tokens.Pairwise fun a b => a.position + a.raw.utf8ByteSize < b.position) ∧
    ∀ l : Layout, Word.split l.text = .ok l.words := by
  refine ⟨fun text tokens h => ?_, fun l => Word.split_eq_ok_iff.2 ⟨l, rfl, rfl⟩⟩
  obtain ⟨l, rfl, hwords⟩ := Word.split_eq_ok_iff.1 (split_of_lex h)
  refine ⟨⟨l, rfl, hwords⟩, fun t ht => ?_, pairwise_of_lex h⟩
  have hmem : t.word ∈ l.words := hwords ▸ List.mem_map_of_mem ht
  obtain ⟨hshape, before, after, htext, hplace⟩ := SpacedWord.mem_placed l.tail hmem
  exact ⟨hshape, before, after, htext, by rw [← Nat.zero_add before.utf8ByteSize, hplace]; rfl⟩

/-- Blanks of three kinds, a word with a quoted blank in it, and characters of several bytes. -/
theorem lex_lossless_quoted :
    let text := " tasks\u3000@\"über uns\"-é\t p1 "
    let tokens : List Token := [⟨.domain .task, "tasks", 1⟩,
      ⟨.projectRef "über uns-é", "@\"über uns\"-é", 9⟩, ⟨.priorityExpr "1", "p1", 26⟩]
    lex text = .ok tokens ∧ (∃ l : Layout, l.text = text ∧ l.words = tokens.map Token.word) ∧
      (∀ t ∈ tokens, IsWord t.raw ∧ ∃ before after, text = before ++ t.raw ++ after ∧
        before.utf8ByteSize = t.position) ∧
      tokens.Pairwise fun a b => a.position + a.raw.utf8ByteSize < b.position :=
  ⟨by decide +kernel, lex_lossless.1 _ _ (by decide +kernel)⟩

end Agenda
