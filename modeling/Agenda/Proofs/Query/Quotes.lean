import Agenda.Proofs.Query.Classification
import Agenda.Proofs.Query.Words

/-!
# Quotes that are never closed

A scan for words turns from outside to inside of a quote, or back, at every double quote and nowhere
else, so that where it stands at the end of the text is a matter of how many quotes there are. A text
with an odd number of them is refused, and the quote that is reported is the one that the scan was
inside of: the last one, from which on the whole rest of the text is quoted.

The words are classified only when all of them have been found, so that nothing else in the text
comes before this report.

Main results:
  * `Word.scan_cons`, `Word.scan_append` — what a scan makes of one character and of a stretch;
  * `Word.split_eq_error_iff` — which texts cannot be split, and what is reported;
  * `unterminated_quote_iff` — the same of lexing.
-/

namespace Agenda

namespace Word

/-! ## §1. Inside and outside of quotes -/

/-- Whether a scan stands inside a quote. -/
def Scan.inQuote : Scan → Bool
  | between | bare _ _ => false
  | quoted _ _ _ _ => true

theorem ne_quote_of_isBlank {c : Char} (h : Text.isBlank c = true) : c ≠ '"' := by
  rintro rfl
  rw [Text.isBlank_quote] at h
  cases h

/-- **One character**: a quote turns inside to outside and back, and nothing else does. -/
theorem scan_cons (s : Scan) (offset : Nat) (c : Char) (cs : List Char) :
    ∃ s' words, s'.inQuote = (if c = '"' then !s.inQuote else s.inQuote) ∧
      scan s offset (c :: cs) = (scan s' (offset + c.utf8Size) cs).map (words ++ ·) := by
  -- only a blank behind a word makes a word
  have hsame : ∀ s', s'.inQuote = (if c = '"' then !s.inQuote else s.inQuote) →
      scan s offset (c :: cs) = scan s' (offset + c.utf8Size) cs →
      ∃ s' words, s'.inQuote = (if c = '"' then !s.inQuote else s.inQuote) ∧
        scan s offset (c :: cs) = (scan s' (offset + c.utf8Size) cs).map (words ++ ·) := by
    intro s' hs' hscan
    refine ⟨s', [], hs', hscan.trans ?_⟩
    cases scan s' (offset + c.utf8Size) cs <;> rfl
  cases s with
  | between =>
    by_cases hblank : Text.isBlank c = true
    · refine hsame .between (by rw [if_neg (ne_quote_of_isBlank hblank)]) ?_
      rw [scan, if_pos hblank]
    · by_cases hc : c = '"'
      · refine hsame (.quoted offset [c] offset (c :: cs)) (by rw [if_pos hc]; rfl) ?_
        rw [scan, if_neg hblank, if_pos hc]
      · refine hsame (.bare offset [c]) (by rw [if_neg hc]; rfl) ?_
        rw [scan, if_neg hblank, if_neg hc]
  | bare start read =>
    by_cases hblank : Text.isBlank c = true
    · refine ⟨.between, [ofRead start read], by rw [if_neg (ne_quote_of_isBlank hblank)]; rfl, ?_⟩
      rw [scan, if_pos hblank]
      rfl
    · by_cases hc : c = '"'
      · refine hsame (.quoted start (c :: read) offset (c :: cs)) (by rw [if_pos hc]; rfl) ?_
        rw [scan, if_neg hblank, if_pos hc]
      · refine hsame (.bare start (c :: read)) (by rw [if_neg hc]; rfl) ?_
        rw [scan, if_neg hblank, if_neg hc]
  | quoted start read opened fragment =>
    by_cases hc : c = '"'
    · refine hsame (.bare start (c :: read)) (by rw [if_pos hc]; rfl) ?_
      rw [scan, if_pos hc]
    · refine hsame (.quoted start (c :: read) opened fragment) (by rw [if_neg hc]; rfl) ?_
      rw [scan, if_neg hc]

/-- **A stretch of text**: what counts is whether the number of its quotes is odd. -/
theorem scan_append (rest : List Char) : ∀ (cs : List Char) (s : Scan) (offset : Nat),
    ∃ s' words, (s'.inQuote = true ↔ Odd (cs.count '"' + s.inQuote.toNat)) ∧
      scan s offset (cs ++ rest) = (scan s' (offset + bytes cs) rest).map (words ++ ·)
  | [], s, offset => by
    refine ⟨s, [], by cases s.inQuote <;> simp, ?_⟩
    rw [List.nil_append, bytes_nil, Nat.add_zero]
    cases scan s offset rest <;> rfl
  | c :: cs, s, offset => by
    obtain ⟨s₁, words₁, hquote₁, hscan₁⟩ := scan_cons s offset c (cs ++ rest)
    obtain ⟨s₂, words₂, hquote₂, hscan₂⟩ := scan_append rest cs s₁ (offset + c.utf8Size)
    refine ⟨s₂, words₁ ++ words₂, ?_, ?_⟩
    · rw [hquote₂, hquote₁]
      by_cases hc : c = '"'
      · cases s.inQuote <;> simp [hc, Nat.odd_add_one]
      · rw [if_neg hc, List.count_cons_of_ne hc]
    · rw [List.cons_append, hscan₁, hscan₂, bytes_cons, Nat.add_assoc]
      cases scan s₂ (offset + (c.utf8Size + bytes cs)) rest <;> simp [Except.map]

/-! ## §2. The end of the text -/

/-- A scan that ends outside of quotes succeeds. -/
theorem exists_scan_nil {s : Scan} (offset : Nat) (h : s.inQuote = false) :
    ∃ words, scan s offset [] = .ok words := by
  cases s with
  | between => exact ⟨_, rfl⟩
  | bare start read => exact ⟨_, rfl⟩
  | quoted => cases h

/-- Without another quote the one that is open stays open. -/
theorem scan_quoted_error {start opened offset : Nat} {read fragment cs : List Char}
    (h : '"' ∉ cs) : scan (.quoted start read opened fragment) offset cs =
      .error (.unterminatedQuote (String.ofList fragment) opened) := by
  rw [← List.append_nil cs, scan_in_quote h]
  rfl

/-- A quote that no other one follows is reported from where it stands. -/
theorem scan_last_quote {s : Scan} {offset : Nat} {after : List Char} (hs : s.inQuote = false)
    (hafter : '"' ∉ after) : scan s offset ('"' :: after) =
      .error (.unterminatedQuote (String.ofList ('"' :: after)) offset) := by
  cases s with
  | between => exact scan_quoted_error hafter
  | bare start read => exact scan_quoted_error hafter
  | quoted => cases hs

/-! ## §3. Texts -/

/-- A text with an odd number of quotes has a last one. -/
theorem exists_last_quote {text : String} (h : Odd (text.toList.count '"')) :
    ∃ before after, text = before ++ ("\"" ++ after) ∧ '"' ∉ after.toList := by
  have hmem : '"' ∈ text.toList.reverse := by
    rw [List.mem_reverse, ← List.count_pos_iff]
    refine Nat.pos_of_ne_zero fun hzero => ?_
    rw [hzero] at h
    exact Nat.not_odd_zero h
  -- the last one is the first one from the end
  obtain ⟨after, before, htext, hafter⟩ := List.eq_append_cons_of_mem hmem
  refine ⟨String.ofList before.reverse, String.ofList after.reverse, ?_, by simpa using hafter⟩
  apply String.toList_injective
  rw [← List.reverse_reverse text.toList, htext]
  simp

/-- A text with an even number of quotes is split. -/
theorem exists_split_of_even {text : String} (h : Even (text.toList.count '"')) :
    ∃ words, split text = .ok words := by
  obtain ⟨s, words, hquote, hscan⟩ := scan_append [] text.toList .between 0
  have hs : s.inQuote = false := by
    rw [← Bool.not_eq_true, hquote, Nat.not_odd_iff_even]
    exact h
  obtain ⟨last, hlast⟩ := exists_scan_nil (0 + bytes text.toList) hs
  refine ⟨words ++ last, ?_⟩
  rw [List.append_nil, hlast] at hscan
  exact hscan

/-- A text with an odd number of quotes is refused with the rest of it from the last one on. -/
theorem split_of_odd {before after : String} (hafter : '"' ∉ after.toList)
    (h : Odd ((before ++ ("\"" ++ after)).toList.count '"')) :
    split (before ++ ("\"" ++ after)) =
      .error (.unterminatedQuote ("\"" ++ after) before.utf8ByteSize) := by
  have htext : (before ++ ("\"" ++ after)).toList = before.toList ++ '"' :: after.toList := by
    rw [String.toList_append, String.toList_append]
    rfl
  obtain ⟨s, words, hquote, hscan⟩ := scan_append ('"' :: after.toList) before.toList .between 0
  -- the quotes before the last one are even in number, so that it opens
  have hs : s.inQuote = false := by
    rw [htext, List.count_append, List.count_cons_self, List.count_eq_zero.2 hafter,
      Nat.odd_add_one, Nat.not_odd_iff_even] at h
    rw [← Bool.not_eq_true, hquote, Nat.not_odd_iff_even]
    exact h
  have hfragment : String.ofList ('"' :: after.toList) = "\"" ++ after := by
    rw [String.ofList_cons, String.ofList_toList]
    rfl
  unfold split
  rw [htext, hscan, scan_last_quote hs hafter, bytes_toList, Nat.zero_add, hfragment]
  rfl

/-- **Which texts cannot be split**: those with an odd number of quotes, and what is reported is the
text from the last of them on. -/
theorem split_eq_error_iff {text : String} {e : LexError} :
    split text = .error e ↔ Odd (text.toList.count '"') ∧ ∃ before after,
      text = before ++ ("\"" ++ after) ∧ '"' ∉ after.toList ∧
        e = .unterminatedQuote ("\"" ++ after) before.utf8ByteSize := by
  constructor
  · intro herror
    have hodd : Odd (text.toList.count '"') := by
      rw [← Nat.not_even_iff_odd]
      intro heven
      obtain ⟨words, hok⟩ := exists_split_of_even heven
      rw [hok] at herror
      cases herror
    obtain ⟨before, after, rfl, hafter⟩ := exists_last_quote hodd
    rw [split_of_odd hafter hodd] at herror
    exact ⟨hodd, before, after, rfl, hafter, (Except.error.inj herror).symm⟩
  · rintro ⟨hodd, before, after, rfl, hafter, rfl⟩
    exact split_of_odd hafter hodd

end Word

/-! ## §4. Tokens -/

namespace Token

/-- The only thing that can be wrong with a word is a directive. -/
theorem eq_malformedDirective_of_ofWord {w : Word} {e : LexError} (h : ofWord w = .error e) :
    ∃ fragment position, e = .malformedDirective fragment position := by
  have hsays := says_classify w.text w.position
  rw [map_eq_error.1 h] at hsays
  cases hsays with
  | malformed => exact ⟨_, _, rfl⟩

theorem eq_malformedDirective_of_ofWords {words : List Word} {e : LexError}
    (h : ofWords words = .error e) : ∃ fragment position, e = .malformedDirective fragment position := by
  cases words with
  | nil => cases h
  | cons first rest =>
    rcases bind_eq_error.1 h with hfirst | ⟨t, _, h⟩
    · unfold ofFirstWord at hfirst
      split at hfirst
      next => cases hfirst
      next => exact eq_malformedDirective_of_ofWord hfirst
    · rcases bind_eq_error.1 h with hrest | ⟨ts, _, h⟩
      · obtain ⟨w, _, hw⟩ := exists_of_mapM_eq_error hrest
        exact eq_malformedDirective_of_ofWord hw
      · cases h

end Token

/-- What is reported of the quotes of a text is what its splitting reports. -/
theorem lex_eq_unterminatedQuote_iff {text fragment : String} {position : Nat} :
    lex text = .error (.unterminatedQuote fragment position) ↔
      Word.split text = .error (.unterminatedQuote fragment position) := by
  constructor
  · intro h
    rcases bind_eq_error.1 h with hsplit | ⟨words, _, hwords⟩
    · exact hsplit
    · obtain ⟨_, _, he⟩ := Token.eq_malformedDirective_of_ofWords hwords
      cases he
  · exact fun h => bind_eq_error.2 (.inl h)

/-- **AN UNTERMINATED QUOTE IS AN ODD NUMBER OF QUOTES**: the texts that are refused for a quote
without an end are those with an odd number of double quotes, whatever else is in them; and what is
reported is the byte offset of the last quote and the whole rest of the text from it on. -/
theorem unterminated_quote_iff (text : String) :
    ((∃ fragment position, lex text = .error (.unterminatedQuote fragment position)) ↔
      Odd (text.toList.count '"')) ∧
    ∀ fragment position, lex text = .error (.unterminatedQuote fragment position) ↔
      Odd (text.toList.count '"') ∧ ∃ before after, text = before ++ fragment ∧
        fragment = "\"" ++ after ∧ '"' ∉ after.toList ∧ position = before.utf8ByteSize := by
  constructor
  · simp only [lex_eq_unterminatedQuote_iff]
    constructor
    · rintro ⟨fragment, position, h⟩
      exact (Word.split_eq_error_iff.1 h).1
    · intro hodd
      obtain ⟨before, after, rfl, hafter⟩ := Word.exists_last_quote hodd
      exact ⟨_, _, Word.split_of_odd hafter hodd⟩
  · intro fragment position
    rw [lex_eq_unterminatedQuote_iff, Word.split_eq_error_iff]
    refine and_congr_right fun _ => ?_
    constructor
    · rintro ⟨before, after, htext, hafter, he⟩
      obtain ⟨rfl, rfl⟩ := LexError.unterminatedQuote.inj he
      exact ⟨before, after, htext, rfl, hafter, rfl⟩
    · rintro ⟨before, after, htext, rfl, hafter, rfl⟩
      exact ⟨before, after, htext, hafter, rfl⟩

example : lex "tasks cols:,, @\"über\" x\"ü #a" = .error (.unterminatedQuote "\"ü #a" 24) := by
  decide +kernel

end Agenda
