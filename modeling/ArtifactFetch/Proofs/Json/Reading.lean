import ArtifactFetch.Json.Record
import ArtifactFetch.Proofs.Json.Grammar

/-! # Single values are read

A reader *takes* a text for a value if it does so behind any blanks and before anything that can end
a value (`Takes`). The readers of the single kinds of value take every text that denotes a datum of
their kind for it: strings in all their spellings (`takes_text`), counts up to the greatest one
(`takes_count`), flags and `null`. -/

namespace ArtifactFetch.Json

/-! ### What stands around a value -/

/-- What can follow a value: the end of the text, a comma, a closing bracket or brace, or a
blank. -/
def Ends : List Char → Prop
  | [] => True
  | c :: _ => c = ',' ∨ c = '}' ∨ c = ']' ∨ isBlank c = true

theorem allBlank_nil : AllBlank [] := by simp [AllBlank]

theorem skipBlanks_append {lead : List Char} (h : AllBlank lead) (text : List Char) :
    skipBlanks (lead ++ text) = skipBlanks text :=
  List.dropWhile_append_of_pos h

theorem skipBlanks_cons {c : Char} (h : isBlank c = false) (text : List Char) :
    skipBlanks (c :: text) = c :: text := by
  rw [skipBlanks, List.dropWhile_cons_of_neg (by simp [h])]

/-- Blanks are passed over up to a character that is none. -/
theorem skipBlanks_append_cons {lead : List Char} (h : AllBlank lead) {c : Char}
    (hc : isBlank c = false) (text : List Char) : skipBlanks (lead ++ c :: text) = c :: text := by
  rw [skipBlanks_append h, skipBlanks_cons hc]

theorem isBlank_eq_true_iff {c : Char} :
    isBlank c = true ↔ c = ' ' ∨ c = '\n' ∨ c = '\t' ∨ c = '\r' := by
  simp [isBlank, or_assoc]

theorem ends_comma (text : List Char) : Ends (',' :: text) := .inl rfl

theorem ends_append {lead : List Char} (h : AllBlank lead) {text : List Char} (ht : Ends text) :
    Ends (lead ++ text) := by
  cases lead with
  | nil => exact ht
  | cons c lead => exact .inr (.inr (.inr (h c List.mem_cons_self)))

/-- What follows a value cannot be taken for a part of a number. -/
theorem Ends.not_number {c : Char} {text : List Char} (h : Ends (c :: text)) :
    c.isDigit = false ∧ c ≠ '.' ∧ c ≠ 'e' ∧ c ≠ 'E' := by
  rcases h with rfl | rfl | rfl | h
  · decide
  · decide
  · decide
  · rcases isBlank_eq_true_iff.mp h with rfl | rfl | rfl | rfl <;> decide

/-- No digit comes next. -/
def NoDigit (text : List Char) : Prop := ∀ c cs, text = c :: cs → c.isDigit = false

theorem Ends.noDigit {text : List Char} (h : Ends text) : NoDigit text := by
  rintro c cs rfl
  exact h.not_number.1

theorem dropWhile_isDigit {digits rest : List Char} (hd : ∀ d ∈ digits, d.isDigit = true)
    (hr : NoDigit rest) : (digits ++ rest).dropWhile Char.isDigit = rest := by
  rw [List.dropWhile_append_of_pos hd]
  cases rest with
  | nil => rfl
  | cons c cs => rw [List.dropWhile_cons_of_neg (by simp [hr c cs rfl])]

theorem takeWhile_isDigit {digits rest : List Char} (hd : ∀ d ∈ digits, d.isDigit = true)
    (hr : NoDigit rest) : (digits ++ rest).takeWhile Char.isDigit = digits := by
  rw [List.takeWhile_append_of_pos hd]
  cases rest with
  | nil => simp
  | cons c cs => rw [List.takeWhile_cons_of_neg (by simp [hr c cs rfl]), List.append_nil]

variable {α : Type}

/-- `read` takes `text` for `a` where a value stands. -/
def Takes (read : Reader α) (text : List Char) (a : α) : Prop :=
  ∀ lead rest, AllBlank lead → Ends rest → read (lead ++ (text ++ rest)) = .ok (a, rest)

/-! ### Strings -/

theorem hexValue_of_hexDigit {n : Nat} {c : Char} (h : HexDigit n c) : hexValue c = some n := by
  have both : ∀ n < 16, hexValue n.digitChar = some n ∧ hexValue n.digitChar.toUpper = some n := by
    decide
  obtain ⟨lt, rfl | rfl⟩ := h
  · exact (both n lt).1
  · exact (both n lt).2

theorem readHex_hex4 {n : Nat} {t : List Char} (h : Hex4 n t) (rest : List Char) :
    readHex (t ++ rest) = .ok (n, rest) := by
  obtain ⟨hp, hq, hr, hs⟩ := h
  simp [readHex, hexValue4, hexValue_of_hexDigit hp, hexValue_of_hexDigit hq,
    hexValue_of_hexDigit hr, hexValue_of_hexDigit hs]

theorem escaped_of_escape {e c : Char} (h : Escape e c) : escaped e = some c := by
  cases h <;> decide

theorem readEscape_of_escape {e c : Char} (h : Escape e c) (rest : List Char) :
    readEscape (e :: rest) = .ok (c, rest) := by
  simp [readEscape, escaped_of_escape h]

theorem readEscape_of_readUnicode {cs rest : List Char} {c : Char}
    (h : readUnicode cs = .ok (c, rest)) : readEscape ('u' :: cs) = .ok (c, rest) := by
  have letter : escaped 'u' = none := by decide
  simp [readEscape, letter, h]

/-- The code point of a character is that of no surrogate. -/
theorem not_surrogate (c : Char) : isTrail c.toNat = false ∧ isLead c.toNat = false := by
  have valid : c.toNat < 0xd800 ∨ 0xdfff < c.toNat ∧ c.toNat < 0x110000 := c.valid
  simp only [isTrail, isLead, Bool.and_eq_false_imp, decide_eq_true_eq, decide_eq_false_iff_not]
  omega

theorem readUnicode_unit {c : Char} {t : List Char} (h : Hex4 c.toNat t) (rest : List Char) :
    readUnicode (t ++ rest) = .ok (c, rest) := by
  simp [readUnicode, readHex_hex4 h, not_surrogate c]

theorem readUnicode_pair {lead trail : Nat} {t u : List Char} {c : Char}
    (lead_ge : 0xd800 ≤ lead) (lead_lt : lead < 0xdc00) (trail_ge : 0xdc00 ≤ trail)
    (trail_lt : trail < 0xe000)
    (point : c.toNat = (lead - 0xd800) * 0x400 + (trail - 0xdc00) + 0x10000)
    (ht : Hex4 lead t) (hu : Hex4 trail u) (rest : List Char) :
    readUnicode (t ++ '\\' :: 'u' :: (u ++ rest)) = .ok (c, rest) := by
  have first : isTrail lead = false ∧ isLead lead = true := by
    simp only [isTrail, isLead, Bool.and_eq_false_imp, Bool.and_eq_true, decide_eq_true_eq,
      decide_eq_false_iff_not]
    omega
  have second : isTrail trail = true := by
    simp only [isTrail, Bool.and_eq_true, decide_eq_true_eq]
    omega
  have joined : joinSurrogates lead trail = c := by
    rw [joinSurrogates, ← point, Char.ofNat_toNat]
  simp [readUnicode, readHex_hex4 ht, first, readSecond, readHex_hex4 hu, second, joined]

theorem readChars_of_readEscape {cs rest : List Char} {d : Char}
    (h : readEscape cs = .ok (d, rest)) (read : List Char) :
    readChars read ('\\' :: cs) = readChars (d :: read) rest := by
  rw [readChars, if_neg (by decide), if_pos rfl]
  split
  · next he => rw [h] at he; cases he
  · next he => rw [h] at he; cases he; rfl

/-- **A character is read** in whichever way it stands in a string. -/
theorem readChars_spellsChar {c : Char} {t : List Char} (h : SpellsChar c t)
    (read rest : List Char) : readChars read (t ++ rest) = readChars (c :: read) rest := by
  cases h with
  | bare h =>
    obtain ⟨quote, slash, control⟩ := h
    have plain : ¬ isControl c = true := by simpa [isControl] using control
    rw [List.singleton_append, readChars, if_neg quote, if_neg slash, if_neg plain]
  | letter h => exact readChars_of_readEscape (readEscape_of_escape h rest) read
  | unit h =>
    exact readChars_of_readEscape (readEscape_of_readUnicode (readUnicode_unit h rest)) read
  | pair lead_ge lead_lt trail_ge trail_lt point ht hu =>
    have unicode := readUnicode_pair lead_ge lead_lt trail_ge trail_lt point ht hu rest
    have read_on := readChars_of_readEscape (readEscape_of_readUnicode unicode) read
    simpa only [List.cons_append, List.append_assoc] using read_on

theorem readChars_spells {s t : List Char} (h : Spells s t) (read rest : List Char) :
    readChars read (t ++ '"' :: rest) = .ok (read.reverse ++ s, rest) := by
  induction h generalizing read with
  | nil => rw [List.nil_append, readChars, if_pos rfl, List.append_nil]
  | cons hc _ ih =>
    rw [List.append_assoc, readChars_spellsChar hc, ih, List.reverse_cons, List.append_assoc,
      List.singleton_append]

/-- **A string is read** in all its spellings. -/
theorem readString_spells {s : String} {t : List Char} (h : Spells s.toList t) (rest : List Char) :
    readString (t ++ '"' :: rest) = .ok (s, rest) := by
  simp [readString, readChars_spells h]

theorem takes_text {s : String} {v : List Char} (h : Denotes (.text s) v) :
    Takes readText v s := by
  intro lead rest hl _
  obtain _ | _ | _ | _ | spelled := h
  rw [List.cons_append, List.append_assoc, readText, skipBlanks_append_cons hl (by decide)]
  exact (if_pos rfl).trans (readString_spells spelled rest)

/-! ### Flags and `null` -/

theorem readWord_append (w rest : List Char) : readWord w (w ++ rest) = .ok rest := by
  induction w with
  | nil => rfl
  | cons c w ih => rw [List.cons_append, readWord, if_pos rfl, ih]

theorem takes_flag {b : Bool} {v : List Char} (h : Denotes (.flag b) v) : Takes readFlag v b := by
  intro lead rest hl _
  rw [readFlag, skipBlanks_append hl]
  cases h with
  | true =>
    have word := readWord_append ['r', 'u', 'e'] rest
    exact (congrArg (Except.map (true, ·)) word : _)
  | false =>
    have word := readWord_append ['a', 'l', 's', 'e'] rest
    exact (congrArg (Except.map (false, ·)) word : _)

/-- The text starts neither with a blank nor with the first letter of `null`. -/
def StartsValue (v : List Char) : Prop := ∃ c cs, v = c :: cs ∧ isBlank c = false ∧ c ≠ 'n'

/-- An optional value is taken for what it is if its text, when there is one, cannot be taken for
`null`. -/
theorem takes_optional {read : Reader α} {datum : α → Datum}
    (hread : ∀ {a v}, Denotes (datum a) v → Takes read v a)
    (hstart : ∀ {a v}, Denotes (datum a) v → StartsValue v) {o : Option α} {v : List Char}
    (h : Denotes (.optional datum o) v) : Takes (readOptional read) v o := by
  intro lead rest hl hr
  rw [readOptional, skipBlanks_append hl]
  cases o with
  | none =>
    obtain ⟨⟩ := h
    have word := readWord_append ['u', 'l', 'l'] rest
    exact (congrArg (Except.map (none, ·)) word : _)
  | some a =>
    obtain ⟨c, cs, rfl, blank, letter⟩ := hstart h
    have taken := hread h [] rest allBlank_nil hr
    rw [List.nil_append, List.cons_append] at taken
    rw [List.cons_append, skipBlanks_cons blank]
    split
    · next h => cases h; exact absurd rfl letter
    · rw [taken]; rfl

theorem startsValue_text {s : String} {v : List Char} (h : Denotes (.text s) v) :
    StartsValue v := by
  obtain _ | _ | _ | _ | spelled := h
  exact ⟨'"', _, rfl, by decide, by decide⟩

/-! ### Counts -/

theorem le_ofDigitChars (digits : List Char) (n : Nat) : n ≤ Nat.ofDigitChars 10 digits n := by
  rw [Nat.ofDigitChars_eq_ofDigitChars_zero]
  exact Nat.le_add_right_of_le (Nat.le_mul_of_pos_left n (Nat.pow_pos (by decide)))

/-- All digits fit into a significand if the number does. -/
theorem absorb_eq {digits : List Char} {n : Nat}
    (h : Nat.ofDigitChars 10 digits n < significandLimit) :
    absorb n digits = (Nat.ofDigitChars 10 digits n, []) := by
  induction digits generalizing n with
  | nil => rw [absorb, Nat.ofDigitChars_nil]
  | cons c cs ih =>
    rw [Nat.ofDigitChars_cons, Nat.mul_comm] at h ⊢
    have next : n * 10 + digitValue c < significandLimit :=
      Nat.lt_of_le_of_lt (le_ofDigitChars cs _) h
    rw [absorb, if_pos next]
    exact ih h

/-- Only zero is written with a zero in front. -/
theorem ne_zero_of_toDigits_eq {n : Nat} {c : Char} {cs : List Char} (hn : 0 < n)
    (h : Nat.toDigits 10 n = c :: cs) : c ≠ '0' := by
  induction n using Nat.strongRecOn generalizing cs with
  | _ n ih =>
    rw [Nat.toDigits_eq_if (by decide)] at h
    split at h
    · next small =>
      cases h
      have : ∀ d < 10, 0 < d → Nat.digitChar d ≠ '0' := by decide
      exact this n small hn
    · obtain ⟨d, ds, hd⟩ := List.exists_cons_of_ne_nil (Nat.toDigits_ne_nil (n := n / 10) (b := 10))
      rw [hd] at h
      cases h
      exact ih (n / 10) (by omega) (by omega) hd

theorem isDigit_of_toDigits_eq {n : Nat} {c : Char} {cs : List Char}
    (h : Nat.toDigits 10 n = c :: cs) : ∀ d ∈ c :: cs, d.isDigit = true :=
  fun _ hd => Nat.isDigit_of_mem_toDigits (by decide) (by decide) (h ▸ hd)

theorem readAfterDigits_eq {digits rest : List Char} (hr : Ends rest)
    (h : Nat.ofDigitChars 10 digits 0 < significandLimit) :
    readAfterDigits false digits rest = .ok (.natural (Nat.ofDigitChars 10 digits 0), rest) := by
  rw [readAfterDigits, absorb_eq h]
  dsimp only
  split
  · exact absurd rfl hr.not_number.2.1
  · exact absurd rfl hr.not_number.2.2.1
  · exact absurd rfl hr.not_number.2.2.2
  · rfl

/-- **A number that fits 64 bits is read** from its digits. -/
theorem readNumber_toDigits {n : Nat} (h : n < significandLimit) {rest : List Char}
    (hr : Ends rest) : readNumber false (Nat.toDigits 10 n ++ rest) = .ok (.natural n, rest) := by
  have value : Nat.ofDigitChars 10 (Nat.toDigits 10 n) 0 = n := Nat.ofDigitChars_ten_toDigits
  rcases Nat.eq_zero_or_pos n with rfl | hn
  · have zero : readAfterDigits false ['0'] rest = .ok (.natural 0, rest) :=
      readAfterDigits_eq hr (by decide)
    rw [Nat.toDigits_zero, List.singleton_append, readNumber.eq_def]
    refine (if_pos rfl).trans ?_
    cases rest with
    | nil => exact zero
    | cons c cs => exact (if_neg (by simp [hr.not_number])).trans zero
  · obtain ⟨c, cs, hc⟩ := List.exists_cons_of_ne_nil (Nat.toDigits_ne_nil (n := n) (b := 10))
    have digits := isDigit_of_toDigits_eq hc
    have tail : ∀ d ∈ cs, d.isDigit = true := fun d hd => digits d (List.mem_cons_of_mem c hd)
    rw [hc] at value ⊢
    rw [List.cons_append, readNumber.eq_def]
    dsimp only
    rw [if_neg (ne_zero_of_toDigits_eq hn hc), if_pos (digits c List.mem_cons_self),
      takeWhile_isDigit tail hr.noDigit, dropWhile_isDigit tail hr.noDigit,
      readAfterDigits_eq hr (value ▸ h), value]

/-- Neither blanks nor signs nor letters are digits. -/
theorem isBlank_of_isDigit {c : Char} (h : c.isDigit = true) :
    isBlank c = false ∧ c ≠ 'n' ∧ c ≠ '-' ∧ c ≠ '+' := by
  refine ⟨Bool.eq_false_iff.mpr fun blank => ?_, ?_, ?_, ?_⟩
  · rcases isBlank_eq_true_iff.mp blank with rfl | rfl | rfl | rfl <;>
      exact absurd h (by decide)
  all_goals
    rintro rfl
    exact absurd h (by decide)

theorem startsValue_count {n : UInt64} {v : List Char} (h : Denotes (.count n) v) :
    StartsValue v := by
  obtain ⟨⟩ := h
  obtain ⟨c, cs, hc⟩ := List.exists_cons_of_ne_nil (Nat.toDigits_ne_nil (n := n.toNat) (b := 10))
  have digit := isDigit_of_toDigits_eq hc c List.mem_cons_self
  exact ⟨c, cs, hc, (isBlank_of_isDigit digit).1, (isBlank_of_isDigit digit).2.1⟩

theorem takes_count (expected : String) {n : UInt64} {v : List Char} (h : Denotes (.count n) v) :
    Takes (readCount expected) v n := by
  intro lead rest hl hr
  obtain ⟨⟩ := h
  obtain ⟨c, cs, hc⟩ := List.exists_cons_of_ne_nil (Nat.toDigits_ne_nil (n := n.toNat) (b := 10))
  have digit := isDigit_of_toDigits_eq hc c List.mem_cons_self
  obtain ⟨blank, -, minus, -⟩ := isBlank_of_isDigit digit
  have number := readNumber_toDigits (n := n.toNat) n.toNat_lt hr
  rw [hc, List.cons_append] at number
  rw [hc, List.cons_append, readCount, skipBlanks_append_cons hl blank]
  dsimp only
  rw [if_pos (.inr digit), if_neg minus, number]
  exact congrArg (fun k => Except.ok (k, rest)) UInt64.ofNat_toNat

end ArtifactFetch.Json
