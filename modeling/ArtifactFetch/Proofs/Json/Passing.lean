import ArtifactFetch.Proofs.Json.Reading

/-! # Values are passed over

Skipping passes over exactly one value, whatever is nested in it (`skipValue_isValue`). The lists
and objects that are open are no matter: they are only put back when the value has ended, which is
what the induction on the grammar says of a value and of what stands between brackets or braces
alike (`Kind.Passed`). -/

namespace ArtifactFetch.Json

/-! ### Strings -/

theorem skipString_of_skipEscape {cs rest : List Char} (h : skipEscape cs = .ok rest) :
    skipString ('\\' :: cs) = skipString rest := by
  rw [skipString, if_neg (by decide), if_pos rfl]
  split
  · next he => rw [h] at he; cases he
  · next he => rw [h] at he; cases he; rfl

theorem skipEscape_letter {e c : Char} (h : Escape e c) (rest : List Char) :
    skipEscape (e :: rest) = .ok rest := by
  simp [skipEscape, escaped_of_escape h]

theorem skipEscape_unit {n : Nat} {t : List Char} (h : Hex4 n t) (rest : List Char) :
    skipEscape ('u' :: (t ++ rest)) = .ok rest := by
  have letter : escaped 'u' = none := by decide
  simp [skipEscape, letter, readHex_hex4 h, Except.map]

theorem skipString_stringBody {t : List Char} (h : StringBody t) (rest : List Char) :
    skipString (t ++ '"' :: rest) = .ok rest := by
  induction h with
  | nil => rw [List.nil_append, skipString, if_pos rfl]
  | @bare c _ hc _ ih =>
    obtain ⟨quote, slash, control⟩ := hc
    have plain : ¬ isControl c = true := by simpa [isControl] using control
    rw [List.cons_append, skipString, if_neg quote, if_neg slash, if_neg plain, ih]
  | letter he _ ih =>
    rw [List.cons_append, List.cons_append, skipString_of_skipEscape (skipEscape_letter he _), ih]
  | unit hn _ ih =>
    rw [List.cons_append, List.cons_append, List.append_assoc,
      skipString_of_skipEscape (skipEscape_unit hn _), ih]

/-! ### Numbers -/

variable {rest : List Char}

theorem skipExponent_digits {sign t : List Char} (hs : sign ∈ [[], ['+'], ['-']]) (ht : Digits t)
    (hr : NoDigit rest) : skipExponent (sign ++ (t ++ rest)) = .ok rest := by
  obtain ⟨some_digit, digits⟩ := ht
  obtain ⟨d, ds, rfl⟩ := List.exists_cons_of_ne_nil some_digit
  have digit : d.isDigit = true := digits d List.mem_cons_self
  obtain ⟨-, -, not_minus, not_plus⟩ := isBlank_of_isDigit digit
  have unsigned : dropSign (sign ++ (d :: ds ++ rest)) = d :: (ds ++ rest) := by
    simp only [List.mem_cons, List.not_mem_nil, or_false] at hs
    rcases hs with rfl | rfl | rfl
    · simp [dropSign, not_minus, not_plus]
    · rfl
    · rfl
  rw [skipExponent, unsigned]
  dsimp only
  rw [if_pos digit, dropWhile_isDigit (fun c hc => digits c (List.mem_cons_of_mem d hc)) hr]

theorem skipPower_of_ends (hr : Ends rest) : skipPower rest = .ok rest := by
  unfold skipPower
  split
  · exact absurd rfl hr.not_number.2.2.1
  · exact absurd rfl hr.not_number.2.2.2
  · rfl

theorem skipPower_exponent {e : List Char} (he : IsExponent e) (hr : Ends rest) :
    skipPower (e ++ rest) = .ok rest := by
  cases he with
  | none => exact skipPower_of_ends hr
  | digits letter hs ht =>
    have skipped := skipExponent_digits hs ht hr.noDigit
    rw [List.cons_append, List.append_assoc]
    rcases letter with rfl | rfl
    · exact skipped
    · exact skipped

/-- Behind the fraction there is neither another digit nor another point. -/
theorem noDigit_exponent {e : List Char} (he : IsExponent e) (hr : Ends rest) :
    NoDigit (e ++ rest) ∧ ∀ cs, e ++ rest ≠ '.' :: cs := by
  cases he with
  | none =>
    refine ⟨hr.noDigit, ?_⟩
    rintro cs rfl
    exact hr.not_number.2.1 rfl
  | digits letter _ _ =>
    rcases letter with rfl | rfl
    · exact ⟨by rintro c cs ⟨⟩; decide, nofun⟩
    · exact ⟨by rintro c cs ⟨⟩; decide, nofun⟩

theorem skipFraction_fraction {f e : List Char} (hf : IsFraction f) (he : IsExponent e)
    (hr : Ends rest) : skipFraction (f ++ (e ++ rest)) = .ok rest := by
  obtain ⟨no_digit, no_point⟩ := noDigit_exponent he hr
  cases hf with
  | none =>
    rw [List.nil_append]
    unfold skipFraction
    split
    · next cs h => exact absurd h (no_point cs)
    · exact skipPower_exponent he hr
  | digits ht =>
    obtain ⟨some_digit, digits⟩ := ht
    rw [List.cons_append, skipFraction, takeWhile_isDigit digits no_digit,
      dropWhile_isDigit digits no_digit, if_neg (by simpa using some_digit),
      skipPower_exponent he hr]

theorem noDigit_fraction {f e : List Char} (hf : IsFraction f) (he : IsExponent e)
    (hr : Ends rest) : NoDigit (f ++ (e ++ rest)) := by
  cases hf with
  | none => exact (noDigit_exponent he hr).1
  | digits ht =>
    rintro c cs ⟨⟩
    decide

theorem skipNumber_integer {i f e : List Char} (hi : IsInteger i) (hf : IsFraction f)
    (he : IsExponent e) (hr : Ends rest) : skipNumber (i ++ (f ++ (e ++ rest))) = .ok rest := by
  have no_digit := noDigit_fraction hf he hr
  cases hi with
  | zero =>
    have none_left := @takeWhile_isDigit [] _ nofun no_digit
    rw [List.nil_append] at none_left
    rw [List.singleton_append, skipNumber.eq_def]
    dsimp only
    rw [if_pos rfl, none_left]
    exact skipFraction_fraction hf he hr
  | @digits c cs not_zero ht =>
    have tail : ∀ d ∈ cs, d.isDigit = true := fun d hd => ht.2 d (List.mem_cons_of_mem c hd)
    rw [List.cons_append, skipNumber.eq_def]
    dsimp only
    rw [if_neg not_zero, if_pos (ht.2 _ List.mem_cons_self), dropWhile_isDigit tail no_digit]
    exact skipFraction_fraction hf he hr

/-! ### Scalars -/

/-- How an integer begins. -/
theorem IsInteger.exists_cons {i : List Char} (h : IsInteger i) :
    ∃ c cs, i = c :: cs ∧ c.isDigit = true := by
  cases h with
  | zero => exact ⟨'0', [], rfl, by decide⟩
  | digits _ ht => exact ⟨_, _, rfl, ht.2 _ List.mem_cons_self⟩

/-- A character with which a value can begin that opens nothing. -/
def StartsScalar (c : Char) : Prop := c ∈ ['n', 't', 'f', '"', '-'] ∨ c.isDigit = true

theorem opens_of_startsScalar {c : Char} (h : StartsScalar c) :
    opens c = none ∧ isBlank c = false ∧ c ≠ ']' := by
  rcases h with letter | digit
  · simp only [List.mem_cons, List.not_mem_nil, or_false] at letter
    rcases letter with rfl | rfl | rfl | rfl | rfl <;> decide
  · refine ⟨?_, (isBlank_of_isDigit digit).1, ?_⟩
    · have not_bracket : c ≠ '[' := by rintro rfl; exact absurd digit (by decide)
      have not_brace : c ≠ '{' := by rintro rfl; exact absurd digit (by decide)
      rw [opens, if_neg not_bracket, if_neg not_brace]
    · rintro rfl
      exact absurd digit (by decide)

/-- Digits are no letters. -/
theorem skipScalar_digit {c : Char} (h : c.isDigit = true) (cs : List Char) :
    skipScalar c cs = some (skipNumber (c :: cs)) := by
  have other : ∀ d ∈ ['n', 't', 'f', '"', '-'], c ≠ d := by
    rintro d letter rfl
    simp only [List.mem_cons, List.not_mem_nil, or_false] at letter
    rcases letter with rfl | rfl | rfl | rfl | rfl <;> exact absurd h (by decide)
  rw [skipScalar, if_neg (other 'n' (by decide)), if_neg (other 't' (by decide)),
    if_neg (other 'f' (by decide)), if_neg (other '"' (by decide)), if_neg (other '-' (by decide)),
    if_pos h]

theorem skipScalar_isScalar {t : List Char} (h : IsScalar t) :
    ∃ c cs, t = c :: cs ∧ StartsScalar c ∧
      ∀ {rest}, Ends rest → skipScalar c (cs ++ rest) = some (.ok rest) := by
  cases h with
  | null =>
    exact ⟨_, _, rfl, .inl (by decide), fun _ => congrArg some (readWord_append ['u', 'l', 'l'] _)⟩
  | true =>
    exact ⟨_, _, rfl, .inl (by decide), fun _ => congrArg some (readWord_append ['r', 'u', 'e'] _)⟩
  | false =>
    exact ⟨_, _, rfl, .inl (by decide),
      fun _ => congrArg some (readWord_append ['a', 'l', 's', 'e'] _)⟩
  | string body =>
    refine ⟨_, _, rfl, .inl (by decide), fun {rest} _ => ?_⟩
    have skipped := skipString_stringBody body rest
    rw [List.append_assoc]
    exact congrArg some skipped
  | number num =>
    obtain @⟨minus, i, f, e, sign, hi, hf, he⟩ := num
    have skipped : ∀ {rest}, Ends rest → skipNumber (i ++ (f ++ e) ++ rest) = .ok rest := by
      intro rest hr
      rw [List.append_assoc, List.append_assoc]
      exact skipNumber_integer hi hf he hr
    simp only [List.mem_cons, List.not_mem_nil, or_false] at sign
    rcases sign with rfl | rfl
    · obtain ⟨c, cs, rfl, digit⟩ := hi.exists_cons
      refine ⟨c, _, rfl, .inr digit, fun hr => ?_⟩
      rw [skipScalar_digit digit]
      exact congrArg some (skipped hr)
    · exact ⟨'-', _, rfl, .inl (by decide), fun hr => congrArg some (skipped hr)⟩

/-! ### One step of skipping -/

section Steps
variable {frames : List Frame} {f : Frame} {c : Char} {text cs : List Char}

theorem skip_opening (h : skipBlanks text = c :: cs) (ho : opens c = some f) :
    skip .value frames text = skip .first (f :: frames) cs := by
  conv => lhs; rw [skip]
  split
  · next he => rw [h] at he; cases he
  · next he =>
    rw [h] at he
    cases he
    rw [ho]

theorem skip_scalar (h : skipBlanks text = c :: cs) (ho : opens c = none)
    (hs : skipScalar c cs = some (.ok rest)) :
    skip .value frames text = skip .next frames rest := by
  conv => lhs; rw [skip]
  split
  · next he => rw [h] at he; cases he
  · next he =>
    rw [h] at he
    cases he
    rw [ho]
    dsimp only
    split
    · next hn => rw [hs] at hn; cases hn
    · next hn => rw [hs] at hn; cases hn
    · next hn => rw [hs] at hn; cases hn; rfl

theorem skip_key (h : skipKey f text = .ok rest) :
    skip .element (f :: frames) text = skip .value (f :: frames) rest := by
  conv => lhs; rw [skip]
  split
  · next he => rw [h] at he; cases he
  · next he => rw [h] at he; cases he; rfl

theorem skip_first (h : skipBlanks text = c :: cs) :
    skip .first (f :: frames) text
      = if c = f.close then skip .next frames cs else skip .element (f :: frames) (c :: cs) := by
  conv => lhs; rw [skip]
  split
  · next he => rw [h] at he; cases he
  · next he => rw [h] at he; cases he; rfl

theorem skip_next (h : skipBlanks text = c :: cs) :
    skip .next (f :: frames) text
      = if c = ',' then skip .element (f :: frames) cs
        else if c = f.close then skip .next frames cs
        else .error (.ahead f.unparted (c :: cs)) := by
  conv => lhs; rw [skip]
  split
  · next he => rw [h] at he; cases he
  · next he => rw [h] at he; cases he; rfl

end Steps

/-! ### Whole values -/

theorem Frame.isBlank_opening (f : Frame) : isBlank f.opening = false := by cases f <;> decide

theorem Frame.isBlank_close (f : Frame) : isBlank f.close = false := by cases f <;> decide

theorem Frame.close_ne_comma (f : Frame) : f.close ≠ ',' := by cases f <;> decide

theorem Frame.opens_opening (f : Frame) : opens f.opening = some f := by cases f <;> decide

theorem Frame.ends_close (f : Frame) (rest : List Char) : Ends (f.close :: rest) := by
  cases f with
  | list => exact .inr (.inr (.inl rfl))
  | object => exact .inr (.inl rfl)

theorem readColon_append {a : List Char} (ha : AllBlank a) (rest : List Char) :
    readColon (a ++ ':' :: rest) = .ok rest := by
  rw [readColon, skipBlanks_append_cons ha (by decide)]
  exact if_pos rfl

/-- What stands in front of a value is passed over up to some blanks. -/
theorem skipKey_labels {f : Frame} {k lead : List Char} (h : Labels f k) (hl : AllBlank lead)
    (rest : List Char) : ∃ b, AllBlank b ∧ skipKey f (lead ++ (k ++ rest)) = .ok (b ++ rest) := by
  cases h with
  | list => exact ⟨lead, hl, rfl⟩
  | @object t a b body ha hb =>
    refine ⟨b, hb, ?_⟩
    have string := skipString_stringBody body (a ++ ':' :: (b ++ rest))
    simp only [List.cons_append, List.append_assoc]
    rw [skipKey, skipBlanks_append_cons hl (by decide)]
    dsimp only
    rw [if_pos rfl, string]
    exact readColon_append ha (b ++ rest)

/-- A character with which no text of the kind begins. -/
def Kind.ending : Kind → Char
  | .value => ']'
  | .elements f => f.close

/-- What stands between brackets or braces cannot be taken for their end. -/
theorem IsText.exists_cons {kind : Kind} {t : List Char} (h : IsText kind t) :
    ∃ c cs, t = c :: cs ∧ isBlank c = false ∧ c ≠ kind.ending := by
  have labelled : ∀ {f k v more}, Labels f k →
      (∃ c cs, v = c :: cs ∧ isBlank c = false ∧ c ≠ Kind.value.ending) →
      ∃ c cs, k ++ (v ++ more) = c :: cs ∧ isBlank c = false ∧ c ≠ (Kind.elements f).ending := by
    rintro f k v more hk ⟨c, cs, rfl, blank, other⟩
    cases hk with
    | list => exact ⟨c, _, rfl, blank, other⟩
    | object _ _ _ => exact ⟨'"', _, rfl, by decide, by decide⟩
  induction h with
  | scalar hs =>
    obtain ⟨c, cs, rfl, start, -⟩ := skipScalar_isScalar hs
    obtain ⟨-, blank, other⟩ := opens_of_startsScalar start
    exact ⟨c, cs, rfl, blank, other⟩
  | @empty f _ _ => exact ⟨f.opening, _, rfl, f.isBlank_opening, by cases f <;> decide⟩
  | @filled f _ _ _ _ _ => exact ⟨f.opening, _, rfl, f.isBlank_opening, by cases f <;> decide⟩
  | last hk _ _ ih => exact labelled hk ih
  | more hk _ _ _ _ ih _ => exact labelled hk ih

/-- The text is passed over and nothing else, whatever is open around it. -/
def Kind.Passed : Kind → List Char → Prop
  | .value, t => ∀ frames lead rest, AllBlank lead → Ends rest →
    skip .value frames (lead ++ (t ++ rest)) = skip .next frames rest
  | .elements f, t => ∀ frames lead rest, AllBlank lead →
    skip .element (f :: frames) (lead ++ (t ++ f.close :: rest)) = skip .next frames rest

/-- **Every text of the grammar is passed over**, by induction on the grammar. -/
theorem IsText.passed {kind : Kind} {t : List Char} (h : IsText kind t) : kind.Passed t := by
  induction h with
  | scalar hs =>
    intro frames lead rest hl hr
    obtain ⟨c, cs, rfl, start, skipped⟩ := skipScalar_isScalar hs
    obtain ⟨nothing, blank, -⟩ := opens_of_startsScalar start
    exact skip_scalar (skipBlanks_append_cons hl blank _) nothing (skipped hr)
  | @empty f a ha =>
    intro frames lead rest hl _
    have inside : skipBlanks (a ++ [f.close] ++ rest) = f.close :: rest := by
      rw [List.append_assoc]
      exact skipBlanks_append_cons ha f.isBlank_close rest
    rw [List.cons_append, skip_opening (skipBlanks_append_cons hl f.isBlank_opening _)
      f.opens_opening, skip_first inside, if_pos rfl]
  | @filled f a t ha ht ih =>
    intro frames lead rest hl _
    obtain ⟨c, cs, rfl, blank, other⟩ := ht.exists_cons
    have not_closed : c ≠ f.close := other
    have inside : skipBlanks (a ++ (c :: cs ++ [f.close]) ++ rest)
        = c :: (cs ++ f.close :: rest) := by
      simp only [List.append_assoc, List.cons_append, List.nil_append]
      exact skipBlanks_append_cons ha blank _
    rw [List.cons_append, skip_opening (skipBlanks_append_cons hl f.isBlank_opening _)
      f.opens_opening, skip_first inside, if_neg not_closed]
    exact ih frames [] rest allBlank_nil
  | @last f k v a hk _ ha ih =>
    intro frames lead rest hl
    obtain ⟨b, hb, key⟩ := skipKey_labels hk hl (v ++ (a ++ f.close :: rest))
    simp only [List.append_assoc]
    rw [skip_key key, ih (f :: frames) b _ hb (ends_append ha (f.ends_close rest)),
      skip_next (skipBlanks_append_cons ha f.isBlank_close rest), if_neg f.close_ne_comma,
      if_pos rfl]
  | @more f k v a b t hk _ ha hb _ ih ih_more =>
    intro frames lead rest hl
    obtain ⟨d, hd, key⟩ := skipKey_labels hk hl (v ++ (a ++ ',' :: (b ++ (t ++ f.close :: rest))))
    simp only [List.append_assoc, List.cons_append]
    rw [skip_key key, ih (f :: frames) d _ hd (ends_append ha (ends_comma _)),
      skip_next (skipBlanks_append_cons ha (by decide) _), if_pos rfl]
    exact ih_more frames b rest hb

/-- **One value is passed over**, and reading goes on behind it. -/
theorem skipValue_isValue {v lead : List Char} (h : IsValue v) (hl : AllBlank lead)
    {rest : List Char} (hr : Ends rest) : skipValue (lead ++ (v ++ rest)) = .ok rest := by
  rw [skipValue, h.passed [] lead rest hl hr, skip]

end ArtifactFetch.Json
