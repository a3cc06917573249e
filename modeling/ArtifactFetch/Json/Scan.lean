import ArtifactFetch.Json.Fault

/-! # The smallest parts of a JSON text

Blanks, the three words, and strings. A reader takes the text that is left and gives its value with
the text after it, or a fault. Strings are read between their quotes (`readString`) or skipped
(`skipString`); skipping checks the escape letters and that four hexadecimal digits follow `\u`, but
not what characters the digits stand for. -/

namespace ArtifactFetch.Json

/-- A value and the text after it. -/
abbrev Reader (α : Type) := List Char → Except Fault (α × List Char)

/-- The characters that may stand between tokens. -/
def isBlank (c : Char) : Bool := c == ' ' || c == '\n' || c == '\t' || c == '\r'

/-- The text from the next token on. -/
def skipBlanks (text : List Char) : List Char := text.dropWhile isBlank

theorem length_skipBlanks_le (text : List Char) : (skipBlanks text).length ≤ text.length :=
  (List.dropWhile_sublist _).length_le

theorem length_lt_of_skipBlanks_eq {text cs : List Char} {c : Char}
    (h : skipBlanks text = c :: cs) : cs.length < text.length := by
  have := length_skipBlanks_le text
  rw [h, List.length_cons] at this
  exact this

/-- The rest of a word whose first letter decided what it has to be. -/
def readWord : List Char → List Char → Except Fault (List Char)
  | [], text => .ok text
  | _ :: _, [] => .error (.behind .endInValue [])
  | w :: ws, c :: cs => if c = w then readWord ws cs else .error (.ahead .expectedWord (c :: cs))

theorem length_le_of_readWord {w text rest : List Char} (h : readWord w text = .ok rest) :
    rest.length ≤ text.length := by
  induction w generalizing text with
  | nil => cases h; exact Nat.le_refl _
  | cons w ws ih =>
    cases text with
    | nil => cases h
    | cons c cs =>
      unfold readWord at h
      split at h
      · exact Nat.le_succ_of_le (ih h)
      · cases h

/-! ### Escapes -/

/-- The value of a hexadecimal digit. -/
def hexValue (c : Char) : Option Nat :=
  if '0' ≤ c ∧ c ≤ '9' then some (c.toNat - '0'.toNat)
  else if 'a' ≤ c ∧ c ≤ 'f' then some (c.toNat - 'a'.toNat + 10)
  else if 'A' ≤ c ∧ c ≤ 'F' then some (c.toNat - 'A'.toNat + 10)
  else none

/-- The number of bytes of a text. -/
def byteLength (text : List Char) : Nat := text.foldl (fun n c => n + c.utf8Size) 0

/-- What is wrong where four hexadecimal digits should be: the text ends, or four bytes are not. -/
def badHex (text : List Char) : Fault :=
  if byteLength (text.take 4) < 4 then .behind .endInString [] else ⟨.badEscape, text, 4⟩

/-- The value of four hexadecimal digits. -/
def hexValue4 (p q r s : Char) : Option Nat := do
  let a ← hexValue p
  let b ← hexValue q
  let c ← hexValue r
  let d ← hexValue s
  pure (((a * 16 + b) * 16 + c) * 16 + d)

/-- Four bytes that have to be hexadecimal digits. -/
def readHex : List Char → Except Fault (Nat × List Char)
  | p :: q :: r :: s :: rest =>
    match hexValue4 p q r s with
    | some n => .ok (n, rest)
    | none => .error (badHex (p :: q :: r :: s :: rest))
  | text => .error (badHex text)

/-- The first half of a surrogate pair. -/
def isLead (n : Nat) : Bool := 0xd800 ≤ n && n ≤ 0xdbff

/-- The second half of a surrogate pair. -/
def isTrail (n : Nat) : Bool := 0xdc00 ≤ n && n ≤ 0xdfff

/-- The character that a surrogate pair stands for. -/
def joinSurrogates (lead trail : Nat) : Char :=
  Char.ofNat ((lead - 0xd800) * 0x400 + (trail - 0xdc00) + 0x10000)

/-- The digits after the first half of a surrogate pair, which need a `\u` of their own. -/
def readSecond (text : List Char) : Except Fault (Nat × List Char) :=
  match text with
  | [] => .error (.behind .endInString [])
  | c :: cs =>
    if c = '\\' then
      match cs with
      | [] => .error (.behind .endInString [])
      | d :: ds => if d = 'u' then readHex ds else .error (.ahead .endOfHexEscape (d :: ds))
    else .error (.ahead .endOfHexEscape (c :: cs))

/-- The character after `\u`: one group of four digits, or two that form a surrogate pair. -/
def readUnicode (text : List Char) : Except Fault (Char × List Char) :=
  match readHex text with
  | .error f => .error f
  | .ok (n, rest) =>
    if isTrail n then .error (.behind .loneSurrogate rest)
    else if isLead n then
      match readSecond rest with
      | .error f => .error f
      | .ok (m, rest) =>
        if isTrail m then .ok (joinSurrogates n m, rest)
        else .error (.behind .loneSurrogate rest)
    else .ok (Char.ofNat n, rest)

/-- The character that a letter after a backslash stands for. -/
def escaped (c : Char) : Option Char :=
  if c = '"' then some '"'
  else if c = '\\' then some '\\'
  else if c = '/' then some '/'
  else if c = 'b' then some '\x08'
  else if c = 'f' then some '\x0c'
  else if c = 'n' then some '\n'
  else if c = 'r' then some '\r'
  else if c = 't' then some '\t'
  else none

/-- The character after a backslash. -/
def readEscape : List Char → Except Fault (Char × List Char)
  | [] => .error (.behind .endInString [])
  | c :: cs =>
    match escaped c with
    | some d => .ok (d, cs)
    | none => if c = 'u' then readUnicode cs else .error (.ahead .badEscape (c :: cs))

/-- Passes over the rest of an escape. -/
def skipEscape : List Char → Except Fault (List Char)
  | [] => .error (.behind .endInString [])
  | c :: cs =>
    if (escaped c).isSome then .ok cs
    else if c = 'u' then (readHex cs).map (·.2)
    else .error (.ahead .badEscape (c :: cs))

theorem length_le_of_readHex {text rest : List Char} {n : Nat} (h : readHex text = .ok (n, rest)) :
    rest.length ≤ text.length := by
  unfold readHex at h
  split at h
  · split at h
    · cases h; simp only [List.length_cons]; omega
    · cases h
  · cases h

theorem length_le_of_readSecond {text rest : List Char} {n : Nat}
    (h : readSecond text = .ok (n, rest)) : rest.length ≤ text.length := by
  unfold readSecond at h
  split at h
  · cases h
  · split at h
    · split at h
      · cases h
      · split at h
        · have := length_le_of_readHex h
          simp only [List.length_cons]; omega
        · cases h
    · cases h

theorem length_le_of_readUnicode {text rest : List Char} {c : Char}
    (h : readUnicode text = .ok (c, rest)) : rest.length ≤ text.length := by
  unfold readUnicode at h
  split at h
  · cases h
  · next hr =>
    have hr := length_le_of_readHex hr
    split at h
    · cases h
    · split at h
      · split at h
        · cases h
        · next hm =>
          have hm := length_le_of_readSecond hm
          split at h
          · simp only [Except.ok.injEq, Prod.mk.injEq] at h
            exact h.2 ▸ Nat.le_trans hm hr
          · cases h
      · simp only [Except.ok.injEq, Prod.mk.injEq] at h
        exact h.2 ▸ hr

theorem length_lt_of_readEscape {text rest : List Char} {c : Char}
    (h : readEscape text = .ok (c, rest)) : rest.length < text.length := by
  unfold readEscape at h
  split at h
  · cases h
  · split at h
    · cases h; exact Nat.lt_succ_self _
    · split at h
      · exact Nat.lt_succ_of_le (length_le_of_readUnicode h)
      · cases h

theorem length_lt_of_skipEscape {text rest : List Char} (h : skipEscape text = .ok rest) :
    rest.length < text.length := by
  unfold skipEscape at h
  split at h
  · cases h
  · split at h
    · cases h; exact Nat.lt_succ_self _
    · split at h
      · next c cs _ _ =>
        cases hx : readHex cs with
        | error f => rw [hx] at h; cases h
        | ok r =>
          rw [hx] at h; cases h
          exact Nat.lt_succ_of_le (length_le_of_readHex (n := r.1) hx)
      · cases h

/-! ### Strings -/

/-- A character that may not stand in a string. -/
def isControl (c : Char) : Bool := c.toNat < 0x20

/-- The characters up to the closing quote, behind those of `read`, which come last one first. -/
def readChars (read : List Char) (text : List Char) : Except Fault (List Char × List Char) :=
  match text with
  | [] => .error (.behind .endInString [])
  | c :: cs =>
    if c = '"' then .ok (read.reverse, cs)
    else if c = '\\' then
      match h : readEscape cs with
      | .error f => .error f
      | .ok (d, rest) =>
        have := length_lt_of_readEscape h
        readChars (d :: read) rest
    else if isControl c then .error (.ahead .controlCharacter (c :: cs))
    else readChars (c :: read) cs
termination_by text.length

/-- The string whose opening quote was read. -/
def readString (text : List Char) : Except Fault (String × List Char) :=
  match readChars [] text with
  | .ok (cs, rest) => .ok (String.ofList cs, rest)
  | .error f => .error f

/-- Passes over a string whose opening quote was read. A control character is reported before it. -/
def skipString (text : List Char) : Except Fault (List Char) :=
  match text with
  | [] => .error (.behind .endInString [])
  | c :: cs =>
    if c = '"' then .ok cs
    else if c = '\\' then
      match h : skipEscape cs with
      | .error f => .error f
      | .ok rest =>
        have := length_lt_of_skipEscape h
        skipString rest
    else if isControl c then .error (.behind .controlCharacter (c :: cs))
    else skipString cs
termination_by text.length

theorem length_lt_of_skipString {text rest : List Char} (h : skipString text = .ok rest) :
    rest.length < text.length := by
  fun_induction skipString text with
  | case1 => cases h
  | case2 => cases h; exact Nat.lt_succ_self _
  | case3 => cases h
  | case4 => next hlt ih => have := ih h; simp only [List.length_cons]; omega
  | case5 => cases h
  | case6 => next ih => have := ih h; simp only [List.length_cons]; omega

end ArtifactFetch.Json
