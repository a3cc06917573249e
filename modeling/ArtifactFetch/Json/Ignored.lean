import ArtifactFetch.Json.Number

/-! # Values that are passed over

A value that nobody asks for is passed over without being built, whatever is nested in it. The lists
and objects that are open are kept in a stack, innermost first, so nesting costs no depth of
recursion; `Awaited` says what has to come next. A comma always announces another element, so what a
reader of known values calls a trailing comma is a missing value or key here. -/

namespace ArtifactFetch.Json

/-- A list or an object that is open. -/
inductive Frame where
  | list
  | object
  deriving DecidableEq, Repr

namespace Frame

/-- The character that closes it. -/
def close : Frame → Char
  | .list => ']'
  | .object => '}'

/-- The fault of a text that ends inside. -/
def ending : Frame → Cause
  | .list => .endInList
  | .object => .endInObject

/-- The fault of anything but a comma or the end after an element. -/
def unparted : Frame → Cause
  | .list => .expectedCommaOrBracket
  | .object => .expectedCommaOrBrace

end Frame

/-- What has to come next. -/
inductive Awaited where
  /-- A value. -/
  | value
  /-- An element of the innermost open list or object, with its key. -/
  | element
  /-- The first element, or the end of what was just opened. -/
  | first
  /-- A comma or the end of what is open; nothing if all is closed. -/
  | next
  deriving DecidableEq, Repr

/-- The order in which what is awaited is settled without reading a character. -/
def Awaited.rank : Awaited → Nat
  | .value => 0
  | .element => 1
  | .first => 2
  | .next => 0

/-- A colon after blanks. -/
def readColon (text : List Char) : Except Fault (List Char) :=
  match skipBlanks text with
  | [] => .error (.ahead .endInObject [])
  | c :: cs => if c = ':' then .ok cs else .error (.ahead .expectedColon (c :: cs))

/-- The key and colon before an element of an object; elements of a list have none. -/
def skipKey : Frame → List Char → Except Fault (List Char)
  | .list, text => .ok text
  | .object, text =>
    match skipBlanks text with
    | [] => .error (.ahead .endInObject [])
    | c :: cs =>
      if c = '"' then
        match skipString cs with
        | .error f => .error f
        | .ok rest => readColon rest
      else .error (.ahead .keyNotString (c :: cs))

/-- A value that opens nothing, from its first character on; nothing if it is none. -/
def skipScalar (c : Char) (cs : List Char) : Option (Except Fault (List Char)) :=
  if c = 'n' then some (readWord ['u', 'l', 'l'] cs)
  else if c = 't' then some (readWord ['r', 'u', 'e'] cs)
  else if c = 'f' then some (readWord ['a', 'l', 's', 'e'] cs)
  else if c = '"' then some (skipString cs)
  else if c = '-' then some (skipNumber cs)
  else if c.isDigit then some (skipNumber (c :: cs))
  else none

/-- The frame that a character opens. -/
def opens (c : Char) : Option Frame :=
  if c = '[' then some .list else if c = '{' then some .object else none

theorem length_lt_of_readColon {text rest : List Char} (h : readColon text = .ok rest) :
    rest.length < text.length := by
  unfold readColon at h
  split at h
  · cases h
  · next hc =>
    have hs := length_lt_of_skipBlanks_eq hc
    split at h
    · cases h; exact hs
    · cases h

theorem length_le_of_skipKey {f : Frame} {text rest : List Char} (h : skipKey f text = .ok rest) :
    rest.length < text.length ∨ f = .list ∧ rest = text := by
  cases f with
  | list => cases h; exact Or.inr ⟨rfl, rfl⟩
  | object =>
    left
    simp only [skipKey] at h
    split at h
    · cases h
    · next hc =>
      have hs := length_lt_of_skipBlanks_eq hc
      split at h
      · split at h
        · cases h
        · next hk =>
          have := length_lt_of_skipString hk
          have := length_lt_of_readColon h
          omega
      · cases h

theorem length_le_of_skipScalar {c : Char} {cs rest : List Char}
    (h : skipScalar c cs = some (.ok rest)) : rest.length ≤ cs.length := by
  unfold skipScalar at h
  split at h
  · exact length_le_of_readWord (Option.some.inj h)
  · split at h
    · exact length_le_of_readWord (Option.some.inj h)
    · split at h
      · exact length_le_of_readWord (Option.some.inj h)
      · split at h
        · exact Nat.le_of_lt (length_lt_of_skipString (Option.some.inj h))
        · split at h
          · exact Nat.le_of_lt (length_lt_of_skipNumber (Option.some.inj h))
          · split at h
            · have := length_lt_of_skipNumber (Option.some.inj h)
              rw [List.length_cons] at this
              omega
            · cases h

/-- Passes over what is awaited and everything up to the end of the outermost open value. -/
def skip (awaited : Awaited) (frames : List Frame) (text : List Char) :
    Except Fault (List Char) :=
  match awaited, frames with
  | .value, frames =>
    match htext : skipBlanks text with
    | [] => .error (.ahead .endInValue [])
    | c :: cs =>
      have := length_lt_of_skipBlanks_eq htext
      match opens c with
      | some f => skip .first (f :: frames) cs
      | none =>
        match hscalar : skipScalar c cs with
        | none => .error (.ahead .expectedValue (c :: cs))
        | some (.error f) => .error f
        | some (.ok rest) =>
          have := length_le_of_skipScalar hscalar
          skip .next frames rest
  | .element, [] => .ok text
  | .element, f :: frames =>
    match hkey : skipKey f text with
    | .error f => .error f
    | .ok rest =>
      have := length_le_of_skipKey hkey
      skip .value (f :: frames) rest
  | .first, [] => .ok text
  | .first, f :: frames =>
    match htext : skipBlanks text with
    | [] => .error (.ahead f.ending [])
    | c :: cs =>
      have := length_lt_of_skipBlanks_eq htext
      if c = f.close then skip .next frames cs else skip .element (f :: frames) (c :: cs)
  | .next, [] => .ok text
  | .next, f :: frames =>
    match htext : skipBlanks text with
    | [] => .error (.ahead f.ending [])
    | c :: cs =>
      have := length_lt_of_skipBlanks_eq htext
      if c = ',' then skip .element (f :: frames) cs
      else if c = f.close then skip .next frames cs
      else .error (.ahead f.unparted (c :: cs))
termination_by 3 * text.length + awaited.rank
decreasing_by
  all_goals simp only [Awaited.rank]
  all_goals try simp only [List.length_cons] at *
  all_goals first
    | omega
    | (rcases this with _ | ⟨_, rfl⟩ <;> omega)

/-- Passes over one value. -/
def skipValue (text : List Char) : Except Fault (List Char) := skip .value [] text

end ArtifactFetch.Json
