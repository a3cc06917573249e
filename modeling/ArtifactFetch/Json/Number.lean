import ArtifactFetch.Json.Scan

/-! # Numbers

A number without fraction and exponent is a natural below `2 ^ 64` or a negative integer not below
`-2 ^ 63`; every other number is a double. The digits are gathered into one 64-bit significand for
as long as they fit, with a power of ten beside it; of the digits that do not fit, those before the
point raise the power and those after it are dropped. The double is the significand scaled by that
power. -/

namespace ArtifactFetch.Json

/-- A number as it was written. -/
inductive Number where
  | natural (n : Nat)
  | negative (n : Int)
  | float (negative : Bool) (magnitude : Decimal.Binary)
  deriving DecidableEq, Repr

/-- A number where something else was expected. -/
def Number.found : Number → Found
  | .natural n => .integer n
  | .negative n => .integer n
  | .float neg m => .float neg m

/-- The value of a decimal digit. -/
def digitValue (c : Char) : Nat := c.toNat - '0'.toNat

/-- What a significand has to stay below, the power of two with exponent 64. -/
def significandLimit : Nat := 0x10000000000000000

/-- Appends digits to a significand for as long as it stays below the limit, and gives the digits
left over. -/
def absorb (significand : Nat) : List Char → Nat × List Char
  | [] => (significand, [])
  | c :: cs =>
    let next := significand * 10 + digitValue c
    if next < significandLimit then absorb next cs else (significand, c :: cs)

/-! ### Scaling -/

/-- The greatest power of ten that is a double. -/
def greatestPower : Nat := 308

/-- `f · 10 ^ e`, if finite, rounded at every step. A power beyond the greatest one is taken in
several; three divisions by the greatest power bring every 64-bit significand to zero. -/
def scaleBy : Nat → Float → Int → Option Float
  | 0, f, _ => some f
  | n + 1, f, e =>
    if e.natAbs ≤ greatestPower then
      let power := Float.ofScientific 1 false e.natAbs
      if 0 ≤ e then
        let g := f * power
        if g.isInf then none else some g
      else some (f / power)
    else if f == 0 then some f
    else if 0 ≤ e then none
    else scaleBy n (f / Float.ofScientific 1 false greatestPower) (e + greatestPower)

/-- The double for `significand · 10 ^ power`; the rest of the text only places a fault. -/
def toDouble (negative : Bool) (significand : Nat) (power : Int) (rest : List Char) :
    Except Fault (Number × List Char) :=
  match scaleBy 4 (UInt64.ofNat significand).toFloat power with
  | some f => .ok (.float negative (.ofBits (f.toBits &&& 0x7fffffffffffffff).toNat), rest)
  | none => .error (.behind .numberOutOfRange rest)

/-! ### Reading -/

/-- The greatest exponent that is kept exactly. -/
def exponentLimit : Nat := 0x7fffffff

/-- The value of the digits at the start of a text and the text after them; nothing, with the text
after the digit at fault, if the value passes the limit. -/
def readPlaces (e : Nat) : List Char → Option Nat × List Char
  | [] => (some e, [])
  | c :: cs =>
    if c.isDigit then
      let next := e * 10 + digitValue c
      if exponentLimit < next then (none, cs) else readPlaces next cs
    else (some e, c :: cs)

/-- `e`, or the nearest number that 32 bits hold. -/
def clampExponent (e : Int) : Int := max (-0x80000000) (min e 0x7fffffff)

/-- The text after the sign that may stand before the digits of an exponent. -/
def dropSign (text : List Char) : List Char :=
  if text.head? == some '-' || text.head? == some '+' then text.drop 1 else text

/-- The exponent after its letter, and the double that it completes. -/
def readExponent (negative : Bool) (significand : Nat) (power : Int) (text : List Char) :
    Except Fault (Number × List Char) :=
  let down := text.head? == some '-'
  match dropSign text with
  | [] => .error (.behind .endInValue [])
  | c :: cs =>
    if !c.isDigit then .error (.ahead .badNumber (c :: cs))
    else match readPlaces (digitValue c) cs with
      | (some e, rest) =>
        let power := clampExponent (if down then power - e else power + e)
        toDouble negative significand power rest
      | (none, rest) =>
        if significand ≠ 0 ∧ !down then .error (.behind .numberOutOfRange rest)
        else .ok (.float negative (.ofBits 0), rest.dropWhile Char.isDigit)

/-- What follows the digits: an exponent, or the end of the number. -/
def readPower (negative : Bool) (significand : Nat) (power : Int) (text : List Char) :
    Except Fault (Number × List Char) :=
  match text with
  | 'e' :: cs | 'E' :: cs => readExponent negative significand power cs
  | _ => toDouble negative significand power text

/-- The fraction after its point. -/
def readFraction (negative : Bool) (significand : Nat) (power : Int) (text : List Char) :
    Except Fault (Number × List Char) :=
  let digits := text.takeWhile Char.isDigit
  let rest := text.dropWhile Char.isDigit
  match digits, rest with
  | [], [] => .error (.ahead .endInValue [])
  | [], c :: cs => .error (.ahead .badNumber (c :: cs))
  | _ :: _, _ =>
    let (significand, left) := absorb significand digits
    readPower negative significand (power - (digits.length - left.length : Nat)) rest

/-- The integer with the given magnitude, which is a double if its sign does not fit it. -/
def integer (negative : Bool) (magnitude : Nat) (rest : List Char) :
    Except Fault (Number × List Char) :=
  if !negative then .ok (.natural magnitude, rest)
  else if magnitude ≠ 0 ∧ magnitude ≤ 0x8000000000000000 then .ok (.negative (-magnitude), rest)
  else toDouble true magnitude 0 rest

/-- The number whose digits before the point are given. -/
def readAfterDigits (negative : Bool) (digits rest : List Char) :
    Except Fault (Number × List Char) :=
  let (significand, left) := absorb 0 digits
  match rest with
  | '.' :: cs => readFraction negative significand left.length cs
  | 'e' :: cs | 'E' :: cs => readExponent negative significand left.length cs
  | _ =>
    if left.isEmpty then integer negative significand rest
    else toDouble negative significand left.length rest

/-- The number whose minus sign, if any, was read. -/
def readNumber (negative : Bool) (text : List Char) : Except Fault (Number × List Char) :=
  match text with
  | [] => .error (.behind .endInValue [])
  | c :: cs =>
    if c = '0' then
      match cs with
      | d :: _ =>
        if d.isDigit then .error (.ahead .badNumber cs) else readAfterDigits negative ['0'] cs
      | [] => readAfterDigits negative ['0'] []
    else if c.isDigit then
      readAfterDigits negative (c :: cs.takeWhile Char.isDigit) (cs.dropWhile Char.isDigit)
    else .error (.ahead .badNumber (c :: cs))

/-! ### Skipping -/

/-- Passes over the digits of an exponent after its letter. -/
def skipExponent (text : List Char) : Except Fault (List Char) :=
  match dropSign text with
  | c :: cs =>
    if c.isDigit then .ok (cs.dropWhile Char.isDigit) else .error (.ahead .badNumber (c :: cs))
  | [] => .error (.behind .badNumber [])

/-- Passes over what follows the digits. -/
def skipPower (text : List Char) : Except Fault (List Char) :=
  match text with
  | 'e' :: cs | 'E' :: cs => skipExponent cs
  | _ => .ok text

/-- Passes over what follows the digits before the point. -/
def skipFraction (text : List Char) : Except Fault (List Char) :=
  match text with
  | '.' :: cs =>
    if (cs.takeWhile Char.isDigit).isEmpty then .error (.ahead .badNumber cs)
    else skipPower (cs.dropWhile Char.isDigit)
  | _ => skipPower text

/-- Passes over a number whose minus sign, if any, was read, whatever its size. -/
def skipNumber (text : List Char) : Except Fault (List Char) :=
  match text with
  | [] => .error (.behind .badNumber [])
  | c :: cs =>
    if c = '0' then
      if (cs.takeWhile Char.isDigit).isEmpty then skipFraction cs
      else .error (.ahead .badNumber cs)
    else if c.isDigit then skipFraction (cs.dropWhile Char.isDigit)
    else .error (.ahead .badNumber (c :: cs))

/-! ### Skipping consumes -/

theorem length_dropWhile_le (p : Char → Bool) (text : List Char) :
    (text.dropWhile p).length ≤ text.length :=
  (List.dropWhile_sublist p).length_le

theorem length_dropSign_le (text : List Char) : (dropSign text).length ≤ text.length := by
  unfold dropSign
  split
  · rw [List.length_drop]; omega
  · exact Nat.le_refl _

theorem length_le_of_skipExponent {text rest : List Char} (h : skipExponent text = .ok rest) :
    rest.length ≤ text.length := by
  unfold skipExponent at h
  have hs := length_dropSign_le text
  split at h
  · next c cs hc =>
    rw [hc, List.length_cons] at hs
    split at h
    · cases h
      have := length_dropWhile_le Char.isDigit cs
      omega
    · cases h
  · cases h

theorem length_le_of_skipPower {text rest : List Char} (h : skipPower text = .ok rest) :
    rest.length ≤ text.length := by
  unfold skipPower at h
  split at h
  · exact Nat.le_succ_of_le (length_le_of_skipExponent h)
  · exact Nat.le_succ_of_le (length_le_of_skipExponent h)
  · cases h; exact Nat.le_refl _

theorem length_le_of_skipFraction {text rest : List Char} (h : skipFraction text = .ok rest) :
    rest.length ≤ text.length := by
  unfold skipFraction at h
  split at h
  · split at h
    · cases h
    · next cs _ =>
      have := length_dropWhile_le Char.isDigit cs
      have := length_le_of_skipPower h
      simp only [List.length_cons]; omega
  · exact length_le_of_skipPower h

theorem length_lt_of_skipNumber {text rest : List Char} (h : skipNumber text = .ok rest) :
    rest.length < text.length := by
  unfold skipNumber at h
  split at h
  · cases h
  · next c cs =>
    split at h
    · split at h
      · exact Nat.lt_succ_of_le (length_le_of_skipFraction h)
      · cases h
    · split at h
      · have := length_dropWhile_le Char.isDigit cs
        have := length_le_of_skipFraction h
        simp only [List.length_cons]; omega
      · cases h

end ArtifactFetch.Json
