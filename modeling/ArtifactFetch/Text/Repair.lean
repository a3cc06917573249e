/-! # Repairing UTF-8

Bytes that are meant as UTF-8 but are not are repaired: whatever does not belong to a character is
replaced by the replacement character, one for each longest stretch of bytes that begins like a
character and breaks off. -/

namespace ArtifactFetch.Text

/-- What has to follow the first byte of a character. -/
structure Sequel where
  /-- How many bytes follow. -/
  count : Nat
  /-- The range of the first of them. All others are between `0x80` and `0xbf`. -/
  low : UInt8
  high : UInt8
  deriving DecidableEq, Repr

/-- What has to follow a byte; nothing if no character begins with it. -/
def Sequel.of? (lead : UInt8) : Option Sequel :=
  if lead < 0x80 then some ⟨0, 0x80, 0xbf⟩
  else if lead < 0xc2 then none
  else if lead < 0xe0 then some ⟨1, 0x80, 0xbf⟩
  else if lead = 0xe0 then some ⟨2, 0xa0, 0xbf⟩
  else if lead = 0xed then some ⟨2, 0x80, 0x9f⟩
  else if lead < 0xf0 then some ⟨2, 0x80, 0xbf⟩
  else if lead = 0xf0 then some ⟨3, 0x90, 0xbf⟩
  else if lead < 0xf4 then some ⟨3, 0x80, 0xbf⟩
  else if lead = 0xf4 then some ⟨3, 0x80, 0x8f⟩
  else none

/-- How many of the bytes are such a sequel, at most as many as it has. -/
def Sequel.fitting (s : Sequel) : List UInt8 → Nat
  | [] => 0
  | b :: bytes =>
    if s.count = 0 then 0
    else if s.low ≤ b ∧ b ≤ s.high then
      1 + ((bytes.take (s.count - 1)).takeWhile fun b => 0x80 ≤ b && b ≤ 0xbf).length
    else 0

/-- The replacement character. -/
def replacement : List UInt8 := [0xef, 0xbf, 0xbd]

/-- The bytes with everything replaced that is no UTF-8. -/
def repair : List UInt8 → List UInt8
  | [] => []
  | lead :: bytes =>
    match Sequel.of? lead with
    | none => replacement ++ repair bytes
    | some s =>
      let n := s.fitting bytes
      (if n = s.count then lead :: bytes.take n else replacement) ++ repair (bytes.drop n)
termination_by bytes => bytes.length
decreasing_by
  all_goals simp only [List.length_cons, List.length_drop]; omega

end ArtifactFetch.Text
