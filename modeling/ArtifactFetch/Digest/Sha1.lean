/-! # SHA-1

The digest of a sequence of bytes, absorbed one byte at a time: every sixty-fourth byte completes a
block, which is mixed into the five words of the state. At the end the message is closed by a one
bit, zeros up to eight bytes short of a block, and its length in bits. Since a chunk is absorbed
byte by byte, the digest cannot depend on how the message was cut into chunks. -/

namespace ArtifactFetch.Sha1

/-- The five words that a block is mixed into. -/
structure Words where
  a : UInt32
  b : UInt32
  c : UInt32
  d : UInt32
  e : UInt32
  deriving DecidableEq, Repr

/-- The words before the first block. -/
def initial : Words := ⟨0x67452301, 0xefcdab89, 0x98badcfe, 0x10325476, 0xc3d2e1f0⟩

/-- `x` turned left by `n` places. -/
def rotate (x : UInt32) (n : UInt32) : UInt32 := (x <<< n) ||| (x >>> (32 - n))

/-- The round function and constant of round `t`. -/
def roundWord (t : Nat) (w : Words) : UInt32 :=
  if t < 20 then ((w.b &&& w.c) ||| (~~~w.b &&& w.d)) + 0x5a827999
  else if t < 40 then (w.b ^^^ w.c ^^^ w.d) + 0x6ed9eba1
  else if t < 60 then ((w.b &&& w.c) ||| (w.b &&& w.d) ||| (w.c &&& w.d)) + 0x8f1bbcdc
  else (w.b ^^^ w.c ^^^ w.d) + 0xca62c1d6

/-- One round with the schedule word `x`. -/
def round (t : Nat) (w : Words) (x : UInt32) : Words :=
  ⟨rotate w.a 5 + roundWord t w + w.e + x, w.a, rotate w.b 30, w.c, w.d⟩

/-- The schedule word that follows sixteen others, oldest first. -/
def nextWord (window : List UInt32) : UInt32 :=
  rotate (window.getD 13 0 ^^^ window.getD 8 0 ^^^ window.getD 2 0 ^^^ window.getD 0 0) 1

/-- Rounds `t`, `t + 1`, …, `n` of them, over a window of sixteen schedule words. -/
def rounds : Nat → Nat → List UInt32 → Words → Words
  | 0, _, _, w => w
  | n + 1, t, window, w =>
    rounds n (t + 1) (window.drop 1 ++ [nextWord window]) (round t w (window.getD 0 0))

/-- A block read as big-endian words. -/
def wordsOf : List UInt8 → List UInt32
  | p :: q :: r :: s :: rest =>
    ((p.toUInt32 <<< 24) ||| (q.toUInt32 <<< 16) ||| (r.toUInt32 <<< 8) ||| s.toUInt32) ::
      wordsOf rest
  | _ => []

/-- The state after a whole block. -/
def mix (w : Words) (block : List UInt8) : Words :=
  let v := rounds 80 0 (wordsOf block) w
  ⟨w.a + v.a, w.b + v.b, w.c + v.c, w.d + v.d, w.e + v.e⟩

/-- A digest in the making: the words so far, the bytes of the block begun (last one first), how
many they are, and how many bytes were absorbed in all. -/
structure Hasher where
  words : Words
  pending : List UInt8
  filled : Nat
  length : Nat
  deriving DecidableEq, Repr

namespace Hasher

/-- Nothing absorbed yet. -/
def empty : Hasher := ⟨initial, [], 0, 0⟩

/-- One byte more. -/
def absorb (h : Hasher) (x : UInt8) : Hasher :=
  if h.filled = 63 then ⟨mix h.words (x :: h.pending).reverse, [], 0, h.length + 1⟩
  else ⟨h.words, x :: h.pending, h.filled + 1, h.length + 1⟩

/-- A chunk more. -/
def update (h : Hasher) (chunk : List UInt8) : Hasher := chunk.foldl absorb h

/-- What closes a message of `n` bytes. -/
def closing (n : Nat) : List UInt8 :=
  (0x80 : UInt8) :: List.replicate ((119 - n % 64) % 64) (0 : UInt8)
    ++ (List.range 8).map fun i => UInt8.ofNat ((n * 8) >>> (8 * (7 - i)))

/-- The words after the message is closed. -/
def close (h : Hasher) : Words := (h.update (closing h.length)).words

theorem update_append (h : Hasher) (xs ys : List UInt8) :
    h.update (xs ++ ys) = (h.update xs).update ys :=
  List.foldl_append

end Hasher

/-- A word in eight lower-case hexadecimal digits. -/
def hexWord (w : UInt32) : List Char :=
  (List.range 8).map fun i => Nat.digitChar (w.toNat >>> (4 * (7 - i)) % 16)

/-- The digest in forty lower-case hexadecimal digits. -/
def text (w : Words) : String :=
  String.ofList ([w.a, w.b, w.c, w.d, w.e].flatMap hexWord)

/-- The digest of a whole message. -/
def digest (message : List UInt8) : String := text (Hasher.empty.update message).close

/-! ### Messages that are read piece by piece -/

/-- What is absorbed from a sequence of reads, of which the first empty one marks the end. -/
def Hasher.absorbReads (h : Hasher) : List (List UInt8) → Hasher
  | [] | [] :: _ => h
  | chunk :: reads => (h.update chunk).absorbReads reads

/-- The digest of a message that arrives in reads. -/
def digestOfReads (reads : List (List UInt8)) : String :=
  text (Hasher.empty.absorbReads reads).close

/-- A message cut into pieces of `size + 1` bytes and a rest. -/
def pieces (size : Nat) (message : List UInt8) : List (List UInt8) :=
  if h : message = [] then []
  else
    have : (message.drop (size + 1)).length < message.length := by
      have := List.length_pos_iff.2 h
      rw [List.length_drop]; omega
    message.take (size + 1) :: pieces size (message.drop (size + 1))
termination_by message.length

end ArtifactFetch.Sha1
