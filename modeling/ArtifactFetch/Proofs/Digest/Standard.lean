import ArtifactFetch.Digest.Sha1
import Mathlib.Algebra.GroupWithZero.Nat
import Mathlib.Data.List.Basic
import Mathlib.Tactic.SplitIfs

/-! # The standard digest

The digest of a message as a whole, in the terms in which SHA-1 is defined: the message is padded to
whole blocks (`padded`), each block gives a word for each of eighty rounds (`schedule`), the rounds
are gone through from the words so far, and their outcome is added to these (`compress`). A hasher,
which absorbs the message byte by byte, closes it by a formula of its own and keeps sixteen schedule
words at a time, gives the same digest of every message (`digest_eq_standard`). -/

namespace ArtifactFetch.Sha1

/-! ### The definition -/

namespace Standard

/-- How many zeros complete a block, behind a message of `n` bytes, the byte with the one bit and
before the eight bytes of the length. -/
def zeros (n : Nat) : Nat := (64 - (n + 1 + 8) % 64) % 64

/-- The last `count` bytes of a number, the highest first. -/
def bytesOf (count n : Nat) : List UInt8 :=
  (List.range count).map fun i => UInt8.ofNat (n / 256 ^ (count - 1 - i))

/-- The message, a one bit, zeros, and the length of the message in bits. -/
def padded (message : List UInt8) : List UInt8 :=
  message ++ 0x80 :: List.replicate (zeros message.length) 0 ++ bytesOf 8 (8 * message.length)

/-- The whole blocks of a padded message. -/
def blocks (bytes : List UInt8) : List (List UInt8) :=
  (List.range (bytes.length / 64)).map fun i => (bytes.drop (64 * i)).take 64

/-- Word `t` of a block. -/
def wordAt (block : List UInt8) (t : Nat) : UInt32 :=
  let byte := fun i => (block.getD (4 * t + i) 0).toNat
  UInt32.ofNat (((byte 0 * 256 + byte 1) * 256 + byte 2) * 256 + byte 3)

def turn (n : Nat) (x : UInt32) : UInt32 := ⟨x.toBitVec.rotateLeft n⟩

/-- The word that a block gives for round `t`. -/
def schedule (block : List UInt8) (t : Nat) : UInt32 :=
  if t < 16 then wordAt block t
  else turn 1 (schedule block (t - 3) ^^^ schedule block (t - 8) ^^^ schedule block (t - 14) ^^^
    schedule block (t - 16))

def choose (x y z : UInt32) : UInt32 := (x &&& y) ^^^ (~~~x &&& z)

def parity (x y z : UInt32) : UInt32 := x ^^^ y ^^^ z

def majority (x y z : UInt32) : UInt32 := (x &&& y) ^^^ (x &&& z) ^^^ (y &&& z)

/-- The function and the constant of round `t`. -/
def ofRound (t : Nat) : (UInt32 → UInt32 → UInt32 → UInt32) × UInt32 :=
  if t < 20 then (choose, 0x5a827999)
  else if t < 40 then (parity, 0x6ed9eba1)
  else if t < 60 then (majority, 0x8f1bbcdc)
  else (parity, 0xca62c1d6)

/-- Round `t`, where the rounds are given the words `x`. -/
def step (x : Nat → UInt32) (w : Words) (t : Nat) : Words where
  a := turn 5 w.a + (ofRound t).1 w.b w.c w.d + w.e + (ofRound t).2 + x t
  b := w.a
  c := turn 30 w.b
  d := w.c
  e := w.d

/-- The words after a block. -/
def compress (w : Words) (block : List UInt8) : Words :=
  let v := (List.range 80).foldl (step (schedule block)) w
  ⟨w.a + v.a, w.b + v.b, w.c + v.c, w.d + v.d, w.e + v.e⟩

/-- The digest of a message, twenty bytes. -/
def digest (message : List UInt8) : List UInt8 :=
  let w := (blocks (padded message)).foldl compress initial
  [w.a, w.b, w.c, w.d, w.e].flatMap fun x => bytesOf 4 x.toNat

/-- A byte in two lower-case hexadecimal digits. -/
def hexByte (x : UInt8) : List Char := [Nat.digitChar (x.toNat / 16), Nat.digitChar (x.toNat % 16)]

def hex (bytes : List UInt8) : String := String.ofList (bytes.flatMap hexByte)

end Standard

open Standard

/-! ### Padding and blocks -/

theorem length_bytesOf (count n : Nat) : (bytesOf count n).length = count := by
  simp [bytesOf]

theorem closing_eq (message : List UInt8) :
    message ++ Hasher.closing message.length = padded message := by
  have few : (119 - message.length % 64) % 64 = zeros message.length := by
    unfold zeros
    omega
  have bits : ∀ i, (message.length * 8) >>> (8 * (7 - i)) =
      8 * message.length / 256 ^ (8 - 1 - i) := fun i => by
    rw [Nat.shiftRight_eq_div_pow, Nat.pow_mul, Nat.mul_comm message.length]
  rw [Hasher.closing, padded, bytesOf, few]
  simp only [bits, List.append_assoc]

theorem length_padded (message : List UInt8) : (padded message).length % 64 = 0 := by
  simp only [padded, List.length_append, List.length_cons, List.length_replicate, length_bytesOf,
    zeros]
  omega

theorem flatten_blocks {bytes : List UInt8} (h : bytes.length % 64 = 0) :
    (blocks bytes).flatten = bytes := by
  have first : ∀ n, ((List.range n).map fun i => (bytes.drop (64 * i)).take 64).flatten =
      bytes.take (64 * n) := fun n => by
    induction n with
    | zero => rfl
    | succ n ih =>
      rw [List.range_succ, List.map_append, List.flatten_append, ih, Nat.mul_succ, List.take_add]
      simp
  rw [blocks, first]
  exact List.take_of_length_le (by omega)

theorem length_of_mem_blocks {bytes block : List UInt8} (h : block ∈ blocks bytes) :
    block.length = 64 := by
  obtain ⟨i, hi, rfl⟩ := List.mem_map.mp h
  rw [List.mem_range] at hi
  rw [List.length_take, List.length_drop]
  omega

/-! ### Absorbing whole blocks -/

namespace Hasher

theorem length_absorb (h : Hasher) (x : UInt8) : (h.absorb x).length = h.length + 1 := by
  unfold absorb
  split_ifs <;> rfl

theorem length_update (h : Hasher) (chunk : List UInt8) :
    (h.update chunk).length = h.length + chunk.length := by
  induction chunk generalizing h with
  | nil => rfl
  | cons x chunk ih =>
    show ((h.absorb x).update chunk).length = _
    rw [ih, length_absorb, List.length_cons]
    omega

/-- What does not complete a block is put aside. -/
theorem update_of_lt {h : Hasher} {chunk : List UInt8} (hlt : h.filled + chunk.length < 64) :
    h.update chunk = ⟨h.words, chunk.reverse ++ h.pending, h.filled + chunk.length,
      h.length + chunk.length⟩ := by
  induction chunk generalizing h with
  | nil => rfl
  | cons x chunk ih =>
    rw [List.length_cons] at hlt
    have put : h.absorb x = ⟨h.words, x :: h.pending, h.filled + 1, h.length + 1⟩ :=
      if_neg (by omega)
    show (h.absorb x).update chunk = _
    rw [put, ih (by show h.filled + 1 + chunk.length < 64; omega)]
    simp only [List.reverse_cons, List.append_assoc, List.singleton_append, List.length_cons,
      Nat.add_assoc, Nat.add_comm 1]

theorem update_block (w : Words) (n : Nat) {block : List UInt8} (hb : block.length = 64) :
    (⟨w, [], 0, n⟩ : Hasher).update block = ⟨mix w block, [], 0, n + 64⟩ := by
  obtain rfl | ⟨front, x, rfl⟩ := List.eq_nil_or_concat block
  · cases hb
  · rw [List.length_concat] at hb
    have first := @update_of_lt ⟨w, [], 0, n⟩ front (by show 0 + front.length < 64; omega)
    have full : 0 + front.length = 63 := by omega
    rw [List.concat_eq_append, update_append, first]
    show absorb _ x = _
    rw [absorb, if_pos full]
    simp only [List.append_nil, List.reverse_cons, List.reverse_reverse]
    congr 1
    omega

theorem update_blocks : ∀ (bs : List (List UInt8)) (w : Words) (n : Nat),
    (∀ b ∈ bs, b.length = 64) →
      (⟨w, [], 0, n⟩ : Hasher).update bs.flatten = ⟨bs.foldl mix w, [], 0, n + 64 * bs.length⟩
  | [], w, n, _ => rfl
  | b :: bs, w, n, hb => by
    rw [List.forall_mem_cons] at hb
    rw [List.flatten_cons, update_append, update_block w n hb.1, update_blocks bs _ _ hb.2,
      List.foldl_cons, List.length_cons]
    congr 1
    omega

end Hasher

/-! ### Words -/

theorem rotate_eq {n : Nat} (hpos : 0 < n) (hlt : n < 32) (x : UInt32) :
    rotate x (UInt32.ofNat n) = turn n x := by
  have left : ((UInt32.ofNat n).toBitVec % 32).toNat = n := by
    simp
    omega
  have right : ((32 - UInt32.ofNat n).toBitVec % 32).toNat = 32 - n := by
    simp
    omega
  refine UInt32.eq_of_toBitVec_eq ?_
  show _ = x.toBitVec.rotateLeft n
  rw [BitVec.rotateLeft_def, Nat.mod_eq_of_lt hlt, rotate, UInt32.toBitVec_or,
    UInt32.toBitVec_shiftLeft, UInt32.toBitVec_shiftRight, BitVec.shiftLeft_eq',
    BitVec.ushiftRight_eq', left, right]

/-- Two ways of choosing, and two of taking the majority, agree bit by bit. -/
theorem or_eq_choose (x y z : UInt32) : (x &&& y) ||| (~~~x &&& z) = choose x y z := by
  refine UInt32.eq_of_toBitVec_eq (BitVec.eq_of_getLsbD_eq fun i hi => ?_)
  simp only [choose, UInt32.toBitVec_or, UInt32.toBitVec_and, UInt32.toBitVec_xor,
    UInt32.toBitVec_not, BitVec.getLsbD_or, BitVec.getLsbD_and, BitVec.getLsbD_xor,
    BitVec.getLsbD_not, hi, decide_true, Bool.true_and]
  cases x.toBitVec.getLsbD i <;> simp

theorem or_eq_majority (x y z : UInt32) :
    (x &&& y) ||| (x &&& z) ||| (y &&& z) = majority x y z := by
  refine UInt32.eq_of_toBitVec_eq (BitVec.eq_of_getLsbD_eq fun i _ => ?_)
  simp only [majority, UInt32.toBitVec_or, UInt32.toBitVec_and, UInt32.toBitVec_xor,
    BitVec.getLsbD_or, BitVec.getLsbD_and, BitVec.getLsbD_xor]
  cases x.toBitVec.getLsbD i <;> cases y.toBitVec.getLsbD i <;> cases z.toBitVec.getLsbD i <;> rfl

theorem roundWord_eq (t : Nat) (w : Words) :
    roundWord t w = (ofRound t).1 w.b w.c w.d + (ofRound t).2 := by
  unfold roundWord ofRound
  split_ifs
  · rw [or_eq_choose]
  · rfl
  · rw [or_eq_majority]
  · rfl

theorem round_eq (x : Nat → UInt32) (t : Nat) (w : Words) : round t w (x t) = step x w t := by
  have turns : rotate w.a 5 = turn 5 w.a ∧ rotate w.b 30 = turn 30 w.b :=
    ⟨rotate_eq (by decide) (by decide) _, rotate_eq (by decide) (by decide) _⟩
  rw [round, step, turns.1, turns.2, roundWord_eq]
  congr 1
  ac_rfl

/-- Four bytes side by side make a number. -/
theorem or_eq_bytes {p q r s : Nat} (hq : q < 256) (hr : r < 256) (hs : s < 256) :
    2 ^ 24 * p ||| 2 ^ 16 * q ||| 2 ^ 8 * r ||| s = ((p * 256 + q) * 256 + r) * 256 + s := by
  have two : 2 ^ 24 * p + 2 ^ 16 * q = 2 ^ 16 * (2 ^ 8 * p + q) := by omega
  have three : 2 ^ 16 * (2 ^ 8 * p + q) + 2 ^ 8 * r = 2 ^ 8 * (2 ^ 8 * (2 ^ 8 * p + q) + r) := by
    omega
  rw [← @Nat.two_pow_add_eq_or_of_lt 24 _ (by omega), two,
    ← @Nat.two_pow_add_eq_or_of_lt 16 _ (by omega), three,
    ← @Nat.two_pow_add_eq_or_of_lt 8 _ (by omega)]
  omega

theorem or_eq_ofNat (p q r s : UInt8) :
    (p.toUInt32 <<< 24) ||| (q.toUInt32 <<< 16) ||| (r.toUInt32 <<< 8) ||| s.toUInt32 =
      UInt32.ofNat (((p.toNat * 256 + q.toNat) * 256 + r.toNat) * 256 + s.toNat) := by
  have shifted : ∀ (x : UInt8) {i : Nat}, i ≤ 24 → x.toNat <<< i % 2 ^ 32 = 2 ^ i * x.toNat :=
    fun x i hi => by
      have power : 2 ^ i ≤ 2 ^ 24 := Nat.pow_le_pow_right (by decide) hi
      have small := x.toNat_lt
      rw [Nat.shiftLeft_eq, Nat.mul_comm, Nat.mod_eq_of_lt]
      exact Nat.lt_of_le_of_lt (Nat.mul_le_mul_right _ power) (by omega)
  have hp := p.toNat_lt
  have hq := q.toNat_lt
  have hr := r.toNat_lt
  have hs := s.toNat_lt
  rw [← UInt32.toNat_inj, UInt32.toNat_ofNat_of_lt' (by show _ < 2 ^ 32; omega),
    ← or_eq_bytes hq hr hs, ← @shifted p 24 (by decide), ← @shifted q 16 (by decide),
    ← @shifted r 8 (by decide)]
  simp only [UInt32.toNat_or, UInt32.toNat_shiftLeft, UInt8.toNat_toUInt32]
  rfl

theorem wordsOf_eq : ∀ {n : Nat} {block : List UInt8}, block.length = 4 * n →
    wordsOf block = (List.range n).map (wordAt block)
  | 0, block, h => by
    rw [List.eq_nil_of_length_eq_zero h]
    rfl
  | n + 1, p :: q :: r :: s :: rest, h => by
    have later : rest.length = 4 * n := by simpa [Nat.mul_succ] using h
    have moved : ∀ t, wordAt (p :: q :: r :: s :: rest) (t + 1) = wordAt rest t := fun _ => rfl
    rw [wordsOf, or_eq_ofNat, wordsOf_eq later, List.range_succ_eq_map, List.map_cons, List.map_map]
    exact congrArg _ (List.map_congr_left fun t _ => (moved t).symm)
  | n + 1, [], h | n + 1, [_], h | n + 1, [_, _], h | n + 1, [_, _, _], h => by
    simp only [List.length_cons, List.length_nil] at h
    omega

/-! ### Rounds -/

theorem schedule_of_lt {block : List UInt8} {t : Nat} (h : t < 16) :
    schedule block t = wordAt block t := by
  rw [schedule, if_pos h]

theorem schedule_add (block : List UInt8) (t : Nat) : schedule block (t + 16) =
    turn 1 (schedule block (t + 13) ^^^ schedule block (t + 8) ^^^ schedule block (t + 2) ^^^
      schedule block t) := by
  rw [schedule, if_neg (by omega)]
  rfl

/-- The window of round `t` holds the words of this round and of the next fifteen. -/
theorem rounds_eq (block : List UInt8) : ∀ (n t : Nat) (w : Words),
    rounds n t ((List.range' t 16).map (schedule block)) w =
      (List.range' t n).foldl (step (schedule block)) w
  | 0, t, w => rfl
  | n + 1, t, w => by
    have next : nextWord ((List.range' t 16).map (schedule block)) = schedule block (t + 16) := by
      rw [schedule_add, ← rotate_eq (by decide) (by decide)]
      rfl
    have moved : ((List.range' t 16).map (schedule block)).drop 1 ++ [schedule block (t + 16)] =
        (List.range' (t + 1) 16).map (schedule block) := rfl
    have first : ((List.range' t 16).map (schedule block)).getD 0 0 = schedule block t := rfl
    rw [rounds, next, moved, first, rounds_eq block n (t + 1), round_eq, List.range'_succ,
      List.foldl_cons]

theorem mix_eq (w : Words) {block : List UInt8} (hb : block.length = 64) :
    mix w block = compress w block := by
  have window : wordsOf block = (List.range' 0 16).map (schedule block) := by
    rw [wordsOf_eq (n := 16) hb, ← List.range_eq_range']
    exact List.map_congr_left fun t ht => (schedule_of_lt (List.mem_range.mp ht)).symm
  rw [mix, window, rounds_eq, ← List.range_eq_range']
  rfl

/-! ### The digest -/

theorem bytesOf_succ (count n : Nat) :
    bytesOf (count + 1) n = UInt8.ofNat (n / 256 ^ count) :: bytesOf count n := by
  rw [bytesOf, List.range_succ_eq_map, List.map_cons, List.map_map]
  refine congrArg _ (List.map_congr_left fun i _ => ?_)
  show UInt8.ofNat (n / 256 ^ (count - (i + 1))) = UInt8.ofNat (n / 256 ^ (count - 1 - i))
  rw [Nat.sub_add_eq, Nat.sub_right_comm]

/-- A byte of a number has two of its hexadecimal digits. -/
theorem digits_of_byte (n k : Nat) :
    n >>> (4 * (2 * k + 1)) % 16 = (UInt8.ofNat (n / 256 ^ k)).toNat / 16 ∧
      n >>> (4 * (2 * k)) % 16 = (UInt8.ofNat (n / 256 ^ k)).toNat % 16 := by
  have power : 2 ^ (4 * (2 * k)) = 256 ^ k := by rw [← Nat.mul_assoc, Nat.pow_mul]
  have high : n >>> (4 * (2 * k + 1)) = n / 256 ^ k / 16 := by
    rw [Nat.shiftRight_eq_div_pow, Nat.mul_succ, Nat.pow_add, power, Nat.div_div_eq_div_mul]
  rw [high, Nat.shiftRight_eq_div_pow, power, UInt8.toNat_ofNat']
  omega

theorem digits_of_bytes (n : Nat) : ∀ count,
    (List.range (2 * count)).map (fun i => Nat.digitChar (n >>> (4 * (2 * count - 1 - i)) % 16)) =
      (bytesOf count n).flatMap hexByte
  | 0 => rfl
  | count + 1 => by
    have first : 2 * (count + 1) - 1 - 0 = 2 * count + 1 := by omega
    have second : 2 * (count + 1) - 1 - 1 = 2 * count := by omega
    have later : ∀ i, 2 * (count + 1) - 1 - (i + 1 + 1) = 2 * count - 1 - i := fun i => by omega
    rw [bytesOf_succ, List.flatMap_cons, ← digits_of_bytes n count, Nat.mul_succ,
      List.range_succ_eq_map, List.range_succ_eq_map]
    simp only [List.map_cons, List.map_map, Function.comp_def, Nat.succ_eq_add_one, ← Nat.mul_succ,
      first, second, later, Nat.zero_add, digits_of_byte, hexByte, List.cons_append,
      List.nil_append]

theorem foldl_blocks (bytes : List UInt8) (w : Words) :
    (blocks bytes).foldl mix w = (blocks bytes).foldl compress w :=
  List.foldl_ext _ _ _ fun v _ hb => mix_eq v (length_of_mem_blocks hb)

/-- **The digest of every message is the standard one.** -/
theorem digest_eq_standard (message : List UInt8) :
    Sha1.digest message = Standard.hex (Standard.digest message) := by
  have whole := Hasher.update_blocks (blocks (padded message)) initial 0
    fun _ => length_of_mem_blocks
  rw [flatten_blocks (length_padded message), foldl_blocks] at whole
  have length : (Hasher.empty.update message).length = message.length := by
    rw [Hasher.length_update]
    exact Nat.zero_add _
  rw [Sha1.digest, Hasher.close, length, ← Hasher.update_append, closing_eq, Hasher.empty, whole,
    text, Standard.hex, Standard.digest, List.flatMap_assoc]
  exact congrArg String.ofList (List.flatMap_congr fun x _ => digits_of_bytes x.toNat 4)

example : Standard.hex (Standard.digest "abc".toUTF8.toList) =
    "a9993e364706816aba3e25717850c26c9cd0d89d" := by
  rw [← digest_eq_standard]
  decide +kernel

end ArtifactFetch.Sha1
