import ArtifactFetch.Artifact
import ArtifactFetch.Proofs.Digest.Standard
import Mathlib.Data.Nat.Find

/-! # Contents that are read piece by piece

A content is read until a read brings nothing. Whatever the other reads bring at a time, they are
absorbed as the whole (`digestOfReads_eq`), and what would be read later does not matter. A reader
that goes on in the content and brings nothing only at its end gets there after as many reads as
there are bytes, at most (`Delivers.ends`), so the loop ends, with the digest of the content. -/

namespace ArtifactFetch

namespace Sha1

/-! ### Reads -/

theorem Hasher.absorbReads_append : ∀ {reads : List Bytes}, (∀ r ∈ reads, r ≠ []) →
    ∀ (h : Hasher) (later : List Bytes),
      h.absorbReads (reads ++ later) = (h.update reads.flatten).absorbReads later
  | [], _, h, later => rfl
  | [] :: reads, hr, h, later => absurd rfl (hr [] List.mem_cons_self)
  | (x :: r) :: reads, hr, h, later => by
    rw [List.forall_mem_cons] at hr
    rw [List.flatten_cons, update_append, List.cons_append, absorbReads, absorbReads_append hr.2]
    exact List.cons_ne_nil x r

/-- **However a message is divided into reads**, its digest is that of the whole. -/
theorem digestOfReads_eq {reads : List Bytes} (h : ∀ r ∈ reads, r ≠ []) (later : List Bytes) :
    digestOfReads (reads ++ [] :: later) = digest reads.flatten := by
  rw [digestOfReads, Hasher.absorbReads_append h]
  rfl

/-- The pieces are a division of the message. -/
theorem division_pieces (size : Nat) (message : Bytes) :
    (pieces size message).flatten = message ∧ ∀ r ∈ pieces size message, r ≠ [] := by
  fun_induction pieces size message with
  | case1 => exact ⟨rfl, fun _ h => absurd h List.not_mem_nil⟩
  | case2 message some_byte _ ih =>
    refine ⟨?_, List.forall_mem_cons.mpr ⟨?_, ih.2⟩⟩
    · rw [List.flatten_cons, ih.1, List.take_append_drop]
    · simpa using some_byte

/-! ### Readers -/

/-- What is left of a content before read `n`. -/
def left (content : Bytes) (reads : Nat → Bytes) : Nat → Bytes
  | 0 => content
  | n + 1 => (left content reads n).drop (reads n).length

/-- A reader that goes on in a content, and brings nothing only when nothing is left. -/
structure Delivers (content : Bytes) (reads : Nat → Bytes) : Prop where
  next : ∀ n, reads n <+: left content reads n
  stops : ∀ n, reads n = [] → left content reads n = []

namespace Delivers

variable {content : Bytes} {reads : Nat → Bytes} (h : Delivers content reads)
include h

theorem append_left (n : Nat) :
    ((List.range n).map reads).flatten ++ left content reads n = content := by
  induction n with
  | zero => rfl
  | succ n ih =>
    obtain ⟨rest, hrest⟩ := h.next n
    rw [List.range_succ, List.map_append, List.flatten_append, left, ← hrest, List.drop_left]
    rw [← hrest] at ih
    simpa using ih

/-- Every read that brings something leaves less. -/
theorem length_left {n : Nat} (hn : ∀ i < n, reads i ≠ []) :
    (left content reads n).length + n ≤ content.length := by
  induction n with
  | zero => exact Nat.le_refl _
  | succ n ih =>
    have before := ih fun i hi => hn i (Nat.lt_succ_of_lt hi)
    have some_byte := List.length_pos_iff.mpr (hn n (Nat.lt_succ_self n))
    have enough := (h.next n).length_le
    rw [left, List.length_drop]
    omega

/-- **A reader comes to the end** of the content. -/
theorem ends : ∃ n ≤ content.length, (∀ i < n, reads i ≠ []) ∧ reads n = [] := by
  have stop : ∃ n, reads n = [] := by
    by_contra hno
    have := h.length_left fun i (_ : i < content.length + 1) hi => hno ⟨i, hi⟩
    omega
  have first : ∀ i < Nat.find stop, reads i ≠ [] := fun i hi => Nat.find_min stop hi
  refine ⟨Nat.find stop, ?_, first, Nat.find_spec stop⟩
  have := h.length_left first
  omega

/-- **The loop over the reads** ends with the digest of the content. -/
theorem digestOfReads : ∃ n ≤ content.length, (∀ i < n, reads i ≠ []) ∧ reads n = [] ∧
    ∀ m, n < m → Sha1.digestOfReads ((List.range m).map reads) = digest content := by
  obtain ⟨n, hle, some_byte, stop⟩ := h.ends
  refine ⟨n, hle, some_byte, stop, fun m hm => ?_⟩
  have whole := h.append_left n
  rw [h.stops n stop, List.append_nil] at whole
  obtain ⟨later, rfl⟩ : ∃ later, m = n + (later + 1) := ⟨m - n - 1, by omega⟩
  rw [List.range_add, List.map_append, List.range_succ_eq_map]
  simp only [List.map_cons, Nat.add_zero, stop]
  rw [digestOfReads_eq, whole]
  simpa using some_byte

end Delivers

end Sha1

/-- The digest of a file is that of its content as a whole. -/
theorem Artifact.digestOf_eq (content : Bytes) :
    Artifact.digestOf content = Sha1.Standard.hex (Sha1.Standard.digest content) := by
  obtain ⟨whole, some_byte⟩ := Sha1.division_pieces (Artifact.readSize - 1) content
  rw [Artifact.digestOf, Sha1.digestOfReads_eq some_byte, whole, Sha1.digest_eq_standard]

end ArtifactFetch
