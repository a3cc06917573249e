import ArtifactFetch.Coordinate
import Mathlib.Data.List.Count

/-! # What the key of a coordinate tells of it

A key is the parts of its coordinate with colons between them, so it does not tell where a part ends
that has colons of its own: `g:a:b` is the key of three coordinates. Of two coordinates with one key
it decides the number of colons in their groups and in their artifact names (`eq_iff_key`). A
coordinate that has none there, as every one that was read from a text (`plain_of_parse`), is the
only one of its kind with its key (`eq_of_key`). -/

namespace ArtifactFetch

namespace Text

/-- Where a text is cut at one of its characters is decided by how many of these come before. -/
theorem cut_unique {x : Char} : ∀ {a a' b b' : List Char}, a.count x = a'.count x →
    a ++ x :: b = a' ++ x :: b' → a = a' ∧ b = b'
  | [], [], _, _, _, h => ⟨rfl, (List.cons.inj h).2⟩
  | [], y :: a', b, b', hc, h => by
    obtain ⟨rfl, -⟩ := List.cons.inj h
    simp at hc
  | y :: a, [], b, b', hc, h => by
    obtain ⟨rfl, -⟩ := List.cons.inj h
    simp at hc
  | y :: a, z :: a', b, b', hc, h => by
    obtain ⟨rfl, htail⟩ := List.cons.inj h
    rw [List.count_cons, List.count_cons, Nat.add_right_cancel_iff] at hc
    obtain ⟨rfl, rfl⟩ := cut_unique hc htail
    exact ⟨rfl, rfl⟩

end Text

namespace Coordinate

variable {c c' : Coordinate}

/-- The number of colons in a text. -/
def colons (s : String) : Nat := s.toList.count ':'

/-- Two coordinates have equally many colons in their groups and in their artifact names. -/
def CutAlike (c c' : Coordinate) : Prop :=
  colons c.group = colons c'.group ∧ colons c.artifact = colons c'.artifact

instance (c c' : Coordinate) : Decidable (c.CutAlike c') := inferInstanceAs (Decidable (_ ∧ _))

/-- Neither the group nor the artifact name has a colon. -/
def Plain (c : Coordinate) : Prop := colons c.group = 0 ∧ colons c.artifact = 0

instance (c : Coordinate) : Decidable c.Plain := inferInstanceAs (Decidable (_ ∧ _))

/-- What follows the group in a key. -/
def rest (c : Coordinate) : List Char :=
  match c.version with
  | some v => c.artifact.toList ++ ':' :: v.toList
  | none => c.artifact.toList

theorem toList_key (c : Coordinate) : c.key.toList = c.group.toList ++ ':' :: c.rest := by
  unfold key rest
  rcases c.version with _ | v <;> simp

/-- The artifact name and the version can be read off what follows the group. -/
theorem eq_of_rest (hr : c.rest = c'.rest) (ha : colons c.artifact = colons c'.artifact) :
    c.artifact = c'.artifact ∧ c.version = c'.version := by
  unfold rest at hr
  unfold colons at ha
  rcases hv : c.version with _ | v <;> rcases hv' : c'.version with _ | v' <;>
    rw [hv, hv'] at hr <;> dsimp only at hr
  · exact ⟨String.toList_inj.mp hr, rfl⟩
  · -- only one of them has the colon before the version
    rw [hr] at ha
    simp at ha
  · rw [← hr] at ha
    simp at ha
  · obtain ⟨hname, hversion⟩ := Text.cut_unique ha hr
    exact ⟨String.toList_inj.mp hname, congrArg some (String.toList_inj.mp hversion)⟩

/-- **Coordinates are told apart** by their keys and the numbers of colons in their parts. -/
theorem eq_iff_key : c = c' ↔ c.key = c'.key ∧ c.CutAlike c' := by
  constructor
  · rintro rfl
    exact ⟨rfl, rfl, rfl⟩
  · rintro ⟨hk, hg, ha⟩
    have hlist := congrArg String.toList hk
    rw [toList_key, toList_key] at hlist
    obtain ⟨hgroup, hrest⟩ := Text.cut_unique hg hlist
    obtain ⟨hname, hversion⟩ := eq_of_rest hrest ha
    cases c
    cases c'
    simp_all [String.toList_inj]

theorem Plain.cutAlike (h : c.Plain) (h' : c'.Plain) : c.CutAlike c' :=
  ⟨h.1.trans h'.1.symm, h.2.trans h'.2.symm⟩

/-- **The keys of coordinates without colons in group and name are unique.** -/
theorem eq_of_key (h : c.Plain) (h' : c'.Plain) (hk : c.key = c'.key) : c = c' :=
  eq_iff_key.mpr ⟨hk, h.cutAlike h'⟩

theorem colons_of_mem_split {s w : String} (hw : w ∈ Text.split (· == ':') s) : colons w = 0 := by
  refine List.count_eq_zero.mpr fun hc => ?_
  have hneg := Text.neg_of_mem_split hw hc
  simp at hneg

/-- **A coordinate that was read from a text** has no colon in its group and its name. -/
theorem plain_of_parse {text : String} (h : parse text = .ok c) : c.Plain := by
  unfold parse at h
  have hmem : ∀ {w : String}, w ∈ Text.split (· == ':') text → colons w = 0 := colons_of_mem_split
  generalize Text.split (· == ':') text = parts at h hmem
  unfold ofParts at h
  split at h
  · next c₀ hparts =>
    split_ifs at h
    cases h
    split at hparts
    · cases hparts
      exact ⟨hmem (by simp), hmem (by simp)⟩
    · cases hparts
      exact ⟨hmem (by simp), hmem (by simp)⟩
    · cases hparts
  · cases h

/-- The key `g:a:b` is that of three coordinates. -/
example : (⟨"g", "a", some "b"⟩ : Coordinate).key = "g:a:b" ∧
    (⟨"g", "a:b", none⟩ : Coordinate).key = "g:a:b" ∧
    (⟨"g:a", "b", none⟩ : Coordinate).key = "g:a:b" := by decide +kernel

end Coordinate

end ArtifactFetch
