import ArtifactFetch.Proofs.Artifact.Checks
import ArtifactFetch.Proofs.Digest.Reading
import ArtifactFetch.Proofs.Path.Name
import Mathlib.Data.List.Forall2

/-! # What is accepted

The checks of an artifact accept it if and only if its path can be opened, its content has the
digest that is expected of it, if one is, and is a readable archive if its path is named like one
(`verify_iff_acceptable`). Here the digest is the standard one of the content as a whole, compared
but for the case of letters (`SameButCase`), and names are described by the text of the path
(`NamedLikeArchive`). -/

namespace ArtifactFetch

namespace Text

/-! ### The case of letters -/

/-- Two characters that are equal, or a capital ASCII letter and the small one. -/
def SameLetter (x y : Char) : Prop :=
  x = y ∨ ('A' ≤ x ∧ x ≤ 'Z') ∧ y.toNat = x.toNat + 32 ∨
    ('A' ≤ y ∧ y ≤ 'Z') ∧ x.toNat = y.toNat + 32

/-- Two texts that are equal but for the case of their ASCII letters. -/
abbrev SameButCase : List Char → List Char → Prop := List.Forall₂ SameLetter

variable {x y : Char} {cs ds : List Char}

theorem isCapital_iff : 'A' ≤ x ∧ x ≤ 'Z' ↔ 65 ≤ x.toNat ∧ x.toNat ≤ 90 := Iff.rfl

theorem toNat_toLower (x : Char) :
    x.toLower.toNat = if 'A' ≤ x ∧ x ≤ 'Z' then x.toNat + 32 else x.toNat := by
  unfold Char.toLower
  split
  · next h =>
    have capital : 'A' ≤ x ∧ x ≤ 'Z' := h
    have small : x.toNat + 32 < 2 ^ 32 := by
      rw [isCapital_iff] at capital
      omega
    rw [if_pos capital]
    exact (UInt32.toNat_add x.val 32).trans (Nat.mod_eq_of_lt small)
  · next h =>
    have plain : ¬ ('A' ≤ x ∧ x ≤ 'Z') := h
    rw [if_neg plain]

theorem toLower_eq_iff : x.toLower = y.toLower ↔ SameLetter x y := by
  rw [← Char.toNat_inj, toNat_toLower, toNat_toLower, SameLetter, ← Char.toNat_inj]
  simp only [isCapital_iff]
  split_ifs <;> omega

theorem map_toLower_eq_iff : cs.map Char.toLower = ds.map Char.toLower ↔ SameButCase cs ds := by
  rw [← List.forall₂_eq_eq_eq, List.forall₂_map_left_iff, List.forall₂_map_right_iff]
  simp only [toLower_eq_iff]

theorem mem_of_sameButCase (h : SameButCase cs ds) (hx : x ∈ cs) :
    x.toLower ∈ ds.map Char.toLower := by
  rw [← map_toLower_eq_iff.mpr h]
  exact List.mem_map_of_mem hx

end Text

open Text (SameButCase)

namespace Artifact

variable {t : FileTree} {a : Artifact} {p : Path}

theorem equalIgnoringCase_iff {s u : String} :
    equalIgnoringCase s u = true ↔ SameButCase s.toList u.toList := by
  rw [equalIgnoringCase, beq_iff_eq, Text.map_toLower_eq_iff]

/-! ### Names of archives -/

/-- The extension of an archive, in small or capital letters. -/
def IsArchiveExtension (ext : List Char) : Prop :=
  SameButCase ext "jar".toList ∨ SameButCase ext "zip".toList

/-- The last name of a path, behind its last slash but for what is trailing, ends in the extension
of an archive, behind a dot that is not its first character. -/
def NamedLikeArchive (p : Path) : Prop :=
  ∃ dir stem ext trailing, p.text.toList = dir ++ (stem ++ '.' :: ext) ++ trailing ∧
    (dir = [] ∨ dir.getLast? = some '/') ∧ stem ≠ [] ∧ '/' ∉ stem ∧ IsArchiveExtension ext ∧
    Path.Trailing trailing

theorem isArchiveExtension_iff {ext : List Char} : IsArchiveExtension ext ↔
    archiveExtensions.any (fun e => ext.map Char.toLower == e.toList) = true := by
  have jar : "jar".toList.map Char.toLower = "jar".toList := by decide
  have zip : "zip".toList.map Char.toLower = "zip".toList := by decide
  rw [IsArchiveExtension, ← Text.map_toLower_eq_iff, ← Text.map_toLower_eq_iff, jar, zip]
  simp [archiveExtensions]

theorem IsArchiveExtension.plain {ext : List Char} (h : IsArchiveExtension ext) :
    '.' ∉ ext ∧ '/' ∉ ext ∧ ext.length = 3 := by
  rcases h with h | h
  · exact ⟨fun hx => absurd (Text.mem_of_sameButCase h hx) (by decide),
      fun hx => absurd (Text.mem_of_sameButCase h hx) (by decide), h.length_eq⟩
  · exact ⟨fun hx => absurd (Text.mem_of_sameButCase h hx) (by decide),
      fun hx => absurd (Text.mem_of_sameButCase h hx) (by decide), h.length_eq⟩

theorem isArchive_iff_extension : isArchive p = true ↔
    ∃ ext, p.extension? = some ext ∧ IsArchiveExtension ext := by
  unfold isArchive
  rcases p.extension? with _ | ext
  · simp
  · rw [← isArchiveExtension_iff]
    simp

/-- **What is taken for an archive** can be told from the text of its path. -/
theorem isArchive_iff : isArchive p = true ↔ NamedLikeArchive p := by
  rw [isArchive_iff_extension]
  constructor
  · rintro ⟨ext, hext, archive⟩
    obtain ⟨-, stem, some_char, hname⟩ := Path.extension?_eq_some_iff.mp hext
    obtain ⟨name, dir, trailing, htext, hdir, htrailing⟩ := Path.fileName?_eq_some_iff.mp hname
    exact ⟨dir, stem, ext, trailing, htext, hdir, some_char,
      fun h => name.uncut (List.mem_append_left _ h), archive, htrailing⟩
  · rintro ⟨dir, stem, ext, trailing, htext, hdir, some_char, uncut, archive, htrailing⟩
    obtain ⟨undotted, unslashed, three⟩ := archive.plain
    have long : ∀ n, n < 4 → (stem ++ '.' :: ext).length ≠ n := fun n hn => by
      rw [List.length_append, List.length_cons, three]
      omega
    have name : Path.IsName (stem ++ '.' :: ext) :=
      { some_char := fun h => long 0 (by decide) (by rw [h]; rfl)
        uncut := by simp [uncut, unslashed]
        not_here := fun h => long 1 (by decide) (by rw [h]; rfl)
        not_above := fun h => long 2 (by decide) (by rw [h]; rfl) }
    exact ⟨ext, Path.extension?_eq_some_iff.mpr ⟨undotted, stem, some_char,
      Path.fileName?_eq_some_iff.mpr ⟨name, dir, trailing, htext, hdir, htrailing⟩⟩, archive⟩

/-! ### Acceptance -/

/-- What the checks of an artifact are there for. -/
structure Acceptable (t : FileTree) (a : Artifact) : Prop where
  opened : t.canOpen a.file = .ok ()
  digest : ∀ expected, a.sha1 = some expected → ∃ content, t.read a.file = .ok content ∧
    SameButCase (Sha1.Standard.hex (Sha1.Standard.digest content)).toList expected.toList
  archive : NamedLikeArchive a.file →
    ∃ content, t.read a.file = .ok content ∧ Archive.check content = .ok ()

theorem verify_iff_acceptable : a.verify t = .ok () ↔ Acceptable t a := by
  rw [verify_eq_ok_iff, checkDigest_eq_ok_iff, checkArchive_eq_ok_iff, isArchive_iff]
  simp only [equalIgnoringCase_iff, digestOf_eq]
  exact ⟨fun ⟨digest, opened, archive⟩ => ⟨opened, digest, archive⟩,
    fun ⟨opened, digest, archive⟩ => ⟨digest, opened, archive⟩⟩

/-- **What the checks accept**, of every artifact and in every file tree. The digest in this does
not depend on how a content is read: the reads of every division of it, of whatever sizes and
whatever follows the first read that brings nothing, have the digest of the whole, and every reader
that goes on in a content comes to such a read. -/
theorem accepted_as_checked :
    (∀ t a, verify t a = .ok () ↔ Acceptable t a) ∧
    (∀ reads : List Bytes, (∀ r ∈ reads, r ≠ []) → ∀ later,
      Sha1.digestOfReads (reads ++ [] :: later) =
        Sha1.Standard.hex (Sha1.Standard.digest reads.flatten)) ∧
    ∀ content reads, Sha1.Delivers content reads → ∃ n ≤ content.length,
      (∀ i < n, reads i ≠ []) ∧ reads n = [] ∧ ∀ m, n < m →
        Sha1.digestOfReads ((List.range m).map reads) =
          Sha1.Standard.hex (Sha1.Standard.digest content) := by
  refine ⟨fun t a => verify_iff_acceptable, fun reads some_byte later => ?_,
    fun content reads delivers => ?_⟩
  · rw [Sha1.digestOfReads_eq some_byte, Sha1.digest_eq_standard]
  · rw [← Sha1.digest_eq_standard]
    exact delivers.digestOfReads

/-- A file with a digest in capital letters, and a name that begins with its only dot. -/
theorem accepted_as_checked_capitals :
    let t : FileTree := ⟨[([".jar"], .file "hello".toUTF8.toList)], []⟩
    let a : Artifact := ⟨⟨"g", "lib", none⟩, ⟨"/.jar"⟩,
      some "AAF4C61DDCC5E8A2DABEDE0F3B482CD9AEA9434D"⟩
    Acceptable t a ∧ a.verify t = .ok () := by
  intro t a
  have file : t.stat a.file = .ok (.file "hello".toUTF8.toList) := by decide +kernel
  have read := FileTree.read_eq_ok_iff.mpr (.inl file)
  have acceptable : Acceptable t a :=
    { opened := FileTree.canOpen_eq_ok_iff.mpr ⟨_, file⟩
      digest := fun expected h => by
        obtain rfl := Option.some.inj h
        refine ⟨_, read, ?_⟩
        rw [← Sha1.digest_eq_standard, ← Text.map_toLower_eq_iff]
        decide +kernel
      archive := fun named => absurd (isArchive_iff.mpr named) (by decide) }
  exact ⟨acceptable, (accepted_as_checked.1 t a).mpr acceptable⟩

end Artifact

end ArtifactFetch
