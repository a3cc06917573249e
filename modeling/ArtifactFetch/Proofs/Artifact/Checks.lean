import ArtifactFetch.Artifact
import ArtifactFetch.Proofs.FileTree.Reading

/-! # The checks one by one

When each check of an artifact lets it pass, in terms of what can be opened and read. -/

namespace ArtifactFetch

namespace Artifact

variable {t : FileTree} {a : Artifact}

theorem checkDigest_eq_ok_iff : a.checkDigest t = .ok () ↔ ∀ expected, a.sha1 = some expected →
    ∃ content, t.read a.file = .ok content ∧
      equalIgnoringCase (digestOf content) expected = true := by
  unfold checkDigest
  rcases a.sha1 with _ | expected
  · simp
  · rcases t.read a.file with e | content <;> simp

/-- Nothing is no archive. -/
theorem check_nil : Archive.check [] = .error .noEndRecord := rfl

theorem checkArchive_eq_ok_iff : a.checkArchive t = .ok () ↔ t.canOpen a.file = .ok () ∧
    (isArchive a.file = true →
      ∃ content, t.read a.file = .ok content ∧ Archive.check content = .ok ()) := by
  unfold checkArchive
  simp only [FileTree.canOpen_eq_ok_iff, FileTree.read_eq_ok_iff]
  rcases t.stat a.file with e | entry
  · simp
  · rcases isArchive a.file with _ | _
    · simp
    · rcases entry with _ | content | _
      · simp
      · rcases h : Archive.check content with fault | ⟨⟩ <;> simp [h]
      · simp [check_nil]

theorem verify_eq_ok_iff :
    a.verify t = .ok () ↔ a.checkDigest t = .ok () ∧ a.checkArchive t = .ok () := by
  unfold verify
  rcases a.checkDigest t with e | ⟨⟩
  · exact ⟨fun h => (by cases h), fun h => (by cases h.1)⟩
  · exact ⟨fun h => ⟨rfl, h⟩, And.right⟩

theorem verifyAll_eq_ok_iff : ∀ {as : List Artifact},
    verifyAll t as = .ok () ↔ ∀ a ∈ as, a.verify t = .ok ()
  | [] => ⟨fun _ a ha => absurd ha List.not_mem_nil, fun _ => rfl⟩
  | a :: as => by
    rw [verifyAll, List.forall_mem_cons, ← verifyAll_eq_ok_iff]
    rcases a.verify t with e | ⟨⟩
    · exact ⟨fun h => (by cases h), fun h => (by cases h.1)⟩
    · exact ⟨fun h => ⟨rfl, h⟩, And.right⟩

end Artifact

end ArtifactFetch
