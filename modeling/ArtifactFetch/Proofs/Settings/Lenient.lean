import ArtifactFetch.Proofs.FileTree.Reading
import ArtifactFetch.Settings.Store

/-! # Lenient loading

What strict loading comes to depends on what stands where the path leads (`Loads`): nothing, a
directory, bytes that are no text, or a text. Lenient loading first asks whether anything is there.
What is not there cannot be opened either, so the question makes no difference: lenient loading
gives what strict loading gives, and the standard settings wherever that fails (`loads_leniently`).
Either way of loading only reads the files: neither gives back a tree. -/

namespace ArtifactFetch

namespace Settings

variable {t : FileTree} {p : Path} {r : Except FetchError Settings}

/-! ### Strict loading -/

/-- **What strict loading comes to**, by what stands where the path leads. -/
inductive Loads (t : FileTree) (p : Path) : Except FetchError Settings → Prop
  | nowhere {e : IoError} (h : t.LeadsNowhere p e) : Loads t p (.error (.io p e))
  | directory (h : t.stat p = .ok .dir) : Loads t p (.error (.io p .isDirectory))
  /-- The bytes that are read are not those of a text. -/
  | noText {content : Bytes} (h : t.read p = .ok content)
    (hn : ∀ text : String, content ≠ text.toUTF8.toList) : Loads t p (.error (.io p .notText))
  /-- A text is read, which holds settings or has a fault. -/
  | text {text : String} (h : t.read p = .ok text.toUTF8.toList) : Loads t p (ofJson text)

theorem loads_load (t : FileTree) (p : Path) : Loads t p (load t p) := by
  rcases hr : t.read p with e | content
  · rw [load, FileTree.readText_of_read_error hr]
    obtain hs | ⟨hs, rfl⟩ := FileTree.read_eq_error_iff.mp hr
    · exact .nowhere (FileTree.stat_eq_error_iff.mp hs)
    · exact .directory hs
  · by_cases isText : ∃ text : String, content = text.toUTF8.toList
    · obtain ⟨text, rfl⟩ := isText
      rw [load, FileTree.readText_of_text hr]
      exact .text hr
    · have noText : ∀ text : String, content ≠ text.toUTF8.toList := not_exists.mp isText
      rw [load, FileTree.readText_of_noText hr noText]
      exact .noText hr noText

theorem Loads.load_eq (h : Loads t p r) : load t p = r := by
  cases h with
  | nowhere h =>
    have stat := FileTree.stat_eq_error_iff.mpr h
    rw [load, FileTree.readText_of_read_error (FileTree.read_eq_error_iff.mpr (.inl stat))]
  | directory h =>
    rw [load, FileTree.readText_of_read_error (FileTree.read_eq_error_iff.mpr (.inr ⟨h, rfl⟩))]
  | noText h hn => rw [load, FileTree.readText_of_noText h hn]
  | text h => rw [load, FileTree.readText_of_text h]

/-- Strict loading has this one outcome. -/
theorem load_eq_iff : load t p = r ↔ Loads t p r :=
  ⟨fun h => h ▸ loads_load t p, Loads.load_eq⟩

/-! ### Lenient loading -/

/-- What is loaded is there. -/
theorem exists_of_load {s : Settings} (h : load t p = .ok s) : t.exists? p = true := by
  rcases hs : t.stat p with e | entry
  · have fails := (Loads.nowhere (FileTree.stat_eq_error_iff.mp hs)).load_eq
    rw [h] at fails
    cases fails
  · exact FileTree.exists?_eq_true_iff.mpr ⟨entry, hs⟩

theorem loadOrStandard_of_ok {s : Settings} (h : load t p = .ok s) : loadOrStandard t p = s := by
  rw [loadOrStandard, if_pos (exists_of_load h), h]

theorem loadOrStandard_of_error {e : FetchError} (h : load t p = .error e) :
    loadOrStandard t p = standard := by
  rw [loadOrStandard, h]
  exact ite_self _

/-! ### Both together -/

/-- What lenient loading is, next to strict loading of the same path in the same tree. -/
structure LoadsLeniently (t : FileTree) (p : Path) : Prop where
  /-- It gives the settings that strict loading gives. -/
  settings : ∀ s, load t p = .ok s → loadOrStandard t p = s
  /-- It gives the standard settings where strict loading fails, whatever the reason. -/
  failure : ∀ e, load t p = .error e → loadOrStandard t p = standard
  /-- What strict loading comes to. -/
  strict : ∀ r, load t p = r ↔ Loads t p r
  /-- Something is there just if it can be opened. -/
  opens : t.exists? p = true ↔ t.canOpen p = .ok ()

/-- **Lenient loading agrees with strict loading**, for every path in every tree. -/
theorem loads_leniently (t : FileTree) (p : Path) : LoadsLeniently t p where
  settings _ := loadOrStandard_of_ok
  failure _ := loadOrStandard_of_error
  strict _ := load_eq_iff
  opens := FileTree.exists?_iff_canOpen

end Settings

end ArtifactFetch
