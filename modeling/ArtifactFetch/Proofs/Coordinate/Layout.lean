import ArtifactFetch.Coordinate
import ArtifactFetch.Proofs.Path.Name
import Mathlib.Data.List.Basic

/-! # Coordinates and their places in a repository

Whatever a coordinate is made of, the path of its file ends in what is searched for in classpath
entries, followed by `.jar` (`suffix_localPath`). If its parts are names of directories, the path
has the parts of the group between its dots, the artifact name, the version and the name of the file
for its components (`components_localPath`), so the coordinate is read back from them, from the
right end (`ofLocalPath_localPath`), and no two such coordinates have one path
(`localPath_injective`). -/

namespace ArtifactFetch.Coordinate

open ArtifactFetch.Path (joinChars)
open Text (pieces)

variable {c c' : Coordinate} {p : Path} {v : String}

/-! ### The end of the path -/

theorem localPath_of_version (h : c.version = some v) :
    ∃ above : Path, c.localPath = some (above.join (c.classpathName ++ ".jar")) := by
  unfold localPath classpathName
  rw [h]
  exact ⟨_, rfl⟩

/-- **The path of a coordinate's file** ends in its name on classpaths and `.jar`. -/
theorem suffix_localPath (h : c.localPath = some p) :
    (c.classpathName ++ ".jar").toList <:+ p.text.toList := by
  obtain ⟨v, hv, -⟩ := Option.map_eq_some_iff.mp h
  obtain ⟨above, hp⟩ := localPath_of_version hv
  obtain rfl : p = above.join (c.classpathName ++ ".jar") := Option.some.inj (h.symm.trans hp)
  exact Path.suffix_join _ _

/-- What is searched for without the version begins what is searched for with it. -/
theorem prefix_classpathName (c : Coordinate) : c.artifact.toList <+: c.classpathName.toList := by
  unfold classpathName
  rcases c.version with _ | v
  · exact List.prefix_rfl
  · dsimp only
    rw [String.append_assoc, String.toList_append]
    exact List.prefix_append _ _

/-! ### The components of the path -/

/-- A text that can be a single component of a path. -/
def IsSegment (s : String) : Prop := s ≠ "" ∧ '/' ∉ s.toList

instance (s : String) : Decidable (IsSegment s) := inferInstanceAs (Decidable (_ ∧ _))

/-- A coordinate with a version whose parts are single components, the group not ending in a dot. -/
structure Foldered (c : Coordinate) : Prop where
  group : IsSegment c.group
  closed : c.group.toList.getLast? ≠ some '.'
  artifact : IsSegment c.artifact
  version : ∃ v, c.version = some v ∧ IsSegment v

theorem toList_ne_nil {s : String} (h : s ≠ "") : s.toList ≠ [] := by simpa using h

/-- A path that ends in a component goes on behind a slash. -/
theorem joinChars_segment {above : List Char} {s t : String} (hs : IsSegment s)
    (ht : '/' ∉ t.toList) :
    joinChars (above ++ '/' :: s.toList) t.toList =
      above ++ '/' :: s.toList ++ '/' :: t.toList := by
  refine Path.joinChars_of_relative (by simp) (fun hlast => ?_) ht
  rw [List.getLast?_append, List.getLast?_cons_of_ne_nil (toList_ne_nil hs.1)] at hlast
  rcases h : s.toList.getLast? with _ | x
  · exact toList_ne_nil hs.1 (List.getLast?_eq_none_iff.mp h)
  · rw [h, Option.some_or] at hlast
    exact hs.2 (Option.some.inj hlast ▸ List.mem_of_getLast? h)

/-- The group with a slash in place of every dot. -/
def slashed (group : String) : List Char :=
  group.toList.map fun ch => if ch = '.' then '/' else ch

theorem pieces_slashed {cs : List Char} (h : '/' ∉ cs) :
    pieces (· == '/') (cs.map fun ch => if ch = '.' then '/' else ch) = pieces (· == '.') cs := by
  induction cs with
  | nil => rfl
  | cons c cs ih =>
    rw [List.mem_cons, not_or] at h
    rw [List.map_cons]
    by_cases hc : c = '.'
    · rw [if_pos hc, Text.pieces_cons_of_pos rfl, ih h.2, Text.pieces_cons_of_pos (by simp [hc])]
    · obtain ⟨w, ws, hw⟩ := List.exists_cons_of_ne_nil (Text.pieces_ne_nil (· == '.') cs)
      rw [if_neg hc, Text.pieces_cons_of_neg (by simpa using Ne.symm h.1) ((ih h.2).trans hw),
        Text.pieces_cons_of_neg (by simpa using hc) hw]

section Foldered
variable (h : c.Foldered)
include h

theorem Foldered.slashed_ne_nil : slashed c.group ≠ [] := by
  simpa [slashed] using h.group.1

theorem Foldered.getLast?_slashed : (slashed c.group).getLast? ≠ some '/' := by
  unfold slashed
  rw [List.getLast?_map, Ne, Option.map_eq_some_iff]
  rintro ⟨ch, hlast, hslash⟩
  split_ifs at hslash with hdot
  · exact h.closed (hdot ▸ hlast)
  · exact h.group.2 (hslash ▸ List.mem_of_getLast? hlast)

theorem Foldered.segment_version (hv : c.version = some v) : IsSegment v := by
  obtain ⟨v', hv', segment⟩ := h.version
  rwa [Option.some.inj (hv.symm.trans hv')]

theorem Foldered.uncut_fileName (hv : c.version = some v) :
    '/' ∉ (c.artifact ++ "-" ++ v ++ ".jar").toList := by
  simp [String.toList_append, h.artifact.2, (h.segment_version hv).2]

/-- **The path** of a coordinate whose parts are single components. -/
theorem Foldered.toList_localPath (hv : c.version = some v) (hp : c.localPath = some p) :
    p.text.toList = slashed c.group ++ '/' :: c.artifact.toList ++ '/' :: v.toList ++
      '/' :: (c.artifact ++ "-" ++ v ++ ".jar").toList := by
  rw [localPath, hv, Option.map_some] at hp
  rw [← Option.some.inj hp, Path.toList_join, Path.toList_join, Path.toList_join, String.toList_map]
  show joinChars (joinChars (joinChars (slashed c.group) _) _) _ = _
  rw [Path.joinChars_of_relative h.slashed_ne_nil h.getLast?_slashed h.artifact.2,
    joinChars_segment h.artifact (h.segment_version hv).2,
    joinChars_segment (h.segment_version hv) (h.uncut_fileName hv)]

/-- **The components** of such a path. -/
theorem Foldered.components_localPath (hv : c.version = some v) (hp : c.localPath = some p) :
    p.components = Text.split (· == '.') c.group ++
      [c.artifact, v, c.artifact ++ "-" ++ v ++ ".jar"] := by
  have single : ∀ {s : String}, '/' ∉ s.toList → pieces (· == '/') s.toList = [s.toList] :=
    fun hs => Text.pieces_of_uncut (Text.uncut_of_not_mem hs)
  rw [Path.components, Text.split, h.toList_localPath hv hp, Text.pieces_append_cons rfl,
    Text.pieces_append_cons rfl, Text.pieces_append_cons rfl, slashed, pieces_slashed h.group.2,
    single h.artifact.2, single (h.segment_version hv).2, single (h.uncut_fileName hv)]
  simp [Text.split, String.append_assoc]

end Foldered

/-! ### Reading a coordinate back from its path -/

/-- The coordinate at whose place in a repository a path leads: the last component repeats the two
before it, and all above are the group. -/
def ofLocalPath (p : Path) : Option Coordinate :=
  match p.components.reverse with
  | _ :: version :: artifact :: group =>
    some ⟨".".intercalate group.reverse, artifact, some version⟩
  | _ => none

theorem ofLocalPath_localPath (h : c.Foldered) : c.localPath.bind ofLocalPath = some c := by
  obtain ⟨v, hv, -⟩ := h.version
  obtain ⟨above, hp⟩ := localPath_of_version hv
  have group : ".".intercalate (Text.split (· == '.') c.group) = c.group :=
    (Text.split_eq_iff.mp rfl).2.2
  rw [hp, Option.bind_some, ofLocalPath, h.components_localPath hv hp]
  simp [group, ← hv]

/-- **Local paths do not collide**: coordinates with a version whose parts are not empty and hold no
slash, and whose groups do not end in a dot, are told by the texts of their paths. -/
theorem localPath_injective (h : c.Foldered) (h' : c'.Foldered)
    (same : c.localPath.map Path.text = c'.localPath.map Path.text) : c = c' := by
  have text_injective : Function.Injective Path.text := fun p q hpq => by
    cases p
    exact congrArg Path.mk hpq
  have paths : c.localPath = c'.localPath := Option.map_injective text_injective same
  have back := ofLocalPath_localPath h
  rw [paths, ofLocalPath_localPath h'] at back
  exact (Option.some.inj back).symm

/-- Two coordinates whose files have one name, in groups of dots and next to each other. -/
theorem localPath_injective_same_file :
    let c : Coordinate := ⟨"..a", "x-1", some "2"⟩
    let c' : Coordinate := ⟨"..a", "x", some "1-2"⟩
    c.Foldered ∧ c'.Foldered ∧ c.classpathName = c'.classpathName ∧
      c.localPath.map Path.text ≠ c'.localPath.map Path.text := by
  intro c c'
  have h : c.Foldered := ⟨by decide, by decide, by decide, "2", rfl, by decide⟩
  have h' : c'.Foldered := ⟨by decide, by decide, by decide, "1-2", rfl, by decide⟩
  exact ⟨h, h', by decide, fun same => absurd (localPath_injective h h' same) (by decide)⟩

/-- A dot at the end of a group gets lost. -/
example : (⟨"a.", "b", some "1"⟩ : Coordinate).localPath =
    (⟨"a", "b", some "1"⟩ : Coordinate).localPath := by decide +kernel

end ArtifactFetch.Coordinate
