import ArtifactFetch.Proofs.Text.Cut
import ArtifactFetch.Resolver

/-! # Lists of repositories

The setting for custom repositories is cut at its commas, and cutting undoes joining but for the
empty stretches, which get lost (`splitRepositories_intercalate`). A request for a coordinate lists
the central repository, the custom ones as they stand in the setting, and behind them the snapshot
repository for snapshots of the framework (`asks_for`). -/

namespace ArtifactFetch

/-! ### Custom repositories -/

/-- **Cutting undoes joining**, but for what is empty. -/
theorem splitRepositories_intercalate {xs : List String} (h : ∀ x ∈ xs, ',' ∉ x.toList) :
    splitRepositories (",".intercalate xs) = xs.filter (· ≠ "") := by
  rw [splitRepositories, Text.splitWords_eq_filter]
  rcases eq_or_ne xs [] with rfl | some_stretch
  · decide
  · have stretches : Text.split (· == ',') (",".intercalate xs) = xs :=
      Text.split_eq_iff.mpr ⟨some_stretch, h, rfl⟩
    rw [stretches]

theorem splitRepositories_append (a b : String) :
    splitRepositories (a ++ "," ++ b) = splitRepositories a ++ splitRepositories b := by
  have cut : (a ++ "," ++ b).toList = a.toList ++ ',' :: b.toList := by simp
  rw [splitRepositories, Text.splitWords, cut, Text.words_append_cons rfl, List.map_append]
  rfl

/-- Custom repositories as they stand in a setting: the stretches between its commas that are not
empty. -/
inductive Customs : Option String → List String → Prop
  | none : Customs none []
  | some {stretches : List String} (uncut : ∀ x ∈ stretches, ',' ∉ x.toList) :
    Customs (some (",".intercalate stretches)) (stretches.filter (· ≠ ""))

theorem customs_customRepositories (s : Settings) : Customs s.repos s.customRepositories := by
  unfold Settings.customRepositories
  rcases s.repos with _ | raw
  · exact .none
  · obtain ⟨-, uncut, joined⟩ := Text.split_eq_iff.mp (Eq.refl (Text.split (· == ',') raw))
    have whole : ",".intercalate (Text.split (· == ',') raw) = raw := joined
    have h := Customs.some uncut
    rwa [whole, ← Text.splitWords_eq_filter] at h

/-! ### Requests -/

/-- A coordinate of the framework's own group, in a version that contains `SNAPSHOT`. -/
def Settings.IsFrameworkSnapshot (s : Settings) (c : Coordinate) : Prop :=
  c.group = s.frameworkGroup ∧ ∃ v, c.version = some v ∧ "SNAPSHOT".toList <:+: v.toList

theorem isSnapshotVersion_iff {version : Option String} : isSnapshotVersion version = true ↔
    ∃ v, version = some v ∧ "SNAPSHOT".toList <:+: v.toList := by
  cases version with
  | none => simp [isSnapshotVersion]
  | some v => simp only [isSnapshotVersion, Text.contains_iff, Option.some.injEq, exists_eq_left']

/-- What a resolver is asked for a coordinate, by the settings. -/
structure Asks (s : Settings) (c : Coordinate) (r : Request) : Prop where
  coordinate : r.coordinates = [c]
  fresh : r.fresh = s.fresh
  repositories : ∃ custom last, Customs s.repos custom ∧
    r.repositories = s.centralRepository :: custom ++ last ∧
    (s.IsFrameworkSnapshot c ∧ last = [s.snapshotRepository] ∨
      ¬ s.IsFrameworkSnapshot c ∧ last = [])

/-- **The request for a coordinate** is as the settings want it. -/
theorem asks_for (s : Settings) (c : Coordinate) : Asks s c (.for s c) where
  coordinate := rfl
  fresh := rfl
  repositories := by
    refine ⟨s.customRepositories, _, customs_customRepositories s, rfl, ?_⟩
    have cond : (c.group = s.repositories.frameworkGroup ∧ isSnapshotVersion c.version = true) ↔
        s.IsFrameworkSnapshot c := and_congr_right fun _ => isSnapshotVersion_iff
    split_ifs with h
    · exact .inl ⟨cond.mp h, rfl⟩
    · exact .inr ⟨fun hs => h (cond.mpr hs), rfl⟩

end ArtifactFetch
