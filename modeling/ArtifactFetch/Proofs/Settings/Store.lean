import ArtifactFetch.Proofs.FileTree.Writing
import ArtifactFetch.Proofs.Settings.Partial

/-! # Saved settings are loaded again

The text of settings is read back as the same settings (`ofJson_toJson`), since every field is
written. Saving to a path makes directories on the way to its parent (`makesDirs_makeParent`) and
then either fails, in which case nothing else happens, or writes the text where the path leads;
`save_load` puts the two together. -/

namespace ArtifactFetch.Settings

variable {s : Settings} {t t' : FileTree} {p : Path}

/-- The paths above a file, those whose directories are made for it. -/
def way (p : Path) : List Path :=
  match p.parent? with
  | some parent => parent.ancestors
  | none => []

theorem makesDirs_makeParent (t : FileTree) (p : Path) :
    t.MakesDirs (way p) (makeParent t p).1 := by
  unfold makeParent way
  cases p.parent? with
  | none => exact .refl _ t
  | some parent =>
    have made := t.makesDirs_makeDirs parent
    dsimp only
    split
    · next h => rwa [h] at made
    · next h => rwa [h] at made

/-- Saving that fails has made some directories and done nothing else. -/
theorem makesDirs_of_save_error {e : FetchError} (h : save s t p = (t', .error e)) :
    t.MakesDirs (way p) t' := by
  have made := makesDirs_makeParent t p
  unfold save at h
  split at h
  · next hp => cases h; rwa [hp] at made
  next t₁ hp =>
  rw [hp] at made
  split at h
  · cases h
  · next hw => cases h; rwa [FileTree.write_error hw]

/-- Saving that succeeds has made some directories and then written the text. -/
theorem of_save_ok (h : save s t p = (t', .ok ())) :
    ∃ t₁, t.MakesDirs (way p) t₁ ∧ t₁.write p s.toJson.toUTF8.toList = (t', .ok ()) := by
  have made := makesDirs_makeParent t p
  unfold save at h
  split at h
  · cases h
  next t₁ hp =>
  rw [hp] at made
  split at h
  · next hw => cases h; exact ⟨t₁, made, hw⟩
  · cases h

/-- What saving `s` to `p` in `t` may come to. -/
structure Saves (s : Settings) (t : FileTree) (p : Path) (t' : FileTree)
    (r : Except FetchError Unit) : Prop where
  /-- What was saved is loaded. -/
  loads : r = .ok () → load t' p = .ok s
  /-- Success leaves every file alone but the one to which the path leads. -/
  others : r = .ok () → ∀ loc content, t.at? loc = some (.file content) →
    t'.locate p ≠ .ok loc → t'.at? loc = some (.file content)
  /-- Failure leaves every file alone. -/
  refused : ∀ e, r = .error e → ∀ loc content, t.at? loc = some (.file content) →
    t'.at? loc = some (.file content)
  /-- No directory is removed. -/
  dirs : ∀ loc, t.at? loc = some .dir → t'.at? loc = some .dir
  /-- What changes is the saved file, or a place where nothing was and now a directory stands, to
  which one of the paths above the file leads. -/
  changes : ∀ loc, t'.at? loc ≠ t.at? loc → r = .ok () ∧ t'.locate p = .ok loc ∨
    t.at? loc = none ∧ t'.at? loc = some .dir ∧ ∃ q ∈ way p, t'.locate q = .ok loc
  home : t'.home = t.home

/-- **Saving settings**, to any path in any tree of directories and files. -/
theorem save_load (s : Settings) (t : FileTree) (plain : t.Plain) (p : Path) :
    Saves s t p (save s t p).1 (save s t p).2 := by
  rcases hs : save s t p with ⟨t', _ | ⟨⟩⟩
  · have made := makesDirs_of_save_error hs
    exact {
      loads := nofun
      others := nofun
      refused := fun _ _ _ _ hf => made.of_some hf
      dirs := fun _ hd => made.of_some hd
      changes := fun loc changed => .inr ((made.at? loc).resolve_left changed)
      home := made.home }
  · obtain ⟨t₁, made, hw⟩ := of_save_ok hs
    obtain ⟨ext, file, leads, holds, free, frame⟩ := FileTree.write_ok (made.plain plain) hw
    have elsewhere : ∀ {loc}, t'.locate p ≠ .ok loc → t'.at? loc = t₁.at? loc := fun hl =>
      frame _ fun same => hl (same ▸ leads)
    exact {
      loads := fun _ => by
        rw [load, FileTree.readText_of_at? leads holds]
        exact ofJson_toJson s
      others := fun _ loc content hf hl => by rw [elsewhere hl, made.of_some hf]
      refused := nofun
      dirs := fun loc hd => ext.dir (made.of_some hd)
      changes := fun loc changed => by
        by_cases hl : t'.locate p = .ok loc
        · exact .inl ⟨rfl, hl⟩
        rw [elsewhere hl] at changed ⊢
        obtain ⟨none, dir, q, hq, reached⟩ := (made.at? loc).resolve_left changed
        exact .inr ⟨none, dir, q, hq, ext.locate reached⟩
      home := ext.home.trans made.home }

/-- Settings with odd characters and without a time limit, saved below directories that are missing,
on a path with a dot, a repeated slash and a step up. -/
theorem save_load_nested :
    let s : Settings := { Settings.standard with
      repos := some "a\"b\\c\x01\n€😀", taskTimeoutSecs := none,
      slowDownloadNoticeSecs := 18446744073709551615 }
    let t : FileTree := ⟨[(["home"], .dir), (["old", "home"], .file [1])], ["home"]⟩
    let p : Path := ⟨"a/.././/b/settings.json"⟩
    let t' := (save s t p).1
    load t' p = .ok s ∧ t'.at? ["old", "home"] = some (.file [1]) := by
  intro s t p t'
  have plain : t.Plain := FileTree.plain_of_entries (by decide)
  have saved := save_load s t plain p
  have succeeds : (save s t p).2.isOk = true := by decide +kernel
  have place : (t'.locate p).toOption = some ["settings.json", "b", "home"] := by decide +kernel
  rcases hr : (save s t p).2 with e | ⟨⟩
  · rw [hr] at succeeds; cases succeeds
  · refine ⟨saved.loads hr, saved.others hr _ _ rfl fun old => ?_⟩
    rw [old] at place
    exact absurd place (by decide)

end ArtifactFetch.Settings
