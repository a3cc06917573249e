import ArtifactFetch.Proofs.Coordinate.Layout
import ArtifactFetch.Proofs.Downloader.Additions

/-! # Files at their places in a repository

A file at the place of a coordinate below any directory is recognised: once the class loader has it,
the artifact is present for good, in the version of the coordinate and without one, whatever texts
the coordinate is made of and wherever they lead (`recognised_in_layout`). It makes no difference
whether the host or a download has added it. -/

namespace ArtifactFetch

/-- An artifact is present in the version of a coordinate, and in whatever version. -/
structure Classpath.Finds (cp : Classpath) (c : Coordinate) : Prop where
  itself : (cp.lookup c).isSome
  versionless : ∀ x : Coordinate, x.artifact = c.artifact → x.version = none →
    (cp.lookup x).isSome

namespace Downloader

variable {R : Coordinate → Prop} {d d' : Downloader} {c : Coordinate} {cp cp' : Classpath}
  {p base : Path}

/-! ### Entries -/

theorem finds_of_entry {e : String} (he : e ∈ cp.loader.entries)
    (hn : c.classpathName.toList <:+: e.toList) : cp.Finds c where
  itself := Classpath.isSome_lookup_of_entry he (Text.contains_iff.mpr hn)
  versionless x hx hv := by
    refine Classpath.isSome_lookup_of_entry he (Text.contains_iff.mpr ?_)
    rw [Coordinate.classpathName, hv, hx]
    exact c.prefix_classpathName.isInfix.trans hn

theorem finds_of_grows (hg : cp.Grows cp') (h : cp.Finds c) : cp'.Finds c :=
  ⟨hg.lookup h.itself, fun x hx hv => hg.lookup (h.versionless x hx hv)⟩

/-- The files that downloads have added are entries of the class loader. -/
theorem loaded_change (h : Change R d d')
    (hd : ∀ x ∈ d.shared.appends, x.artifact.file.text ∈ d.classpath.loader.entries) :
    ∀ x ∈ d'.shared.appends, x.artifact.file.text ∈ d'.classpath.loader.entries := by
  intro x hx
  obtain ⟨id, j, hran⟩ | hsame := appends_change h
  · rw [hran.appends, List.mem_append, List.mem_map] at hx
    rw [hran.entries, List.mem_append, List.mem_map]
    obtain hx | ⟨a, ha, rfl⟩ := hx
    · exact .inl (hd x hx)
    · exact .inr ⟨a, ha, rfl⟩
  · rw [hsame] at hx
    exact (grows_change h).entries.subset (hd x hx)

theorem loaded_of_build {b : Builder} {files : FileTree} {environment : String → Option Bytes}
    (hb : b.build files environment = .ok d) (ms : List Move) :
    ∀ x ∈ (d.moveAll ms).1.shared.appends,
      x.artifact.file.text ∈ (d.moveAll ms).1.classpath.loader.entries := by
  refine of_changes (P := fun d => ∀ x ∈ d.shared.appends,
    x.artifact.file.text ∈ d.classpath.loader.entries) (fun _ _ => loaded_change)
    (later_moveAll d ms) fun x hx => ?_
  rw [appends_of_build hb] at hx
  cases hx

/-! ### The place in a repository -/

/-- What holds of the file at the place of a coordinate below a directory. -/
structure Recognised (base below : Path) (c : Coordinate) : Prop where
  /-- The place ends in what is searched for, and `.jar`, also below the directory. -/
  ends : (c.classpathName ++ ".jar").toList <:+ below.text.toList ∧
    (c.classpathName ++ ".jar").toList <:+ (base.join below.text).text.toList
  /-- Once it was added to a class loader, the artifact is present while the classpath grows. -/
  added : ∀ t (cp cp' cp'' : Classpath), cp.addFile t (base.join below.text) = (cp', .ok ()) →
    cp'.Grows cp'' → cp''.Finds c
  /-- Once the host of a downloader has added it, the artifact is present throughout every run. -/
  host : ∀ d : Downloader, (d.addFile (base.join below.text)).2 = .ok () → ∀ ms,
    ((d.addFile (base.join below.text)).1.moveAll ms).1.classpath.Finds c
  /-- So it is once a download has added it. -/
  task : ∀ (b : Builder) files environment d, b.build files environment = .ok d → ∀ ms,
    ∀ x ∈ (d.moveAll ms).1.shared.appends, x.artifact.file = base.join below.text → ∀ ms',
      ((d.moveAll ms).1.moveAll ms').1.classpath.Finds c

/-- **Files at their places in a repository are recognised**, whatever texts the parts of the
coordinate are. -/
theorem recognised_in_layout (group artifact version : String) (base : Path) :
    let c : Coordinate := ⟨group, artifact, some version⟩
    ∃ below, c.localPath = some below ∧ Recognised base below c := by
  intro c
  obtain ⟨above, hbelow⟩ := Coordinate.localPath_of_version (c := c) rfl
  refine ⟨_, hbelow, ?_⟩
  generalize above.join (c.classpathName ++ ".jar") = below at hbelow
  have ends : (c.classpathName ++ ".jar").toList <:+ (base.join below.text).text.toList :=
    (Coordinate.suffix_localPath hbelow).trans (Path.suffix_join base below.text)
  have named : c.classpathName.toList <:+: (base.join below.text).text.toList := by
    rw [String.toList_append] at ends
    exact (List.prefix_append _ _).isInfix.trans ends.isInfix
  have added : ∀ t (cp cp' : Classpath), cp.addFile t (base.join below.text) = (cp', .ok ()) →
      cp'.Finds c := fun t cp cp' h => finds_of_entry (Classpath.mem_entries_of_addFile h) named
  refine ⟨⟨Coordinate.suffix_localPath hbelow, ends⟩, ?_, ?_, ?_⟩
  · exact fun t cp cp' cp'' h hg => finds_of_grows hg (added t cp cp' h)
  · intro d h ms
    exact finds_of_grows (grows_moveAll _ ms) (added _ _ _ (Prod.ext rfl h))
  · intro b files environment d hb ms x hx hfile ms'
    refine finds_of_grows (grows_moveAll _ ms') (finds_of_entry ?_ named)
    rw [← hfile]
    exact loaded_of_build hb ms x hx

/-- A group that gets lost, an artifact name that leads back to the root, and an empty version: the
file is added below a directory that gets lost as well, and found after the next request. -/
theorem recognised_in_layout_absolute :
    let c : Coordinate := ⟨"org.x", "/a", some ""⟩
    let d := plain (fun _ _ => ⟨[], .artifacts []⟩) none none
      ⟨[(["a-.jar", "a-"], .file []), (["a"], .dir), (["a-.jar"], .file [])], []⟩
    let d' := ((d.addFile ⟨"/a-.jar"⟩).1.moveAll [.act (.ensure ⟨"y", "b", none⟩)]).1
    c.localPath = some ⟨"/a-.jar"⟩ ∧ (d.addFile ⟨"/a-.jar"⟩).2 = .ok () ∧ d'.classpath.Finds c := by
  intro c d d'
  obtain ⟨below, hbelow, recognised⟩ := recognised_in_layout "org.x" "/a" "" ⟨"/repository"⟩
  have place : c.localPath = some ⟨"/a-.jar"⟩ := by decide +kernel
  obtain rfl : below = ⟨"/a-.jar"⟩ := Option.some.inj (hbelow.symm.trans place)
  have ok : (d.addFile ⟨"/a-.jar"⟩).2 = .ok () := by decide +kernel
  exact ⟨place, ok, recognised.host d ok _⟩

end Downloader

end ArtifactFetch
