import ArtifactFetch.Proofs.Downloader.Abandoned
import ArtifactFetch.Proofs.Registration.Additions

/-! # Files that downloads add

The files that downloads add to the class loader come from their jobs alone (`ran_of_mem_appends`).
With checks, a job adds nothing that has not passed them in the same job, even if others are at work
meanwhile (`only_checked_added`). With or without them, it adds nothing that is present at that
moment, so while files are named after their artifacts, no two that are added in a whole run are of
one name (`added_once`). -/

namespace ArtifactFetch.Downloader

variable {R : Coordinate → Prop} {d d' d₁ d₂ : Downloader} {id : Nat} {j : Found}

/-- What the job of a task comes to if it is run now. -/
def registration (d : Downloader) (id : Nat) (j : Found) : Registered :=
  Registration.all d.shared.files (some id) d.config.settings.verifyArtifacts j.coordinate
    j.artifacts d.classpath

/-! ### Jobs -/

section Ran
variable (h : Ran d d' id j)
include h

theorem Ran.appends : d'.shared.appends =
    d.shared.appends ++ (d.registration id j).appended.map (Append.mk id) := by
  rw [h.shared]
  rfl

theorem Ran.entries : d'.classpath.loader.entries = d.classpath.loader.entries ++
    (d.registration id j).appended.map fun a => a.file.text := by
  rw [classpath, h.shared]
  exact Registration.entries_all _ _ _ _ _ _

end Ran

theorem appends_change (h : Change R d d') :
    (∃ id j, Ran d d' id j) ∨ d'.shared.appends = d.shared.appends :=
  (ran_or_same h).imp_right And.left

/-- **Where an added file comes from.** -/
theorem ran_of_mem_appends (hd : d.shared.appends = []) (hc : Changes R d d') {x : Append}
    (hx : x ∈ d'.shared.appends) : ∃ j d₁ d₂, Changes R d d₁ ∧ Ran d₁ d₂ x.task j ∧
      Changes R d₂ d' ∧ x.artifact ∈ (d₁.registration x.task j).appended := by
  induction hc with
  | refl =>
    rw [hd] at hx
    cases hx
  | tail hc h ih =>
    obtain ⟨id, j, hran⟩ | hsame := appends_change h
    · rw [hran.appends, List.mem_append, List.mem_map] at hx
      obtain hx | ⟨a, ha, rfl⟩ := hx
      · obtain ⟨j', d₁, d₂, h₁, hran', h₂, hm⟩ := ih hx
        exact ⟨j', d₁, d₂, h₁, hran', h₂.tail h, hm⟩
      · exact ⟨j, _, _, hc, hran, .refl, ha⟩
    · rw [hsame] at hx
      obtain ⟨j, d₁, d₂, h₁, hran, h₂, hm⟩ := ih hx
      exact ⟨j, d₁, d₂, h₁, hran, h₂.tail h, hm⟩

theorem appends_of_build {b : Builder} {files : FileTree} {environment : String → Option Bytes}
    (h : b.build files environment = .ok d) : d.shared.appends = [] := by
  obtain ⟨boot, loader, rfl⟩ := eq_of_build h
  rfl

/-! ### Only checked files -/

/-- What a job that checks has done: it has added files of artifacts that were not present when it
was begun and that have all passed the checks before the first was added. -/
structure AddsCheckedOnly (d d' : Downloader) (id : Nat) (j : Found) (added : List Artifact) :
    Prop where
  appends : d'.shared.appends = d.shared.appends ++ added.map (Append.mk id)
  entries : d'.classpath.loader.entries =
    d.classpath.loader.entries ++ added.map fun a => a.file.text
  pending : added.Sublist (d.classpath.pending j.artifacts)
  checked : added ≠ [] → ∀ a ∈ d.classpath.pending j.artifacts, a.verify d.shared.files = .ok ()
  /-- What looked present is not added. -/
  present : ∀ a ∈ j.artifacts, (d.classpath.lookup a.coordinate).isSome → a ∉ added

theorem Ran.addsCheckedOnly (h : Ran d d' id j)
    (hv : d.config.settings.verifyArtifacts = true) :
    AddsCheckedOnly d d' id j (d.registration id j).appended := by
  have hc : Registration.AddsChecked d.shared.files d.classpath j.artifacts
      (d.registration id j) := by
    unfold registration
    rw [hv]
    exact Registration.addsChecked_all _ _
  exact ⟨h.appends, h.entries, hc.pending, hc.checked, fun a _ ha => hc.not_mem ha⟩

/-- In a run from `d` to `d'`, only checked files are added for tasks. -/
structure OnlyChecked (d d' : Downloader) : Prop where
  /-- A job that is run adds checked files only, whether its task has ended or not. -/
  jobs : ∀ d₁ d₂ id j, Later d d₁ → Ran d₁ d₂ id j → ∃ added, AddsCheckedOnly d₁ d₂ id j added
  /-- Every file that was added for a task was added by such a job. -/
  files : ∀ x ∈ d'.shared.appends, ∃ d₁ d₂ j added, Later d d₁ ∧ Ran d₁ d₂ x.task j ∧
    Later d₂ d' ∧ AddsCheckedOnly d₁ d₂ x.task j added ∧ x.artifact ∈ added ∧
      x.artifact.verify d₁.shared.files = .ok ()
  /-- A job that is not alone adds checked files only, whatever others add to the classpath
  meanwhile and whatever becomes of the files. -/
  amid : ∀ d₁ id (j : Found) (trees : Nat → FileTree) (others : Nat → Classpath → Classpath),
    Later d d₁ → (∀ n (cp : Classpath), cp.Grows (others n cp)) →
      Registration.AddsChecked d₁.shared.files d₁.classpath j.artifacts
        (Registration.allAmid trees others d₁.shared.files (some id)
          d₁.config.settings.verifyArtifacts j.coordinate j.artifacts d₁.classpath)

/-- **Only checked files become loadable.** If artifacts are to be verified, then throughout every
run a job adds only files of artifacts that it has found missing and that it has checked before it
adds the first of them. -/
theorem only_checked_added {b : Builder} {files : FileTree} {environment : String → Option Bytes}
    (hb : b.build files environment = .ok d) (hv : b.settings.verifyArtifacts = true)
    (ms : List Move) : OnlyChecked d (d.moveAll ms).1 := by
  have hverify : ∀ d₁, Later d d₁ → d₁.config.settings.verifyArtifacts = true := by
    intro d₁ hc
    rw [config_changes hc, settings_of_build hb, hv]
  refine ⟨fun d₁ d₂ id j hc hran => ?_, fun x hx => ?_, fun d₁ id j trees others hc ho => ?_⟩
  · exact ⟨_, hran.addsCheckedOnly (hverify d₁ hc)⟩
  · obtain ⟨j, d₁, d₂, h₁, hran, h₂, hm⟩ :=
      ran_of_mem_appends (appends_of_build hb) (later_moveAll d ms) hx
    have hadds := hran.addsCheckedOnly (hverify d₁ h₁)
    have hpass := hadds.checked (List.ne_nil_of_mem hm) _ (hadds.pending.subset hm)
    exact ⟨d₁, d₂, j, _, h₁, hran, h₂, hadds, hm, hpass⟩
  · rw [hverify d₁ hc]
    exact Registration.addsChecked_amid ho _ _

/-- A download that has timed out has its job run after that. The job finds the first artifact
present, adds the file of the second, and finds the third present by then. -/
theorem only_checked_added_timed_out :
    let root : Coordinate := ⟨"org", "lib", some "1.0"⟩
    let lib : Artifact := ⟨root, ⟨"/lib-1.0"⟩, none⟩
    let core : Artifact := ⟨⟨"org", "core", none⟩, ⟨"/missing"⟩, none⟩
    let d := plain (fun _ _ => ⟨[], .artifacts [core, lib, lib]⟩) none (some (some ⟨0⟩))
      ⟨[(["core.jar"], .file []), (["lib-1.0"], .file [])], []⟩
    let d' := (d.moveAll [.act (.addFile ⟨"/core.jar"⟩), .act (.ensure root), .look 0, .job 0]).1
    d'.result? ⟨root.key, 0⟩ = some (.error (.timeout root.key ⟨0⟩)) ∧
      d'.classpath.loader.entries = ["/core.jar", "/lib-1.0"] ∧
      d'.shared.appends = [⟨0, lib⟩] ∧ OnlyChecked d d' := by
  intro root lib core d d'
  exact ⟨by decide +kernel, by decide +kernel, by decide +kernel,
    only_checked_added (build_plain _ _ _ _ fun _ => none) rfl _⟩

/-! ### No file twice -/

/-- In the step from `d` to `d'` a job of the task adds the file of an artifact, at the moment at
which the classpath is `cp`. -/
def AddsAt (d d' : Downloader) (id : Nat) (a : Artifact) (cp : Classpath) : Prop :=
  ∃ j before after, Ran d d' id j ∧ cp = d.classpath.withFiles before ∧
    d'.shared.appends = d.shared.appends ++ (before ++ a :: after).map (Append.mk id) ∧
    d'.classpath.loader.entries = cp.loader.entries ++ (a :: after).map fun a => a.file.text

theorem Ran.addsAt (h : Ran d d' id j) {before after : List Artifact} {a : Artifact}
    (ha : (d.registration id j).appended = before ++ a :: after) :
    AddsAt d d' id a (d.classpath.withFiles before) := by
  refine ⟨j, before, after, h, rfl, by rw [h.appends, ha], ?_⟩
  rw [h.entries, ha, List.map_append, ← List.append_assoc]
  rfl

theorem AddsAt.missing {a : Artifact} {cp : Classpath} (h : AddsAt d d' id a cp) :
    cp.Missing a.coordinate := by
  obtain ⟨j, before, after, hran, rfl, happ, -⟩ := h
  rw [hran.appends] at happ
  have hinj : Function.Injective (Append.mk id) := fun a b h => (Append.mk.inj h).2
  have ha := List.map_injective_iff.mpr hinj (List.append_cancel_left happ)
  exact Registration.missing_all _ _ _ _ _ _ ha

theorem grows_change (h : Change R d d') : d.classpath.Grows d'.classpath := by
  cases h with
  | pool h => exact grows_effect h.effect
  | tell e => exact Classpath.grows_deliver _ _ _
  | install | replace => exact .of_eq rfl rfl
  | add p => exact Classpath.grows_of_addFile rfl
  | submit | observe => exact .refl _

theorem grows_later (h : Later d d') : d.classpath.Grows d'.classpath :=
  of_changes (P := fun d' => d.classpath.Grows d'.classpath)
    (fun _ _ h hg => hg.trans (grows_change h)) h (.refl _)

/-- **Throughout every run** the classpath only grows. -/
theorem grows_moveAll (d : Downloader) (ms : List Move) :
    d.classpath.Grows (d.moveAll ms).1.classpath := grows_later (later_moveAll d ms)

/-- **Added files**: they are loaded, none contains the name of an artifact whose file was added
after it, and the resolver has named them. -/
structure AppendsSound (d : Downloader) : Prop where
  loaded : ∀ x ∈ d.shared.appends, x.artifact.file.text ∈ d.classpath.loader.entries
  apart : d.shared.appends.Pairwise fun x y =>
    Text.contains x.artifact.file.text y.artifact.coordinate.classpathName = false
  answered : ∀ x ∈ d.shared.appends, ∃ found, (x.task, .artifacts found) ∈ d.answers ∧
    x.artifact ∈ found

theorem AppendsSound.ran (hd : d.AppendsSound) (ha : AnswersSound d.config d.pool)
    (h : Ran d d' id j) : d'.AppendsSound := by
  have happ := h.appends
  refine ⟨fun x hx => ?_, ?_, fun x hx => ?_⟩
  · rw [happ, List.mem_append, List.mem_map] at hx
    rw [h.entries, List.mem_append, List.mem_map]
    obtain hx | ⟨a, ha, rfl⟩ := hx
    · exact .inl (hd.loaded x hx)
    · exact .inr ⟨a, ha, rfl⟩
  · rw [happ, List.pairwise_append, List.pairwise_map]
    refine ⟨hd.apart, Registration.apart_all _ _ _ _ _ _, fun x hx y hy => ?_⟩
    -- what was added before is an entry at the moment of the later one
    obtain ⟨b, hb, rfl⟩ := List.mem_map.mp hy
    obtain ⟨before, after, hsplit⟩ := List.append_of_mem hb
    exact (h.addsAt hsplit).missing.loader _ (List.mem_append_left _ (hd.loaded x hx))
  · rw [happ, List.mem_append, List.mem_map] at hx
    obtain hx | ⟨a, ha', rfl⟩ := hx
    · obtain ⟨found, hf, hm⟩ := hd.answered x hx
      exact ⟨found, answers_change (R := fun _ => True) h.change hf, hm⟩
    · have hrun := h
      obtain ⟨i, hi, -⟩ := hrun
      have hj := (ha.jobs (List.mem_of_getElem? hi)).2
      exact ⟨j.artifacts, answers_change (R := fun _ => True) h.change hj,
        Registration.appended_subset_all _ _ _ _ _ _ ha'⟩

theorem AppendsSound.change (hd : d.AppendsSound) (ha : AnswersSound d.config d.pool)
    (h : Change R d d') : d'.AppendsSound := by
  obtain ⟨id, j, hran⟩ | hsame := appends_change h
  · exact hd.ran ha hran
  · refine ⟨fun x hx => ?_, by rw [hsame]; exact hd.apart, fun x hx => ?_⟩
    · rw [hsame] at hx
      exact (grows_change h).entries.subset (hd.loaded x hx)
    · rw [hsame] at hx
      obtain ⟨found, hf, hm⟩ := hd.answered x hx
      exact ⟨found, answers_change h hf, hm⟩

/-- In a run from `d` to `d'`, nothing is added for a task that is present at that moment. -/
structure AddedOnce (d d' : Downloader) : Prop where
  /-- When a job adds a file, its artifact has a name, and no entry contains it. -/
  missing : ∀ d₁ d₂ id a cp, Later d d₁ → AddsAt d₁ d₂ id a cp → cp.Missing a.coordinate
  /-- Every file that was added for a task was added at such a moment. -/
  moment : ∀ x ∈ d'.shared.appends, ∃ d₁ d₂ cp, Later d d₁ ∧ AddsAt d₁ d₂ x.task x.artifact cp ∧
    Later d₂ d'
  /-- If the files that the resolver has named contain the names of their artifacts, then no two
  that were added are of one name, and none was added twice for a coordinate. -/
  once : (∀ id found, (id, .artifacts found) ∈ d'.answers → ∀ a ∈ found,
      Text.contains a.file.text a.coordinate.classpathName = true) →
    (d'.shared.appends.map fun x => x.artifact.coordinate.classpathName).Nodup ∧
      (d'.shared.appends.map fun x => (x.artifact.coordinate, x.artifact.file)).Nodup

/-- **Nothing is registered twice**, in any run in which jobs are run one after another. -/
theorem added_once {b : Builder} {files : FileTree} {environment : String → Option Bytes}
    (hb : b.build files environment = .ok d) (ms : List Move) :
    AddedOnce d (d.moveAll ms).1 := by
  have hc := later_moveAll d ms
  refine ⟨fun d₁ d₂ id a cp _ h => h.missing, fun x hx => ?_, fun hnames => ?_⟩
  · obtain ⟨j, d₁, d₂, h₁, hran, h₂, hm⟩ := ran_of_mem_appends (appends_of_build hb) hc hx
    obtain ⟨before, after, hsplit⟩ := List.append_of_mem hm
    exact ⟨d₁, d₂, _, h₁, hran.addsAt hsplit, h₂⟩
  · have hsound : AnswersSound (d.moveAll ms).1.config (d.moveAll ms).1.pool ∧
        (d.moveAll ms).1.AppendsSound := by
      refine of_changes (P := fun d => AnswersSound d.config d.pool ∧ d.AppendsSound)
        (fun _ _ h hd => ⟨answersSound_change h hd.1, hd.2.change hd.1 h⟩) hc
        ⟨answersSound_of_build hb, ?_⟩
      have hnil := appends_of_build hb
      constructor <;> simp [hnil]
    have hnamed : ∀ x ∈ (d.moveAll ms).1.shared.appends,
        Text.contains x.artifact.file.text x.artifact.coordinate.classpathName = true := by
      intro x hx
      obtain ⟨found, hf, hm⟩ := hsound.2.answered x hx
      exact hnames x.task found hf _ hm
    -- of two files of one name, the first would contain the name of the second
    have hnodup : ((d.moveAll ms).1.shared.appends.map fun x =>
        x.artifact.coordinate.classpathName).Nodup := by
      refine List.pairwise_map.mpr (hsound.2.apart.imp_of_mem fun {x y} hx _ hxy heq => ?_)
      have hxx := hnamed x hx
      rw [heq, hxy] at hxx
      cases hxx
    refine ⟨hnodup, List.Nodup.of_map (fun p => p.1.classpathName) ?_⟩
    rw [List.map_map]
    exact hnodup

/-- Two downloads whose resolver names a common artifact, and their own twice: what the second finds
present is not added again. -/
theorem added_once_overlapping :
    let lib (n : String) : Coordinate := ⟨"org", n, some "1.0"⟩
    let file (n : String) : Artifact := ⟨lib n, ⟨"/" ++ n ++ "-1.0"⟩, none⟩
    let d := plain (fun _ request => ⟨[], .artifacts (file "core" ::
        (request.coordinates ++ request.coordinates).map fun c => file c.artifact)⟩) none none
      ⟨[(["core-1.0"], .file []), (["a-1.0"], .file []), (["b-1.0"], .file [])], []⟩
    let d' := (d.moveAll [.act (.ensure (lib "a")), .act (.ensure (lib "b")), .look 0, .look 1,
      .job 0, .job 0]).1
    d'.shared.appends = [⟨0, file "core"⟩, ⟨0, file "a"⟩, ⟨1, file "b"⟩] ∧ AddedOnce d d' := by
  intro lib file d d'
  exact ⟨by decide +kernel, added_once (build_plain _ _ _ _ fun _ => none) _⟩

end ArtifactFetch.Downloader
