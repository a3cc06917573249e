import ArtifactFetch.Proofs.Registration.Atomic

/-! # What a registration adds, and when

Every file that a registration adds is missing at that moment: no entry of the boot classpath, of
the class loader or of the files added before it in the same registration contains the name of its
artifact (`Registers.missing`). What is missing then was missing at the start, so it was among the
artifacts that were checked before anything was added (`addsChecked_all`).

The second statement does not need that a registration is alone. `allAmid` is a registration between
whose turns others add entries, replace files and install listeners; `all` is the one in which
nobody does (`all_eq_amid`), and the statement holds of both (`addsChecked_amid`). -/

namespace ArtifactFetch

namespace Classpath

/-- The classpath with the files of artifacts as further entries of its class loader. -/
def withFiles (cp : Classpath) (as : List Artifact) : Classpath :=
  { cp with loader :=
    { cp.loader with entries := cp.loader.entries ++ as.map fun a => a.file.text } }

/-- An artifact has a name, and no entry of either classpath contains it. -/
structure Missing (cp : Classpath) (c : Coordinate) : Prop where
  named : c.artifact ≠ ""
  boot : ∀ e ∈ cp.boot.entries, Text.contains e c.classpathName = false
  loader : ∀ e ∈ cp.loader.entries, Text.contains e c.classpathName = false

variable {cp cp' : Classpath}

theorem withFiles_nil (cp : Classpath) : cp.withFiles [] = cp := by
  simp [withFiles]

theorem withFiles_cons (cp : Classpath) (a : Artifact) (as : List Artifact) :
    cp.withFiles (a :: as) = (cp.withEntry a.file).withFiles as := by
  simp [withFiles, withEntry]

theorem missing_of_lookup {c : Coordinate} (h : cp.lookup c = none) : cp.Missing c := by
  have hs : ¬ (c.artifact = "" ∨ cp.boot.contains c.classpathName = true ∨
      cp.loader.contains c.classpathName = true) := by
    rw [← isSome_lookup_iff, h]
    exact Bool.false_ne_true
  refine ⟨fun hn => hs (.inl hn), fun e he => ?_, fun e he => ?_⟩
  · by_contra hc
    exact hs (.inr (.inl (List.any_eq_true.mpr ⟨e, he, by simpa using hc⟩)))
  · by_contra hc
    exact hs (.inr (.inr (List.any_eq_true.mpr ⟨e, he, by simpa using hc⟩)))

theorem pending_cons (cp : Classpath) (a : Artifact) (as : List Artifact) :
    cp.pending (a :: as) = cp.pending [a] ++ cp.pending as := by
  rw [pending, pending, pending, ← List.filter_append]
  rfl

end Classpath

namespace Registration

variable {t : FileTree} {task : Option Nat} {cp : Classpath} {as : List Artifact} {s : Summary}
  {r : Registered}

/-! ### At the moment a file is added -/

/-- **What is added is missing** when its turn comes. -/
theorem Registers.missing (h : Registers t task as cp s r) : ∀ {before after : List Artifact}
    {a : Artifact}, r.appended = before ++ a :: after →
      (cp.withFiles before).Missing a.coordinate := by
  induction h with
  | done | refuse | reportPanic =>
    intro before after a hr
    simp at hr
  | @report a rest cp cp' s hit r hl hn _ ih =>
    intro before after b hr
    have hb := (Classpath.grows_of_notifyHit hn).boot
    have hm := ih hr
    rw [Classpath.withFiles, Classpath.loader_of_notifyHit hn] at hm
    exact ⟨hm.named, fun e he => hm.boot e (by rwa [hb]), hm.loader⟩
  | @addPanic a rest cp cp₁ cp₂ s p hl ha hn =>
    intro before after b hr
    obtain ⟨rfl, hr⟩ | ⟨before', rfl, hr⟩ := List.append_eq_cons_iff.mp hr.symm
    · obtain ⟨rfl, -⟩ := List.cons.inj hr
      rw [Classpath.withFiles_nil]
      exact Classpath.missing_of_lookup hl
    · simp at hr
  | @add a rest cp cp₁ cp₂ s r hl ha hn _ ih =>
    intro before after b hr
    obtain ⟨rfl, hr⟩ | ⟨before', rfl, hr⟩ := List.append_eq_cons_iff.mp hr.symm
    · obtain ⟨rfl, -⟩ := List.cons.inj hr
      rw [Classpath.withFiles_nil]
      exact Classpath.missing_of_lookup hl
    · have hr' : r.appended = before' ++ b :: after := (List.cons.inj hr).2
      have hb : cp₂.boot = cp.boot :=
        ((Classpath.grows_of_addFile ha).trans (Classpath.grows_of_deliver hn)).boot
      have hld : cp₂.loader = (cp.withEntry a.file).loader := by
        rw [Classpath.loader_of_deliver hn, Classpath.fst_addFile_of_ok ha]
      have hm := ih hr'
      rw [Classpath.withFiles, hld] at hm
      rw [Classpath.withFiles_cons]
      exact ⟨hm.named, fun e he => hm.boot e (by rwa [hb]), hm.loader⟩

/-- What is added was not present at the start. -/
theorem Registers.appended_sublist (h : Registers t task as cp s r) :
    r.appended.Sublist (cp.pending as) := by
  induction h with
  | done | refuse | reportPanic => exact List.nil_sublist _
  | @report a rest cp cp' s hit r hl hn _ ih =>
    rw [Classpath.pending_cons_of_present rest hl]
    exact ih.trans ((Classpath.grows_of_notifyHit hn).pending rest)
  | @addPanic a rest cp cp₁ cp₂ s p hl ha hn =>
    rw [Classpath.pending_cons_of_absent rest hl]
    exact (List.nil_sublist _).cons_cons a
  | @add a rest cp cp₁ cp₂ s r hl ha hn _ ih =>
    have hg := (Classpath.grows_of_addFile ha).trans (Classpath.grows_of_deliver hn)
    rw [Classpath.pending_cons_of_absent rest hl]
    exact (ih.trans (hg.pending rest)).cons_cons a

section All
variable (t : FileTree) (task : Option Nat) (verify : Bool) (root : Coordinate)
  (artifacts : List Artifact) (cp : Classpath)

theorem entries_all : (all t task verify root artifacts cp).classpath.loader.entries =
    cp.loader.entries ++
      (all t task verify root artifacts cp).appended.map fun a => a.file.text := by
  obtain ⟨e, -, -, h⟩ | ⟨-, h⟩ := all_eq t task verify root artifacts cp
  · rw [h]
    exact (List.append_nil _).symm
  · rw [h]
    exact (registers_each _ _ _).entries

theorem missing_all {before after : List Artifact} {a : Artifact}
    (hr : (all t task verify root artifacts cp).appended = before ++ a :: after) :
    (cp.withFiles before).Missing a.coordinate := by
  obtain ⟨e, -, -, h⟩ | ⟨-, h⟩ := all_eq t task verify root artifacts cp
  · rw [h] at hr
    simp at hr
  · rw [h] at hr
    exact (registers_each _ _ _).missing hr

theorem appended_subset_all : (all t task verify root artifacts cp).appended ⊆ artifacts := by
  obtain ⟨e, -, -, h⟩ | ⟨-, h⟩ := all_eq t task verify root artifacts cp
  · rw [h]
    exact List.nil_subset _
  · rw [h]
    exact ((registers_each _ _ _).appended_sublist.trans List.filter_sublist).subset

/-- No file that is added contains the name of an artifact that is added after it. -/
theorem apart_all : (all t task verify root artifacts cp).appended.Pairwise fun a b =>
    Text.contains a.file.text b.coordinate.classpathName = false := by
  refine List.pairwise_iff_getElem.mpr fun i k hi hk hik => ?_
  have hsplit := (List.take_append_drop k (all t task verify root artifacts cp).appended).symm
  rw [List.drop_eq_getElem_cons hk] at hsplit
  have hm := missing_all _ _ _ _ _ _ hsplit
  refine hm.loader _ (List.mem_append_right _ (List.mem_map.mpr ⟨_, ?_, rfl⟩))
  exact List.mem_take_iff_getElem.mpr ⟨i, by omega, rfl⟩

end All

/-! ### Others at work -/

/-- Registers artifacts one after another while others are at work: before the turn of each, the
files and the classpath are what they have made of them. -/
def eachAmid (trees : Nat → FileTree) (others : Nat → Classpath → Classpath) (task : Option Nat) :
    Nat → List Artifact → Classpath → Summary → Registered
  | _, [], cp, done => ⟨cp, [], .ok done⟩
  | n, a :: rest, cp, done =>
    let r := each (trees n) task [a] (others n cp) done
    match r.result with
    | .error _ => r
    | .ok done =>
      let r' := eachAmid trees others task (n + 1) rest r.classpath done
      { r' with appended := r.appended ++ r'.appended }

/-- Registers the artifacts that were found for a coordinate while others are at work. -/
def allAmid (trees : Nat → FileTree) (others : Nat → Classpath → Classpath) (t : FileTree)
    (task : Option Nat) (verify : Bool) (root : Coordinate) (artifacts : List Artifact)
    (cp : Classpath) : Registered :=
  let checked := if verify then Artifact.verifyAll t (cp.pending artifacts) else .ok ()
  match checked with
  | .error e => ⟨cp, [], .error (.error e)⟩
  | .ok () => eachAmid trees others task 0 artifacts cp ⟨root, [], []⟩

theorem each_eq_amid : ∀ (as : List Artifact) (n : Nat) (cp : Classpath) (s : Summary),
    each t task as cp s = eachAmid (fun _ => t) (fun _ => id) task n as cp s
  | [], _, _, _ => rfl
  | a :: rest, n, cp, s => by
    have ih := each_eq_amid rest (n + 1)
    unfold eachAmid
    rcases hl : cp.lookup a.coordinate with _ | hit
    · rcases ha : cp.addFile t a.file with ⟨cp₁, f | ⟨⟩⟩
      · simp [each, hl, ha]
      · rcases hn : cp₁.deliver task (.added a.coordinate a.file) with ⟨cp₂, _ | p⟩
        · simp [each, hl, ha, hn, ih]
        · simp [each, hl, ha, hn]
    · rcases hn : cp.notifyHit task a.coordinate hit with ⟨cp', _ | p⟩
      · simp [each, hl, hn, ih]
      · simp [each, hl, hn]

/-- **A registration alone** is one among others who do nothing. -/
theorem all_eq_amid (verify : Bool) (root : Coordinate) (artifacts : List Artifact) :
    all t task verify root artifacts cp =
      allAmid (fun _ => t) (fun _ => id) t task verify root artifacts cp := by
  unfold all allAmid
  dsimp only
  generalize (if verify then Artifact.verifyAll t (cp.pending artifacts) else .ok ()) = checked
  rcases checked with e | ⟨⟩
  · rfl
  · exact each_eq_amid artifacts 0 cp _

variable {trees : Nat → FileTree} {others : Nat → Classpath → Classpath}

theorem eachAmid_sublist (ho : ∀ n (cp : Classpath), cp.Grows (others n cp)) :
    ∀ (as : List Artifact) (n : Nat) (cp : Classpath) (s : Summary),
      (eachAmid trees others task n as cp s).appended.Sublist (cp.pending as)
  | [], _, _, _ => List.nil_sublist _
  | a :: rest, n, cp, s => by
    have hreg : Registers (trees n) task [a] (others n cp) s _ := registers_each _ _ _
    have hone := hreg.appended_sublist.trans ((ho n cp).pending [a])
    have hg := (ho n cp).trans hreg.grows
    rw [Classpath.pending_cons]
    unfold eachAmid
    dsimp only
    split
    · exact hone.trans (List.sublist_append_left _ _)
    · next done _ =>
      have hrest := (eachAmid_sublist ho rest (n + 1) _ done).trans (hg.pending rest)
      exact hone.append hrest

/-! ### Checks -/

/-- **What is added has passed the checks**: it is among what was not present at the start, and all
of that has passed before anything is added. -/
structure AddsChecked (t : FileTree) (cp : Classpath) (artifacts : List Artifact) (r : Registered) :
    Prop where
  pending : r.appended.Sublist (cp.pending artifacts)
  checked : r.appended ≠ [] → ∀ a ∈ cp.pending artifacts, a.verify t = .ok ()

theorem AddsChecked.verify {artifacts : List Artifact} (h : AddsChecked t cp artifacts r)
    {a : Artifact} (ha : a ∈ r.appended) : a.verify t = .ok () :=
  h.checked (List.ne_nil_of_mem ha) a (h.pending.subset ha)

/-- What was left out of the checks is not added. -/
theorem AddsChecked.not_mem {artifacts : List Artifact} (h : AddsChecked t cp artifacts r)
    {a : Artifact} (ha : (cp.lookup a.coordinate).isSome) : a ∉ r.appended := by
  intro hm
  rw [(Classpath.mem_pending.mp (h.pending.subset hm)).2] at ha
  cases ha

theorem addsChecked_amid (ho : ∀ n (cp : Classpath), cp.Grows (others n cp)) (root : Coordinate)
    (artifacts : List Artifact) :
    AddsChecked t cp artifacts (allAmid trees others t task true root artifacts cp) := by
  unfold allAmid
  rcases hv : Artifact.verifyAll t (cp.pending artifacts) with e | ⟨⟩
  · exact ⟨List.nil_sublist _, fun h => absurd rfl h⟩
  · exact ⟨eachAmid_sublist ho _ _ _ _, fun _ => Artifact.verifyAll_eq_ok_iff.mp hv⟩

theorem addsChecked_all (root : Coordinate) (artifacts : List Artifact) :
    AddsChecked t cp artifacts (all t task true root artifacts cp) := by
  rw [all_eq_amid]
  exact addsChecked_amid (fun _ cp => .refl cp) root artifacts

end Registration

end ArtifactFetch
