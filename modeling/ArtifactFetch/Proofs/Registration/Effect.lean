import ArtifactFetch.Proofs.Registration.Additions

/-! # What a registration that ends well has done

A registration that ends well has divided its artifacts in order: the files of some were added, and
the others were reported present (`Divides`). Which way an artifact goes is decided when its turn
comes, by the boot classpath, the class loader as it was at the start and the files that were added
for the artifacts before it, so an artifact of the list can hide a later one. Nothing else is done
to the class loader (`effect_of_ok`), whatever becomes of the files on disk meanwhile.

The checks beforehand are a gate. If an artifact that is not present fails them, the first that does
decides how the registration ends, and nothing is done; if none does, the registration does exactly
what it does without checks (`checks_gate`). -/

namespace ArtifactFetch

/-- An artifact counts as present behind files that were added: it has no name, or its name stands
in an entry of the boot classpath, in one of the class loader or in one of these files. -/
def Classpath.Serves (cp : Classpath) (files : List Path) (c : Coordinate) : Prop :=
  c.artifact = "" ∨ ∃ e ∈ cp.boot.entries ++ cp.loader.entries ++ files.map Path.text,
    c.classpathName.toList <:+: e.toList

section Serves
variable {cp cp' : Classpath} {files : List Path} {c : Coordinate}

theorem Classpath.isSome_lookup_iff_serves : (cp.lookup c).isSome ↔ cp.Serves [] c := by
  rw [Classpath.isSome_lookup_iff]
  unfold Classpath.Serves BootClasspath.contains ClassLoader.contains
  simp only [List.any_eq_true, Text.contains_iff, List.map_nil, List.append_nil, List.mem_append]
  constructor
  · rintro (hn | ⟨e, he, hc⟩ | ⟨e, he, hc⟩)
    · exact .inl hn
    · exact .inr ⟨e, .inl he, hc⟩
    · exact .inr ⟨e, .inr he, hc⟩
  · rintro (hn | ⟨e, he | he, hc⟩)
    · exact .inl hn
    · exact .inr (.inl ⟨e, he, hc⟩)
    · exact .inr (.inr ⟨e, he, hc⟩)

theorem Classpath.not_serves_of_lookup (h : cp.lookup c = none) : ¬ cp.Serves [] c := by
  rw [← Classpath.isSome_lookup_iff_serves, h]
  exact Bool.false_ne_true

/-- What was added last is the first of the files behind which others come. -/
theorem Classpath.serves_cons (hb : cp'.boot = cp.boot) {p : Path}
    (he : cp'.loader.entries = cp.loader.entries ++ [p.text]) :
    cp'.Serves files c ↔ cp.Serves (p :: files) c := by
  unfold Classpath.Serves
  rw [hb, he]
  simp only [List.map_cons, List.append_assoc, List.singleton_append]

theorem Classpath.serves_congr (hb : cp'.boot = cp.boot)
    (he : cp'.loader.entries = cp.loader.entries) : cp'.Serves files c ↔ cp.Serves files c := by
  unfold Classpath.Serves
  rw [hb, he]

end Serves

namespace Registration

/-! ### The two ways of an artifact -/

/-- The artifacts that went one way, of artifacts that each went one of two ways. -/
def going (way : Bool) (parts : List (Artifact × Bool)) : List Artifact :=
  (parts.filter (·.2 = way)).map Prod.fst

/-- **How artifacts are divided** into those whose files are added and those that are reported
present, each artifact with whether it is present when its turn comes. -/
structure Divides (cp : Classpath) (artifacts : List Artifact) (parts : List (Artifact × Bool))
    (added : List Path) (alreadyPresent : List Coordinate) : Prop where
  whole : parts.map Prod.fst = artifacts
  added : added = (going false parts).map Artifact.file
  alreadyPresent : alreadyPresent = (going true parts).map Artifact.coordinate
  /-- An artifact is present by what was there at the start and by the files that were added for
  the artifacts before it. -/
  decided : ∀ before a present after, parts = before ++ (a, present) :: after →
    (present = true ↔ cp.Serves ((going false before).map Artifact.file) a.coordinate)

namespace Divides

variable {cp cp' : Classpath} {a : Artifact} {rest : List Artifact}
  {parts : List (Artifact × Bool)} {added : List Path} {present : List Coordinate}

theorem nil (cp : Classpath) : Divides cp [] [] [] [] :=
  ⟨rfl, rfl, rfl, fun before a p after h => by simp at h⟩

/-- The artifact is present. -/
theorem report (h : Divides cp' rest parts added present) (hb : cp'.boot = cp.boot)
    (he : cp'.loader.entries = cp.loader.entries) (ha : cp.Serves [] a.coordinate) :
    Divides cp (a :: rest) ((a, true) :: parts) added (a.coordinate :: present) where
  whole := by rw [List.map_cons, h.whole]
  added := by simpa [going] using h.added
  alreadyPresent := by simp [going, h.alreadyPresent]
  decided before b p after hparts := by
    obtain ⟨rfl, hcons⟩ | ⟨before', rfl, hrest⟩ := List.cons_eq_append_iff.mp hparts
    · cases hcons
      exact iff_of_true rfl ha
    · have hfiles : going false ((a, true) :: before') = going false before' := by simp [going]
      rw [h.decided before' b p after hrest, hfiles, Classpath.serves_congr hb he]

/-- The file of the artifact is added. -/
theorem add (h : Divides cp' rest parts added present) (hb : cp'.boot = cp.boot)
    (he : cp'.loader.entries = cp.loader.entries ++ [a.file.text])
    (ha : ¬ cp.Serves [] a.coordinate) :
    Divides cp (a :: rest) ((a, false) :: parts) (a.file :: added) present where
  whole := by rw [List.map_cons, h.whole]
  added := by simp [going, h.added]
  alreadyPresent := by simpa [going] using h.alreadyPresent
  decided before b p after hparts := by
    obtain ⟨rfl, hcons⟩ | ⟨before', rfl, hrest⟩ := List.cons_eq_append_iff.mp hparts
    · cases hcons
      exact iff_of_false Bool.false_ne_true ha
    · have hfiles : going false ((a, false) :: before') = a :: going false before' := by
        simp [going]
      rw [h.decided before' b p after hrest, hfiles, List.map_cons, Classpath.serves_cons hb he]

end Divides

variable {t : FileTree} {task : Option Nat} {cp : Classpath} {s s' : Summary} {r : Registered}

/-- What one turn that goes well has done: the artifact was present and is reported, or it was not
and its file is added. -/
inductive Turned (cp : Classpath) (a : Artifact) (s : Summary) (r : Registered) : Summary → Prop
  | report (ha : cp.Serves [] a.coordinate) (hb : r.classpath.boot = cp.boot)
    (he : r.classpath.loader.entries = cp.loader.entries) :
    Turned cp a s r { s with alreadyPresent := s.alreadyPresent ++ [a.coordinate] }
  | add (ha : ¬ cp.Serves [] a.coordinate) (hb : r.classpath.boot = cp.boot)
    (he : r.classpath.loader.entries = cp.loader.entries ++ [a.file.text]) :
    Turned cp a s r { s with added := s.added ++ [a.file] }

theorem Registers.turned {a : Artifact} (h : Registers t task [a] cp s r)
    (hr : r.result = .ok s') : Turned cp a s r s' := by
  cases h with
  | reportPanic | refuse | addPanic => cases hr
  | report hl hn h =>
    cases h with
    | done =>
      cases hr
      exact .report (Classpath.isSome_lookup_iff_serves.mp (by rw [hl]; rfl))
        (Classpath.grows_of_notifyHit hn).boot (by rw [Classpath.loader_of_notifyHit hn])
  | add hl ha hn h =>
    cases h with
    | done =>
      cases hr
      have hg := (Classpath.grows_of_addFile ha).trans (Classpath.grows_of_deliver hn)
      refine .add (Classpath.not_serves_of_lookup hl) hg.boot ?_
      show _ = (cp.withEntry a.file).loader.entries
      rw [Classpath.loader_of_deliver hn, Classpath.fst_addFile_of_ok ha]

/-! ### The whole registration -/

/-- **What a registration that ended well has done** to the classpath and says in its summary. -/
structure Effect (cp : Classpath) (root : Coordinate) (artifacts : List Artifact) (r : Registered)
    (s : Summary) : Prop where
  coordinate : s.coordinate = root
  boot : r.classpath.boot = cp.boot
  /-- The class loader has got the files that were added and no others. -/
  entries : r.classpath.loader.entries = cp.loader.entries ++ s.added.map Path.text
  /-- Every artifact went one of the two ways. -/
  divides : ∃ parts, Divides cp artifacts parts s.added s.alreadyPresent

variable {trees : Nat → FileTree}

/-- Behind what is done, the artifacts are divided and added. -/
theorem divides_eachAmid : ∀ (as : List Artifact) (n : Nat) (cp : Classpath) (s : Summary)
    {s' : Summary}, (eachAmid trees (fun _ => id) task n as cp s).result = .ok s' →
      ∃ parts added present, Divides cp as parts added present ∧
        s' = ⟨s.coordinate, s.added ++ added, s.alreadyPresent ++ present⟩ ∧
        (eachAmid trees (fun _ => id) task n as cp s).classpath.boot = cp.boot ∧
        (eachAmid trees (fun _ => id) task n as cp s).classpath.loader.entries =
          cp.loader.entries ++ added.map Path.text
  | [], n, cp, s, s', hr => by
    cases hr
    exact ⟨[], [], [], .nil cp, by simp, rfl, by simp [eachAmid]⟩
  | a :: rest, n, cp, s, s', hr => by
    unfold eachAmid at hr ⊢
    dsimp only [id] at hr ⊢
    have hreg : Registers (trees n) task [a] cp s _ := registers_each _ _ _
    generalize each (trees n) task [a] cp s = turn at hreg hr ⊢
    rcases hturn : turn.result with f | done
    · simp [hturn] at hr
    · rw [hturn] at hr
      dsimp only at hr ⊢
      obtain ⟨parts, added, present, hd, hs, hb, he⟩ := divides_eachAmid rest _ _ _ hr
      -- the turn has made the classpath from which the rest is divided
      have hturned := hreg.turned hturn
      cases hturned with
      | report ha hb₁ he₁ =>
        refine ⟨_, _, _, hd.report hb₁ he₁ ha, ?_, hb.trans hb₁, ?_⟩
        · rw [hs, List.append_assoc, List.singleton_append]
        · rw [he, he₁]
      | add ha hb₁ he₁ =>
        refine ⟨_, _, _, hd.add hb₁ he₁ ha, ?_, hb.trans hb₁, ?_⟩
        · rw [hs, List.append_assoc, List.singleton_append]
        · rw [he, he₁, List.append_assoc, List.map_cons, List.singleton_append]

theorem effect_allAmid {verify : Bool} {root : Coordinate} {artifacts : List Artifact}
    (h : (allAmid trees (fun _ => id) t task verify root artifacts cp).result = .ok s) :
    Effect cp root artifacts (allAmid trees (fun _ => id) t task verify root artifacts cp) s := by
  unfold allAmid at h ⊢
  dsimp only at h ⊢
  generalize (if verify then Artifact.verifyAll t (cp.pending artifacts) else .ok ()) = checked
    at h ⊢
  rcases checked with e | ⟨⟩
  · cases h
  · obtain ⟨parts, added, present, hd, rfl, hb, he⟩ := divides_eachAmid artifacts 0 cp _ h
    exact ⟨rfl, hb, he, parts, hd⟩

theorem effect_all {verify : Bool} {root : Coordinate} {artifacts : List Artifact}
    (h : (all t task verify root artifacts cp).result = .ok s) :
    Effect cp root artifacts (all t task verify root artifacts cp) s := by
  rw [all_eq_amid] at h ⊢
  exact effect_allAmid h

/-- **What a registration that ends well has done**, to the classpath and for its artifacts. It is
the same whatever becomes of the files while it is under way. -/
theorem effect_of_ok (t : FileTree) (task : Option Nat) (verify : Bool) (root : Coordinate)
    (artifacts : List Artifact) (cp : Classpath) :
    (∀ s, (all t task verify root artifacts cp).result = .ok s →
      Effect cp root artifacts (all t task verify root artifacts cp) s) ∧
    ∀ (trees : Nat → FileTree) (s : Summary),
      (allAmid trees (fun _ => id) t task verify root artifacts cp).result = .ok s →
        Effect cp root artifacts (allAmid trees (fun _ => id) t task verify root artifacts cp) s :=
  ⟨fun _ h => effect_all h, fun _ _ h => effect_allAmid h⟩

/-- Of five artifacts the files of two are added. The first of these hides a shorter name and its
own repetition, one artifact is on the boot classpath, and one has no name. -/
theorem effect_of_ok_hidden :
    let t : FileTree := ⟨[(["tar-ball-1.0"], .file []), (["c-2"], .file [])], []⟩
    let ball : Artifact := ⟨⟨"org", "ball", some "1.0"⟩, ⟨"/tar-ball-1.0"⟩, none⟩
    let tar : Artifact := ⟨⟨"org", "tar", none⟩, ⟨"/gone"⟩, none⟩
    let nameless : Artifact := ⟨⟨"org", "", some "1"⟩, ⟨"/gone"⟩, none⟩
    let boot : Artifact := ⟨⟨"org", "b", none⟩, ⟨"/gone"⟩, none⟩
    let c : Artifact := ⟨⟨"org", "c", some "2"⟩, ⟨"/c-2"⟩, none⟩
    let cp : Classpath := ⟨⟨["/boot/b-1"]⟩, ⟨ClassLoader.checkRegular, ["/x"]⟩, ⟨none, []⟩⟩
    let r := all t none false ball.coordinate [ball, tar, nameless, boot, c, ball] cp
    let s : Summary := ⟨ball.coordinate, [ball.file, c.file],
      [tar.coordinate, nameless.coordinate, boot.coordinate, ball.coordinate]⟩
    r.result = .ok s ∧ r.classpath.loader.entries = ["/x", "/tar-ball-1.0", "/c-2"] ∧
      Effect cp ball.coordinate [ball, tar, nameless, boot, c, ball] r s := by
  intro t ball tar nameless boot c cp r s
  have h : r.result = .ok s := by decide +kernel
  exact ⟨h, by decide +kernel, (effect_of_ok _ _ _ _ _ _).1 s h⟩

/-! ### The gate -/

/-- The artifact is present, or it passes the checks. -/
def Passes (t : FileTree) (cp : Classpath) (a : Artifact) : Prop :=
  cp.lookup a.coordinate = none → a.verify t = .ok ()

/-- An artifact that is not present fails the checks, and none before it does. -/
structure FirstFault (t : FileTree) (cp : Classpath) (artifacts before : List Artifact)
    (a : Artifact) (e : FetchError) : Prop where
  split : ∃ after, artifacts = before ++ a :: after
  absent : cp.lookup a.coordinate = none
  fails : a.verify t = .error e
  passed : ∀ b ∈ before, Passes t cp b

/-- Some artifact that is not present fails the checks. -/
def Faulty (t : FileTree) (cp : Classpath) (artifacts : List Artifact) : Prop :=
  ∃ a ∈ artifacts, cp.lookup a.coordinate = none ∧ a.verify t ≠ .ok ()

section Passes
variable {a b : Artifact} {as before : List Artifact} {e : FetchError} (ha : Passes t cp a)
include ha

/-- The checks do not stop at an artifact that is present or passes them. -/
theorem verifyAll_pending_cons :
    Artifact.verifyAll t (cp.pending (a :: as)) = Artifact.verifyAll t (cp.pending as) := by
  rcases hl : cp.lookup a.coordinate with _ | hit
  · rw [Classpath.pending_cons_of_absent as hl, Artifact.verifyAll, ha hl]
  · rw [Classpath.pending_cons_of_present as hl]

theorem FirstFault.behind (h : FirstFault t cp as before b e) :
    FirstFault t cp (a :: as) (a :: before) b e := by
  obtain ⟨after, rfl⟩ := h.split
  exact ⟨⟨after, rfl⟩, h.absent, h.fails, List.forall_mem_cons.mpr ⟨ha, h.passed⟩⟩

theorem Faulty.behind (h : Faulty t cp (a :: as)) : Faulty t cp as := by
  obtain ⟨b, hb, hl, hv⟩ := h
  rcases List.mem_cons.mp hb with rfl | hb
  · exact absurd (ha hl) hv
  · exact ⟨b, hb, hl, hv⟩

end Passes

/-- The checks stop at the first fault. -/
theorem verifyAll_pending_of_faulty : ∀ {as : List Artifact}, Faulty t cp as →
    ∃ before a e, FirstFault t cp as before a e ∧
      Artifact.verifyAll t (cp.pending as) = .error e
  | [], h => by
    obtain ⟨a, ha, -⟩ := h
    cases ha
  | a :: rest, h => by
    by_cases ha : Passes t cp a
    · obtain ⟨before, b, e, hfirst, he⟩ := verifyAll_pending_of_faulty (h.behind ha)
      exact ⟨a :: before, b, e, hfirst.behind ha, (verifyAll_pending_cons ha).trans he⟩
    · obtain ⟨hl, hv⟩ := Classical.not_imp.mp ha
      rcases he : a.verify t with e | ⟨⟩
      · refine ⟨[], a, e, ⟨⟨rest, rfl⟩, hl, he, fun b hb => absurd hb List.not_mem_nil⟩, ?_⟩
        rw [Classpath.pending_cons_of_absent rest hl, Artifact.verifyAll, he]
      · exact absurd he hv

theorem verifyAll_congr {t' : FileTree} : ∀ {as : List Artifact},
    (∀ a ∈ as, a.verify t' = a.verify t) → Artifact.verifyAll t' as = Artifact.verifyAll t as
  | [], _ => rfl
  | a :: as, h => by
    rw [Artifact.verifyAll, Artifact.verifyAll, h a List.mem_cons_self,
      verifyAll_congr fun b hb => h b (List.mem_cons_of_mem _ hb)]

theorem all_of_fault {root : Coordinate} {artifacts : List Artifact} {e : FetchError}
    (h : Artifact.verifyAll t (cp.pending artifacts) = .error e) :
    all t task true root artifacts cp = ⟨cp, [], .error (.error e)⟩ := by
  simp [all, h]

/-- **The checks are a gate** before a registration. -/
structure Gate (t : FileTree) (task : Option Nat) (root : Coordinate) (artifacts : List Artifact)
    (cp : Classpath) : Prop where
  /-- The first artifact that is absent and fails the checks decides, and nothing is done. -/
  shut : Faulty t cp artifacts → ∃ before a e, FirstFault t cp artifacts before a e ∧
    all t task true root artifacts cp = ⟨cp, [], .error (.error e)⟩
  /-- The files of artifacts that are present have no say in that. -/
  blind : Faulty t cp artifacts → ∀ t', (∀ a ∈ artifacts, cp.lookup a.coordinate = none →
      a.verify t' = a.verify t) →
    all t' task true root artifacts cp = all t task true root artifacts cp
  /-- If none fails, everything is as without checks. -/
  clear : ¬ Faulty t cp artifacts →
    all t task true root artifacts cp = all t task false root artifacts cp

/-- **The checks are a gate.** If an artifact fails them that is not present when the registration
begins, the registration fails as the first such artifact does and leaves the class loader and the
listener alone, whatever the files of artifacts are like that are present; if none does, it does and
ends as it would without checks. -/
theorem checks_gate (t : FileTree) (task : Option Nat) (root : Coordinate)
    (artifacts : List Artifact) (cp : Classpath) : Gate t task root artifacts cp := by
  refine ⟨fun hf => ?_, fun hf t' ht' => ?_, fun hf => ?_⟩
  · obtain ⟨before, a, e, hfirst, he⟩ := verifyAll_pending_of_faulty hf
    exact ⟨before, a, e, hfirst, all_of_fault he⟩
  · obtain ⟨before, a, e, -, he⟩ := verifyAll_pending_of_faulty hf
    have hsame : Artifact.verifyAll t' (cp.pending artifacts) =
        Artifact.verifyAll t (cp.pending artifacts) := by
      refine verifyAll_congr fun b hb => ?_
      obtain ⟨hm, hl⟩ := Classpath.mem_pending.mp hb
      exact ht' b hm hl
    rw [all_of_fault he, all_of_fault (hsame.trans he)]
  · have hpass : Artifact.verifyAll t (cp.pending artifacts) = .ok () := by
      refine Artifact.verifyAll_eq_ok_iff.mpr fun a ha => ?_
      obtain ⟨hm, hl⟩ := Classpath.mem_pending.mp ha
      by_contra hv
      exact hf ⟨a, hm, hl, hv⟩
    simp [all, hpass]

/-- Of two artifacts that are absent and have no files, the first decides. That the file of one that
is present is gone as well does not count, so the gate is clear for that one and one with a file. -/
theorem checks_gate_two_faults :
    let t : FileTree := ⟨[(["c-2"], .file [])], []⟩
    let present : Artifact := ⟨⟨"org", "b", none⟩, ⟨"/gone"⟩, none⟩
    let good : Artifact := ⟨⟨"org", "c", some "2"⟩, ⟨"/c-2"⟩, none⟩
    let bad (name : String) : Artifact := ⟨⟨"org", name, none⟩, ⟨"/" ++ name⟩, none⟩
    let cp : Classpath := ⟨⟨["/boot/b-1"]⟩, .regular, ⟨none, []⟩⟩
    let as := [present, good, bad "x", bad "y"]
    Faulty t cp as ∧ ¬ Faulty t cp [present, good] ∧
      (all t none true good.coordinate as cp).result =
        .error (.error (.io ⟨"/x"⟩ .noEntry)) ∧
      all t none true good.coordinate [present, good] cp =
        all t none false good.coordinate [present, good] cp ∧
      Gate t none good.coordinate as cp := by
  intro t present good bad cp as
  have hclear : ¬ Faulty t cp [present, good] := by
    rintro ⟨a, ha, hl, hv⟩
    obtain rfl | rfl := List.mem_pair.mp ha
    · exact absurd hl (by decide +kernel)
    · exact hv (by decide +kernel)
  exact ⟨⟨bad "x", by simp [as], by decide +kernel, by decide +kernel⟩, hclear, by decide +kernel,
    (checks_gate t none good.coordinate [present, good] cp).clear hclear,
    checks_gate t none good.coordinate as cp⟩

end Registration

end ArtifactFetch
