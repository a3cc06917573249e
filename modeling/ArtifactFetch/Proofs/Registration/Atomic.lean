import ArtifactFetch.Proofs.Artifact.Checks
import ArtifactFetch.Proofs.Registration.Steps

/-! # Registering all or nothing

With a listener that does not panic, a registration adds the files of the artifacts that are not
present when their turn comes (`Classpath.fresh`), up to the first that the class loader refuses,
and fails if there is one (`Registers.appended_eq`). The checks beforehand rule that out for all but
a directory without a digest and the null device, unless their names are those of archives
(`slips_iff`). Behind another file such an artifact makes the registration fail half way, and in no
other case does a registration that fails leave a trace (`all_or_nothing_iff`). -/

namespace ArtifactFetch

/-- The artifacts that are not present when their turn comes, if the files of those before them are
added. -/
def Classpath.fresh (cp : Classpath) : List Artifact → List Artifact
  | [] => []
  | a :: rest =>
    if (cp.lookup a.coordinate).isSome then cp.fresh rest
    else a :: (cp.withEntry a.file).fresh rest

/-- The class loader accepts the file of the artifact. -/
def Classpath.accepts (cp : Classpath) (t : FileTree) (a : Artifact) : Bool :=
  (cp.loader.check t a.file).isOk

/-- The file of the artifact is a regular one. -/
def Artifact.isRegular (t : FileTree) (a : Artifact) : Bool :=
  match t.stat a.file with
  | .ok (.file _) => true
  | _ => false

/-- What the checks let pass although it is no regular file: a directory without a digest, or the
null device without a digest or with that of no content, if it is not named like an archive. -/
def Artifact.Slips (t : FileTree) (a : Artifact) : Prop :=
  Artifact.isArchive a.file = false ∧
    ((t.stat a.file = .ok .dir ∧ a.sha1 = none) ∨ (t.stat a.file = .ok .null ∧
      ∀ expected, a.sha1 = some expected →
        Artifact.equalIgnoringCase (Artifact.digestOf []) expected = true))

namespace Registration

variable {t : FileTree} {task : Option Nat} {cp cp' : Classpath}

/-! ### What is added -/

theorem lookup_congr (hb : cp'.boot = cp.boot) (hl : cp'.loader = cp.loader) (c : Coordinate) :
    cp'.lookup c = cp.lookup c := by
  unfold Classpath.lookup
  rw [hb, hl]

theorem fresh_congr : ∀ (as : List Artifact) {cp cp' : Classpath}, cp'.boot = cp.boot →
    cp'.loader = cp.loader → cp'.fresh as = cp.fresh as
  | [], _, _, _, _ => rfl
  | a :: rest, cp, cp', hb, hl => by
    have hw : (cp'.withEntry a.file).loader = (cp.withEntry a.file).loader := by
      unfold Classpath.withEntry
      rw [hl]
    rw [Classpath.fresh, Classpath.fresh, lookup_congr hb hl, fresh_congr rest hb hl,
      @fresh_congr rest (cp.withEntry a.file) (cp'.withEntry a.file) hb hw]

theorem fresh_of_present {a : Artifact} (rest : List Artifact)
    (h : (cp.lookup a.coordinate).isSome) : cp.fresh (a :: rest) = cp.fresh rest := by
  rw [Classpath.fresh, if_pos h]

theorem fresh_of_absent {a : Artifact} (rest : List Artifact)
    (h : cp.lookup a.coordinate = none) :
    cp.fresh (a :: rest) = a :: (cp.withEntry a.file).fresh rest := by
  rw [Classpath.fresh, if_neg (by rw [h]; exact Bool.false_ne_true)]

/-- What is added is looked for before anything is. -/
theorem mem_pending_of_fresh : ∀ {as : List Artifact} {cp : Classpath} {a : Artifact},
    a ∈ cp.fresh as → a ∈ cp.pending as
  | [], _, _, h => h
  | b :: rest, cp, a, h => by
    rcases hl : cp.lookup b.coordinate with _ | hit
    · rw [fresh_of_absent rest hl] at h
      rw [Classpath.pending_cons_of_absent rest hl]
      rcases List.mem_cons.mp h with rfl | ha
      · exact List.mem_cons_self
      · have hg := (Classpath.grows_withEntry cp b.file).pending rest
        exact List.mem_cons_of_mem _ (hg.subset (mem_pending_of_fresh ha))
    · rw [fresh_of_present rest (by rw [hl]; rfl)] at h
      rw [Classpath.pending_cons_of_present rest hl]
      exact mem_pending_of_fresh h

/-- **What a registration adds**, and when it ends well. -/
theorem Registers.appended_eq {as : List Artifact} {s : Summary} {r : Registered}
    (h : Registers t task as cp s r) (hq : ∀ e, cp.Quiet e) :
    r.appended = (cp.fresh as).takeWhile (cp.accepts t) ∧
      (r.result.isOk = true ↔ ∀ a ∈ cp.fresh as, cp.accepts t a = true) := by
  induction h with
  | done => exact ⟨rfl, fun _ a ha => absurd ha List.not_mem_nil, fun _ => rfl⟩
  | reportPanic _ hn => exact absurd hn (hq _).notifyHit_ne
  | @report a rest cp cp' s hit r hl hn _ ih =>
    have hacc : cp'.accepts t = cp.accepts t := by
      unfold Classpath.accepts
      rw [Classpath.loader_of_notifyHit hn]
    rw [fresh_of_present rest (by rw [hl]; rfl),
      ← fresh_congr rest (Classpath.grows_of_notifyHit hn).boot (Classpath.loader_of_notifyHit hn),
      ← hacc]
    exact ih fun e => (hq e).of_notifyHit hn
  | @refuse a rest cp s f hl ha =>
    have hacc : cp.accepts t a = false := by
      unfold Classpath.accepts
      rw [Classpath.check_of_addFile ha]
      rfl
    rw [fresh_of_absent rest hl]
    refine ⟨?_, fun hr => ?_, fun hall => ?_⟩
    · rw [List.takeWhile_cons_of_neg (by rw [hacc]; exact Bool.false_ne_true)]
    · cases hr
    · rw [hall a List.mem_cons_self] at hacc
      cases hacc
  | addPanic _ ha hn => exact absurd hn ((hq _).of_addFile ha).deliver_ne
  | @add a rest cp cp₁ cp₂ s r hl ha hn _ ih =>
    have hacc : cp.accepts t a = true := by
      unfold Classpath.accepts
      rw [Classpath.check_of_addFile ha]
      rfl
    have hcp₁ := Classpath.fst_addFile_of_ok ha
    have hacc₂ : cp₂.accepts t = cp.accepts t := by
      unfold Classpath.accepts
      rw [Classpath.loader_of_deliver hn, hcp₁]
      rfl
    obtain ⟨happ, hok⟩ := ih fun e => ((hq e).of_addFile ha).of_deliver hn
    have hfresh : cp₂.fresh rest = (cp.withEntry a.file).fresh rest := by
      rw [← hcp₁]
      exact fresh_congr rest (Classpath.grows_of_deliver hn).boot (Classpath.loader_of_deliver hn)
    rw [hacc₂, hfresh] at happ hok
    rw [fresh_of_absent rest hl, List.takeWhile_cons_of_pos hacc, List.forall_mem_cons]
    exact ⟨by rw [happ], hok.trans ⟨fun h => ⟨hacc, h⟩, And.right⟩⟩

/-! ### What the checks let pass -/

/-- **What passes the checks although it is no regular file.** -/
theorem slips_iff {a : Artifact} : a.Slips t ↔ a.verify t = .ok () ∧ a.isRegular t = false := by
  unfold Artifact.Slips Artifact.isRegular
  rw [Artifact.verify_eq_ok_iff, Artifact.checkDigest_eq_ok_iff, Artifact.checkArchive_eq_ok_iff]
  simp only [FileTree.canOpen_eq_ok_iff, FileTree.read_eq_ok_iff]
  rcases t.stat a.file with e | _ | content | _
  · simp
  · rcases a.sha1 with _ | expected <;> simp
  · simp
  · simp [Artifact.check_nil, and_comm]

theorem accepts_eq_isRegular (hc : cp.loader.check = ClassLoader.checkRegular) :
    cp.accepts t = Artifact.isRegular t := by
  funext a
  unfold Classpath.accepts Artifact.isRegular
  rw [hc, ClassLoader.checkRegular]
  rcases t.stat a.file with e | _ | content | _ <;> rfl

/-! ### All or nothing -/

variable {root : Coordinate} {artifacts : List Artifact}

/-- A registration that fails leaves no trace: neither an entry of the class loader nor an event
that a file was added. -/
def CleanFailure (cp : Classpath) (r : Registered) : Prop :=
  ∀ f, r.result = .error f → r.classpath.loader.entries = cp.loader.entries ∧
    ∀ e ∈ r.classpath.slot.deliveries.drop cp.slot.deliveries.length, ∀ c file,
      e.event ≠ .added c file

theorem Registers.cleanFailure_iff {as : List Artifact} {s : Summary} {r : Registered}
    (h : Registers t task as cp s r) :
    CleanFailure cp r ↔ (r.result.isOk = true ∨ r.appended = []) := by
  constructor
  · intro hr
    rcases hres : r.result with f | s'
    · have hent := (hr f hres).1
      rw [h.entries] at hent
      exact .inr (List.map_eq_nil_iff.mp (List.append_right_eq_self.mp hent))
    · exact .inl rfl
  · intro hr f hres
    have hnil : r.appended = [] := hr.resolve_left (by rw [hres]; exact Bool.false_ne_true)
    obtain ⟨new, hd, htells⟩ := h.tells
    refine ⟨by rw [h.entries, hnil]; exact List.append_nil _, fun e he c file hadd => ?_⟩
    rw [hd, List.drop_left] at he
    obtain ⟨a, ha, -⟩ := (htells e he).2 c file hadd
    rw [hnil] at ha
    cases ha

/-- A registration whose listener does not panic fails cleanly just if it does not fail at all or
the first file that it would add is refused. -/
theorem Registers.cleanFailure_iff_fresh {as : List Artifact} {s : Summary} {r : Registered}
    (h : Registers t task as cp s r) (hq : ∀ e, cp.Quiet e) :
    CleanFailure cp r ↔ ∀ a rest, cp.fresh as = a :: rest → cp.accepts t a = true →
      ∀ b ∈ rest, cp.accepts t b = true := by
  obtain ⟨happ, hres⟩ := h.appended_eq hq
  rw [h.cleanFailure_iff, hres, happ]
  rcases cp.fresh as with _ | ⟨a, rest⟩
  · exact ⟨fun _ a rest h => (by cases h), fun _ => .inr rfl⟩
  · by_cases ha : cp.accepts t a = true
    · rw [List.takeWhile_cons_of_pos ha, List.forall_mem_cons]
      constructor
      · rintro (⟨-, hrest⟩ | hnil) a' rest' heq -
        · cases heq
          exact hrest
        · cases hnil
      · exact fun hrest => .inl ⟨ha, hrest a rest rfl ha⟩
    · rw [List.takeWhile_cons_of_neg ha]
      refine ⟨fun _ a' rest' heq ha' => ?_, fun _ => .inr rfl⟩
      cases heq
      exact absurd ha' ha

/-- **When a registration is all or nothing**: unless the checks pass, the first file to be added is
a regular one and behind it comes something that slips through the checks. -/
theorem all_or_nothing_iff (hc : cp.loader.check = ClassLoader.checkRegular)
    (hq : ∀ e, cp.Quiet e) :
    CleanFailure cp (all t task true root artifacts cp) ↔
      ¬ (Artifact.verifyAll t (cp.pending artifacts) = .ok () ∧ ∃ a rest,
        cp.fresh artifacts = a :: rest ∧ a.isRegular t = true ∧ ∃ b ∈ rest, b.Slips t) := by
  obtain ⟨e, -, he, hall⟩ | ⟨hok, hall⟩ := all_eq t task true root artifacts cp
  · rw [hall, he]
    refine ⟨fun _ h => (by cases h.1), fun _ f _ => ⟨rfl, fun e he => ?_⟩⟩
    rw [List.drop_length] at he
    cases he
  · have hpass := Artifact.verifyAll_eq_ok_iff.mp (hok rfl)
    rw [hall, (registers_each _ _ _).cleanFailure_iff_fresh hq, accepts_eq_isRegular hc]
    -- what is added was looked for, so it has passed the checks, and slips through if refused
    constructor
    · rintro hall ⟨-, a, rest, hf, ha, b, hb, hslip⟩
      have hreg := hall a rest hf ha b hb
      rw [(slips_iff.mp hslip).2] at hreg
      cases hreg
    · intro hnot a rest hf ha b hb
      have hb' : b ∈ cp.fresh artifacts := by
        rw [hf]
        exact List.mem_cons_of_mem a hb
      by_cases hreg : b.isRegular t = true
      · exact hreg
      · have hslip := slips_iff.mpr ⟨hpass b (mem_pending_of_fresh hb'), Bool.eq_false_iff.mpr hreg⟩
        exact absurd ⟨hok rfl, a, rest, hf, ha, b, hb, hslip⟩ hnot

/-- A directory that comes first makes a registration fail before anything is added. -/
theorem all_or_nothing_directory_first :
    let t : FileTree := ⟨[(["lib-1.0"], .file []), (["docs-1.0"], .dir)], []⟩
    let docs : Artifact := ⟨⟨"org", "docs", some "1.0"⟩, ⟨"/docs-1.0"⟩, none⟩
    let lib : Artifact := ⟨⟨"org", "lib", some "1.0"⟩, ⟨"/lib-1.0"⟩, none⟩
    let cp : Classpath := ⟨⟨[]⟩, .regular, ⟨none, []⟩⟩
    let r := all t none true lib.coordinate [docs, lib] cp
    r.result.isOk = false ∧ CleanFailure cp r := by
  intro t docs lib cp r
  refine ⟨by decide +kernel, (all_or_nothing_iff rfl (Classpath.quiet_of_none rfl)).mpr ?_⟩
  rintro ⟨-, a, rest, hf, ha, -⟩
  have hfresh : cp.fresh [docs, lib] = [docs, lib] := by decide +kernel
  cases hfresh.symm.trans hf
  have hdocs : docs.isRegular t = false := by decide +kernel
  rw [hdocs] at ha
  cases ha

/-- **A registration that fails half way**: behind a regular file comes a directory, which passes
the checks and which the class loader refuses. The file before it stays added, and the listener was
told so. -/
theorem partial_of_directory :
    let t : FileTree := ⟨[(["lib-1.0"], .file []), (["docs-1.0"], .dir)], []⟩
    let lib : Artifact := ⟨⟨"org", "lib", some "1.0"⟩, ⟨"/lib-1.0"⟩, none⟩
    let docs : Artifact := ⟨⟨"org", "docs", some "1.0"⟩, ⟨"/docs-1.0"⟩, none⟩
    let cp : Classpath := ⟨⟨[]⟩, .regular, ⟨some ⟨"a", fun _ => none⟩, []⟩⟩
    let r := all t none true lib.coordinate [lib, docs] cp
    r.result.isOk = false ∧ r.classpath.loader.entries = ["/lib-1.0"] ∧
      r.classpath.slot.deliveries = [⟨"a", .added lib.coordinate lib.file, none⟩] := by
  decide +kernel

end Registration

end ArtifactFetch
