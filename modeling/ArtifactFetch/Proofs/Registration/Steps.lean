import ArtifactFetch.Proofs.Classpath.Growth
import ArtifactFetch.Registration
import Mathlib.Data.List.Basic

/-! # What registering does, artifact by artifact

`Registers` describes a registration by what becomes of its first artifact: it is present and
reported, or its file is added, or the listener panics, or the class loader refuses the file. It has
a case for each, and `each` does what it says (`registers_each`). From it follows that a
registration only adds to the classpath, and what it has covered when it ends well
(`Summary.Covers`). -/

namespace ArtifactFetch

namespace Classpath

variable {cp cp' : Classpath} {a : Artifact} {as : List Artifact}

theorem mem_pending : a ∈ cp.pending as ↔ a ∈ as ∧ cp.lookup a.coordinate = none := by
  simp [pending]

theorem pending_cons_of_present {hit : Hit} (as : List Artifact)
    (h : cp.lookup a.coordinate = some hit) : cp.pending (a :: as) = cp.pending as := by
  simp [pending, h]

theorem pending_cons_of_absent (as : List Artifact) (h : cp.lookup a.coordinate = none) :
    cp.pending (a :: as) = a :: cp.pending as := by
  simp [pending, h]

/-- What a larger classpath does not have, the smaller did not have. -/
theorem Grows.pending (h : cp.Grows cp') (as : List Artifact) :
    (cp'.pending as).Sublist (cp.pending as) := by
  refine List.monotone_filter_right as fun a ha => ?_
  rcases hl : cp.lookup a.coordinate with _ | hit
  · rfl
  · have hlater := h.lookup (c := a.coordinate) (by rw [hl]; rfl)
    rw [Option.isNone_iff_eq_none.mp ha] at hlater
    cases hlater

end Classpath

namespace Registration

/-- **How artifacts are registered** behind what is done: the classpath before, and what is left
behind. -/
inductive Registers (t : FileTree) (task : Option Nat) :
    List Artifact → Classpath → Summary → Registered → Prop
  | done {cp : Classpath} {s : Summary} : Registers t task [] cp s ⟨cp, [], .ok s⟩
  /-- The listener panics when it is told that an artifact is present. -/
  | reportPanic {a : Artifact} {rest : List Artifact} {cp cp' : Classpath} {s : Summary} {hit : Hit}
    {p : Panic} (hl : cp.lookup a.coordinate = some hit)
    (hn : cp.notifyHit task a.coordinate hit = (cp', some p)) :
    Registers t task (a :: rest) cp s ⟨cp', [], .error (.panic p)⟩
  | report {a : Artifact} {rest : List Artifact} {cp cp' : Classpath} {s : Summary} {hit : Hit}
    {r : Registered} (hl : cp.lookup a.coordinate = some hit)
    (hn : cp.notifyHit task a.coordinate hit = (cp', none))
    (h : Registers t task rest cp'
      { s with alreadyPresent := s.alreadyPresent ++ [a.coordinate] } r) :
    Registers t task (a :: rest) cp s r
  /-- The class loader refuses a file. -/
  | refuse {a : Artifact} {rest : List Artifact} {cp : Classpath} {s : Summary} {f : Failure}
    (hl : cp.lookup a.coordinate = none) (ha : cp.addFile t a.file = (cp, .error f)) :
    Registers t task (a :: rest) cp s ⟨cp, [], .error f⟩
  /-- The listener panics when it is told of a file that was added. -/
  | addPanic {a : Artifact} {rest : List Artifact} {cp cp₁ cp₂ : Classpath} {s : Summary}
    {p : Panic} (hl : cp.lookup a.coordinate = none) (ha : cp.addFile t a.file = (cp₁, .ok ()))
    (hn : cp₁.deliver task (.added a.coordinate a.file) = (cp₂, some p)) :
    Registers t task (a :: rest) cp s ⟨cp₂, [a], .error (.panic p)⟩
  | add {a : Artifact} {rest : List Artifact} {cp cp₁ cp₂ : Classpath} {s : Summary}
    {r : Registered} (hl : cp.lookup a.coordinate = none)
    (ha : cp.addFile t a.file = (cp₁, .ok ()))
    (hn : cp₁.deliver task (.added a.coordinate a.file) = (cp₂, none))
    (h : Registers t task rest cp₂ { s with added := s.added ++ [a.file] } r) :
    Registers t task (a :: rest) cp s { r with appended := a :: r.appended }

variable {t : FileTree} {task : Option Nat}

theorem registers_each : ∀ (as : List Artifact) (cp : Classpath) (s : Summary),
    Registers t task as cp s (each t task as cp s)
  | [], cp, s => .done
  | a :: rest, cp, s => by
    unfold each
    split
    · next hit hl =>
      split
      · next cp' p hn => exact .reportPanic hl hn
      · next cp' hn => exact .report hl hn (registers_each rest cp' _)
    · next hl =>
      split
      · next cp₁ f ha =>
        obtain rfl := Classpath.fst_addFile_of_error ha
        exact .refuse hl ha
      · next cp₁ ha =>
        split
        · next cp₂ p hn => exact .addPanic hl ha hn
        · next cp₂ hn => exact .add hl ha hn (registers_each rest cp₂ _)

/-- A registration only adds to the classpath. -/
theorem Registers.grows {as : List Artifact} {cp : Classpath} {s : Summary} {r : Registered}
    (h : Registers t task as cp s r) : cp.Grows r.classpath := by
  induction h with
  | done => exact .refl _
  | reportPanic _ hn => exact Classpath.grows_of_notifyHit hn
  | report _ hn _ ih => exact (Classpath.grows_of_notifyHit hn).trans ih
  | refuse => exact .refl _
  | addPanic _ ha hn =>
    exact (Classpath.grows_of_addFile ha).trans (Classpath.grows_of_deliver hn)
  | add _ ha hn _ ih =>
    exact ((Classpath.grows_of_addFile ha).trans (Classpath.grows_of_deliver hn)).trans ih

/-- A file is an entry of the class loader just if its artifact was registered as added. -/
theorem Registers.entries {as : List Artifact} {cp : Classpath} {s : Summary} {r : Registered}
    (h : Registers t task as cp s r) :
    r.classpath.loader.entries = cp.loader.entries ++ r.appended.map (·.file.text) := by
  induction h with
  | done | refuse => exact (List.append_nil _).symm
  | reportPanic _ hn => rw [Classpath.loader_of_notifyHit hn]; exact (List.append_nil _).symm
  | report _ hn _ ih => rw [ih, Classpath.loader_of_notifyHit hn]
  | addPanic _ ha hn => rw [Classpath.loader_of_deliver hn, Classpath.fst_addFile_of_ok ha]; rfl
  | add _ ha hn _ ih =>
    rw [ih, Classpath.loader_of_deliver hn, Classpath.fst_addFile_of_ok ha, List.map_cons]
    exact List.append_assoc _ _ _

/-- An event of a registration: it comes from its own task, and says of no other file that it was
added than of those that were. -/
def Tells (task : Option Nat) (appended : List Artifact) (e : Delivery) : Prop :=
  e.task = task ∧ ∀ c file, e.event = .added c file →
    ∃ a ∈ appended, a.coordinate = c ∧ a.file = file

theorem Tells.cons {appended : List Artifact} {e : Delivery} (h : Tells task appended e)
    (a : Artifact) : Tells task (a :: appended) e :=
  ⟨h.1, fun c file he => by
    obtain ⟨b, hb, hbc⟩ := h.2 c file he
    exact ⟨b, List.mem_cons_of_mem _ hb, hbc⟩⟩

theorem tells_available (task : Option Nat) (appended : List Artifact) (name : String)
    (c : Coordinate) : Tells task appended ⟨name, .available c, task⟩ :=
  ⟨rfl, fun _ _ h => by cases h⟩

theorem tells_added (task : Option Nat) (appended : List Artifact) (name : String) (a : Artifact) :
    Tells task (a :: appended) ⟨name, .added a.coordinate a.file, task⟩ :=
  ⟨rfl, fun _ _ h => by cases h; exact ⟨a, List.mem_cons_self, rfl, rfl⟩⟩

/-- **The events of a registration.** -/
theorem Registers.tells {as : List Artifact} {cp : Classpath} {s : Summary} {r : Registered}
    (h : Registers t task as cp s r) : cp.Tells (Tells task r.appended) r.classpath := by
  induction h with
  | done | refuse => exact .of_eq rfl
  | reportPanic _ hn => exact Classpath.tells_of_notifyHit hn fun name => tells_available _ _ name _
  | report _ hn _ ih =>
    exact (Classpath.tells_of_notifyHit hn fun name => tells_available _ _ name _).trans ih
  | addPanic _ ha hn =>
    exact (Classpath.tells_of_addFile ha).trans
      (Classpath.tells_of_deliver hn fun name => tells_added _ _ name _)
  | add _ ha hn _ ih =>
    exact ((Classpath.tells_of_addFile ha).trans
      (Classpath.tells_of_deliver hn fun name => tells_added _ _ name _)).trans
        (ih.imp fun e he => he.cons _)

/-! ### What a registration covers -/

/-- What a registration has put behind what was done when it ended well: what it reported present is
present, and of every artifact either that or its file is an entry. -/
theorem Registers.covers {as : List Artifact} {cp : Classpath} {s s' : Summary} {r : Registered}
    (h : Registers t task as cp s r) (hr : r.result = .ok s') :
    (∀ c ∈ s'.alreadyPresent, c ∈ s.alreadyPresent ∨ (r.classpath.lookup c).isSome) ∧
      ∀ a ∈ as, (r.classpath.lookup a.coordinate).isSome ∨
        a.file.text ∈ r.classpath.loader.entries := by
  induction h with
  | done =>
    cases hr
    exact ⟨fun c hc => .inl hc, fun a ha => absurd ha List.not_mem_nil⟩
  | reportPanic | refuse | addPanic => cases hr
  | @report a rest cp cp' s hit r hl hn h ih =>
    obtain ⟨hp, hc⟩ := ih hr
    have ha : (r.classpath.lookup a.coordinate).isSome :=
      ((Classpath.grows_of_notifyHit hn).trans h.grows).lookup (by rw [hl]; rfl)
    refine ⟨fun c hc' => ?_, List.forall_mem_cons.mpr ⟨.inl ha, hc⟩⟩
    rcases hp c hc' with hm | hm
    · rcases List.mem_append.mp hm with hm | hm
      · exact .inl hm
      · rw [List.mem_singleton.mp hm]
        exact .inr ha
    · exact .inr hm
  | @add a rest cp cp₁ cp₂ s r hl ha hn h ih =>
    obtain ⟨hp, hc⟩ := ih hr
    have hg := (Classpath.grows_of_deliver hn).trans h.grows
    exact ⟨hp, List.forall_mem_cons.mpr
      ⟨.inr (hg.entries.subset (Classpath.mem_entries_of_addFile ha)), hc⟩⟩

end Registration

/-- Everything that a registration ended well with is on the classpath: what was present, and the
file of every artifact that was not. -/
structure Summary.Covers (s : Summary) (artifacts : List Artifact) (cp : Classpath) : Prop where
  present : ∀ c ∈ s.alreadyPresent, (cp.lookup c).isSome
  loaded : ∀ a ∈ artifacts, (cp.lookup a.coordinate).isSome ∨ a.file.text ∈ cp.loader.entries

namespace Summary.Covers

variable {s : Summary} {artifacts : List Artifact} {cp cp' : Classpath}

theorem grows (hs : s.Covers artifacts cp) (h : cp.Grows cp') : s.Covers artifacts cp' :=
  ⟨fun c hc => h.lookup (hs.present c hc),
    fun a ha => (hs.loaded a ha).imp h.lookup (fun he => h.entries.subset he)⟩

/-- **An artifact that a registration covered is present** if it was reported so, or if its file is
named after it. -/
theorem lookup (hs : s.Covers artifacts cp) {a : Artifact} (ha : a ∈ artifacts)
    (hn : a.coordinate ∈ s.alreadyPresent ∨
      Text.contains a.file.text a.coordinate.classpathName = true) :
    (cp.lookup a.coordinate).isSome := by
  rcases hn with hn | hn
  · exact hs.present _ hn
  · exact (hs.loaded a ha).elim id fun he => Classpath.isSome_lookup_of_entry he hn

end Summary.Covers

namespace Registration

variable (t : FileTree) (task : Option Nat) (verify : Bool) (root : Coordinate)
  (artifacts : List Artifact) (cp : Classpath)

/-- A registration whose checks fail does nothing; any other registers one artifact after another.
-/
theorem all_eq : (∃ e, verify = true ∧ Artifact.verifyAll t (cp.pending artifacts) = .error e ∧
      all t task verify root artifacts cp = ⟨cp, [], .error (.error e)⟩) ∨
    ((verify = true → Artifact.verifyAll t (cp.pending artifacts) = .ok ()) ∧
      all t task verify root artifacts cp = each t task artifacts cp ⟨root, [], []⟩) := by
  unfold all
  cases verify with
  | false => exact .inr ⟨fun h => Bool.noConfusion h, rfl⟩
  | true =>
    rcases h : Artifact.verifyAll t (cp.pending artifacts) with e | ⟨⟩
    · exact .inl ⟨e, rfl, rfl, by simp⟩
    · exact .inr ⟨fun _ => rfl, by simp⟩

theorem grows_all : cp.Grows (all t task verify root artifacts cp).classpath := by
  obtain ⟨e, -, -, h⟩ | ⟨-, h⟩ := all_eq t task verify root artifacts cp
  · rw [h]
    exact .refl cp
  · rw [h]
    exact (registers_each _ _ _).grows

theorem tells_all : cp.Tells (Tells task (all t task verify root artifacts cp).appended)
    (all t task verify root artifacts cp).classpath := by
  obtain ⟨e, -, -, h⟩ | ⟨-, h⟩ := all_eq t task verify root artifacts cp
  · rw [h]
    exact .of_eq rfl
  · rw [h]
    exact (registers_each _ _ _).tells

/-- **A registration that ends well covers its artifacts.** -/
theorem covers_all {t : FileTree} {task : Option Nat} {verify : Bool} {root : Coordinate}
    {artifacts : List Artifact} {cp : Classpath} {s : Summary}
    (h : (all t task verify root artifacts cp).result = .ok s) :
    s.Covers artifacts (all t task verify root artifacts cp).classpath := by
  obtain ⟨e, -, -, ha⟩ | ⟨-, ha⟩ := all_eq t task verify root artifacts cp
  · rw [ha] at h
    cases h
  · rw [ha] at h ⊢
    obtain ⟨hp, hl⟩ := (registers_each _ _ _).covers h
    exact ⟨fun c hc => (hp c hc).resolve_left List.not_mem_nil, hl⟩

/-! ### Where a registration panics -/

/-- Where a registration has ended in a panic: at an artifact behind which nothing was looked at.
The files that were added are of artifacts up to that one, in their order. -/
structure PanicsAt (t : FileTree) (task : Option Nat) (root : Coordinate)
    (artifacts : List Artifact) (cp : Classpath) (r : Registered) : Prop where
  stopped : ∃ before a after, artifacts = before ++ a :: after ∧
    r.appended.Sublist (before ++ [a]) ∧
      ∀ after', each t task (before ++ a :: after') cp ⟨root, [], []⟩ = r
  entries : r.classpath.loader.entries = cp.loader.entries ++ r.appended.map (·.file.text)

/-- A registration has one outcome only. -/
theorem Registers.eq_each {t : FileTree} {task : Option Nat} {as : List Artifact} {cp : Classpath}
    {s : Summary} {r : Registered} (h : Registers t task as cp s r) : each t task as cp s = r := by
  induction h with
  | done => rfl
  | reportPanic hl hn => simp only [each, hl, hn]
  | report hl hn _ ih => simp only [each, hl, hn, ih]
  | refuse hl ha => simp only [each, hl, ha]
  | addPanic hl ha hn => simp only [each, hl, ha, hn]
  | add hl ha hn _ ih => simp only [each, hl, ha, hn, ih]

/-- What is behind an artifact that panics has no effect. -/
theorem Registers.stops {t : FileTree} {task : Option Nat} {as : List Artifact} {cp : Classpath}
    {s : Summary} {r : Registered} (h : Registers t task as cp s r) {p : Panic}
    (hp : r.result = .error (.panic p)) : ∃ before a after, as = before ++ a :: after ∧
      r.appended.Sublist (before ++ [a]) ∧
        ∀ after', Registers t task (before ++ a :: after') cp s r := by
  induction h with
  | done => cases hp
  | @reportPanic a rest _ _ _ _ _ hl hn =>
    exact ⟨[], a, rest, rfl, List.nil_sublist _, fun _ => .reportPanic hl hn⟩
  | @refuse a rest _ _ _ hl ha =>
    exact ⟨[], a, rest, rfl, List.nil_sublist _, fun _ => .refuse hl ha⟩
  | @addPanic a rest _ _ _ _ _ hl ha hn =>
    exact ⟨[], a, rest, rfl, .refl _, fun _ => .addPanic hl ha hn⟩
  | @report a _ _ _ _ _ _ hl hn _ ih =>
    obtain ⟨before, b, after, rfl, hsub, hafter⟩ := ih hp
    exact ⟨a :: before, b, after, rfl, hsub.cons a, fun after' => .report hl hn (hafter after')⟩
  | @add a _ _ _ _ _ _ hl ha hn _ ih =>
    obtain ⟨before, b, after, rfl, hsub, hafter⟩ := ih hp
    exact ⟨a :: before, b, after, rfl, hsub.cons_cons a,
      fun after' => .add hl ha hn (hafter after')⟩

/-- **Where a registration panics.** -/
theorem panicsAt_all {t : FileTree} {task : Option Nat} {verify : Bool} {root : Coordinate}
    {artifacts : List Artifact} {cp : Classpath} {p : Panic}
    (h : (all t task verify root artifacts cp).result = .error (.panic p)) :
    PanicsAt t task root artifacts cp (all t task verify root artifacts cp) := by
  obtain ⟨e, -, -, ha⟩ | ⟨-, ha⟩ := all_eq t task verify root artifacts cp
  · rw [ha] at h
    cases h
  · rw [ha] at h ⊢
    have hreg : Registers t task artifacts cp ⟨root, [], []⟩ _ := registers_each _ _ _
    obtain ⟨before, a, after, has, hsub, hafter⟩ := hreg.stops h
    exact ⟨⟨before, a, after, has, hsub, fun after' => (hafter after').eq_each⟩, hreg.entries⟩

end Registration

end ArtifactFetch
