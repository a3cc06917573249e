import ArtifactFetch.Proofs.Downloader.Answers

/-! # What a task leaves behind

A task leaves behind the files it has added to the class loader and the events that its registration
has delivered (`Shared.tracesOf`). Both come from its job alone, so a task in line or at work has
left nothing, neither has one whose job is still to be run, and no task has two jobs
(`TracesSound`). -/

namespace ArtifactFetch

/-- The files that were added for a task, and the events that were delivered for it. -/
structure Traces where
  appended : List Artifact
  told : List Delivery
  deriving DecidableEq, Repr

/-- No file and no event. -/
def Traces.none : Traces := ⟨[], []⟩

/-- What a task has left behind. -/
def Shared.tracesOf (s : Shared) (id : Nat) : Traces where
  appended := (s.appends.filter (·.task = id)).map Append.artifact
  told := s.classpath.slot.deliveries.filter (·.task = some id)

/-- What a task of a downloader has left behind. -/
def Downloader.tracesOf (d : Downloader) (id : Nat) : Traces := d.shared.tracesOf id

variable {config : Config} {p p' : DownloadPool} {id : Nat} {c : Coordinate}
  {ph : Phase Found Outcome}

/-! ### Where traces come from -/

/-- Events of another task or of the caller are no traces. -/
theorem told_of_tells {cp cp' : Classpath} {task : Option Nat} (h : cp.Tells (·.task = task) cp')
    (hne : task ≠ some id) :
    cp'.slot.deliveries.filter (·.task = some id) =
      cp.slot.deliveries.filter (·.task = some id) := by
  obtain ⟨new, hd, ht⟩ := h
  have hnew : new.filter (·.task = some id) = [] := by
    refine List.filter_eq_nil_iff.mpr fun e he => ?_
    rw [ht e he]
    simpa using hne
  rw [hd, List.filter_append, hnew, List.append_nil]

theorem tells_registerFound (config : Config) (s : Shared) (i : Nat) (j : Found) :
    s.classpath.Tells (·.task = some i) (config.registerFound i j s).1.classpath :=
  (Registration.tells_all _ _ _ _ _ _).imp fun _ he => he.1

/-- A job leaves nothing behind for other tasks. -/
theorem tracesOf_registerFound_ne (s : Shared) {i : Nat} (j : Found) (hne : i ≠ id) :
    (config.registerFound i j s).1.tracesOf id = s.tracesOf id := by
  have htold := told_of_tells (tells_registerFound config s i j)
    (by simpa using hne)
  rw [Shared.tracesOf, htold, Shared.tracesOf]
  simp [Config.registerFound, hne]

/-- **The traces of a job**: the files that it has added and the events that it has delivered. -/
theorem tracesOf_registerFound {s : Shared} (j : Found) (h : s.tracesOf id = .none) :
    let r := Registration.all s.files (some id) config.settings.verifyArtifacts j.coordinate
      j.artifacts s.classpath
    (config.registerFound id j s).1.tracesOf id =
      ⟨r.appended, r.classpath.slot.deliveries.drop s.classpath.slot.deliveries.length⟩ := by
  intro r
  obtain ⟨new, hd, ht⟩ := tells_registerFound config s id j
  have hall : new.filter (·.task = some id) = new :=
    List.filter_eq_self.mpr fun e he => decide_eq_true (ht e he)
  obtain ⟨ha, htold⟩ := Traces.mk.inj h
  have ha' : s.appends.filter (·.task = id) = [] := List.map_eq_nil_iff.mp ha
  have hr : r.classpath.slot.deliveries = s.classpath.slot.deliveries ++ new := hd
  show Traces.mk (((s.appends ++ r.appended.map (Append.mk id)).filter (·.task = id)).map
    Append.artifact) (r.classpath.slot.deliveries.filter (·.task = some id)) = _
  rw [hr, List.filter_append, List.filter_append, htold, hall, ha', List.drop_left]
  simp [List.filter_map, Function.comp_def]

/-! ### Who can have traces -/

/-- **Jobs and traces of the tasks**: one job for a task at most, and no traces before it is run. -/
structure TracesSound (p : DownloadPool) : Prop where
  once : (p.jobs.map Prod.fst).Nodup
  /-- A task in line or at work has no job and no traces. -/
  early : ∀ {id c ph}, p.stages[id]? = some (c, ph) → ph.isEarly = true →
    id ∉ p.jobs.map Prod.fst ∧ p.world.tracesOf id = .none
  /-- A task whose job is to be run has no traces. -/
  pending : ∀ {id}, id ∈ p.jobs.map Prod.fst → id < p.stages.length ∧ p.world.tracesOf id = .none
  /-- A number that no task has yet has no traces. -/
  unused : ∀ {id}, p.stages.length ≤ id → p.world.tracesOf id = .none

namespace TracesSound

/-- Jobs and traces stay as they are, and no task comes in line or to work that was not. -/
theorem keep (hp : TracesSound p) (hl : p'.stages.length = p.stages.length)
    (hs : ∀ {id : Nat} {c : Coordinate} {ph' : Phase Found Outcome},
      p'.stages[id]? = some (c, ph') → ph'.isEarly = true →
        ∃ ph, p.stages[id]? = some (c, ph) ∧ ph.isEarly = true)
    (hj : p'.jobs = p.jobs) (ht : ∀ id, p'.world.tracesOf id = p.world.tracesOf id) :
    TracesSound p' where
  once := by rw [hj]; exact hp.once
  early hst he := by
    obtain ⟨ph, hst₀, he₀⟩ := hs hst he
    rw [hj, ht]
    exact hp.early hst₀ he₀
  pending hm := by
    rw [hj] at hm
    rw [ht, hl]
    exact hp.pending hm
  unused hn := by
    rw [hl] at hn
    rw [ht]
    exact hp.unused hn

theorem handOver (hp : TracesSound p) (h : Pool.Effect config.workload p p') {j : Found}
    (hq : p.stages[id]? = some (c, ph)) (he : ph.isEarly = true)
    (hs : p'.stages = p.stages.set id (c, .inJob)) (hj : p'.jobs = p.jobs ++ [(id, j)])
    (ht : ∀ id, p'.world.tracesOf id = p.world.tracesOf id) : TracesSound p' where
  once := by
    rw [hj, List.map_append, List.nodup_append']
    refine ⟨hp.once, List.nodup_singleton _, fun i hi hi' => ?_⟩
    obtain rfl : i = id := List.mem_singleton.mp hi'
    exact (hp.early hq he).1 hi
  early {i c' ph'} hst hearly := by
    obtain ⟨ph₀, hst₀, he₀⟩ := h.early_before hst hearly
    obtain ⟨hn, htr⟩ := hp.early hst₀ he₀
    refine ⟨fun hm => ?_, (ht i).trans htr⟩
    rw [hj, List.map_append, List.mem_append] at hm
    refine hm.elim hn fun hm => ?_
    obtain rfl := List.mem_singleton.mp hm
    rw [hs, Pool.getElem?_set_of hq, if_pos rfl] at hst
    cases hst
    cases hearly
  pending {i} hm := by
    rw [hj, List.map_append, List.mem_append] at hm
    rw [ht, h.length_stages]
    rcases hm with hm | hm
    · exact hp.pending hm
    · obtain rfl := List.mem_singleton.mp hm
      exact ⟨(List.getElem?_eq_some_iff.mp hq).1, (hp.early hq he).2⟩
  unused hl := by
    rw [h.length_stages] at hl
    rw [ht]
    exact hp.unused hl

theorem run (hp : TracesSound p) (h : Pool.Effect config.workload p p') {i : Nat} {j : Found}
    (hi : p.jobs[i]? = some (id, j)) (hj : p'.jobs = p.jobs.eraseIdx i)
    (ht : ∀ id', id ≠ id' → p'.world.tracesOf id' = p.world.tracesOf id') : TracesSound p' := by
  have hm : id ∈ p.jobs.map Prod.fst := List.mem_map.mpr ⟨_, List.mem_of_getElem? hi, rfl⟩
  have hsub : ∀ id', id' ∈ p'.jobs.map Prod.fst → id' ∈ p.jobs.map Prod.fst := by
    intro id' hm'
    rw [hj] at hm'
    exact ((List.eraseIdx_sublist _ _).map _).subset hm'
  refine ⟨?_, fun {id' c' ph'} hst he => ?_, fun {id'} hm' => ?_, fun {id'} hl => ?_⟩
  · rw [hj]
    exact hp.once.sublist ((List.eraseIdx_sublist _ _).map _)
  · obtain ⟨ph₀, hst₀, he₀⟩ := h.early_before hst he
    obtain ⟨hn, htr⟩ := hp.early hst₀ he₀
    have hne : id ≠ id' := fun heq => hn (heq ▸ hm)
    exact ⟨fun hm' => hn (hsub _ hm'), (ht _ hne).trans htr⟩
  · have hne : id ≠ id' := by
      rintro rfl
      rw [hj] at hm'
      exact Pool.not_mem_eraseIdx hp.once hi hm'
    rw [ht _ hne, h.length_stages]
    exact hp.pending (hsub _ hm')
  · rw [h.length_stages] at hl
    have hne : id ≠ id' := fun heq => absurd (hp.pending hm).1 (by omega)
    rw [ht _ hne]
    exact hp.unused hl

theorem effect (hp : TracesSound p) (h : Pool.Effect config.workload p p') : TracesSound p' := by
  cases h' : h with
  | still _ hj hw | proceed _ _ _ _ hj hw =>
    exact hp.keep h.length_stages h.early_before hj fun id => by rw [hw]
  | start _ _ hj hw | finish _ _ _ _ hj hw =>
    exact hp.keep h.length_stages h.early_before hj fun id => by rw [hw]; rfl
  | handOver hq hs hj hw => exact hp.handOver h hq rfl hs hj fun id => by rw [hw]
  | @report _ _ _ j hi _ _ hj hw | @lose _ _ j hi _ _ hj hw =>
    exact hp.run h hi hj fun id' hne => by rw [hw]; exact tracesOf_registerFound_ne _ j hne

end TracesSound

end ArtifactFetch
