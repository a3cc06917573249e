import ArtifactFetch.Proofs.Downloader.Registry

/-! # Requests and handles

What a request is answered depends, in this order, on the listener, the registry, the classpath and
whether the pool is closed: one equation for each case. Every download that a run starts has a
handle of its own, and the handles of a downloader are the answers `submitted` of the run that led
to it (`handles_moveAll`). -/

namespace ArtifactFetch.Downloader

variable {R : Coordinate → Prop} {d d' : Downloader} {c : Coordinate} {h : Handle}

/-! ### The answer to a request -/

/-- The downloader after its listener was told of a request. -/
def told (d : Downloader) (c : Coordinate) : Downloader :=
  d.setClasspath (d.classpath.deliver none (.requested c)).1

theorem ensure_of_panic {p : Panic} (h : (d.classpath.deliver none (.requested c)).2 = some p) :
    d.ensure c = (d.told c, .error (.panic p)) := by
  unfold ensure told
  rcases hn : d.classpath.deliver none (.requested c) with ⟨cp, q⟩
  rw [hn] at h
  obtain rfl : q = some p := h
  rfl

theorem ensure_of_quiet (h : (d.classpath.deliver none (.requested c)).2 = none) :
    d.ensure c = (d.told c).serve c := by
  unfold ensure told
  rcases hn : d.classpath.deliver none (.requested c) with ⟨cp, q⟩
  rw [hn] at h
  obtain rfl : q = none := h
  rfl

theorem serve_of_registered {id : Nat} (h : d.shared.registry.lookup c.key = some id) :
    d.serve c = (d, .ok (.joined ⟨c.key, id⟩)) := by
  simp [serve, h]

theorem serve_of_present {hit : Hit} {cp : Classpath} {p : Option Panic}
    (hr : d.shared.registry.lookup c.key = none) (hp : d.classpath.lookup c = some hit)
    (hn : d.classpath.notifyHit none c hit = (cp, p)) :
    d.serve c = (d.setClasspath cp, p.elim (.ok (.skipped hit)) fun q => .error (.panic q)) := by
  unfold serve
  rw [hr, hp]
  dsimp only
  rw [hn]
  cases p <;> rfl

theorem serve_of_absent (hr : d.shared.registry.lookup c.key = none)
    (hp : d.classpath.lookup c = none) : d.serve c = d.submit c := by
  simp [serve, hr, hp]

/-- **What a request can lead to**: the downloader after it and its answer. -/
inductive Ensures (d : Downloader) (c : Coordinate) : Downloader × Except Failure Ensured → Prop
  /-- The listener panics when it is told of the request. -/
  | requestPanic {p : Panic} (hn : (d.classpath.deliver none (.requested c)).2 = some p) :
    Ensures d c (d.told c, .error (.panic p))
  | join {id : Nat} (hr : d.shared.registry.lookup c.key = some id) :
    Ensures d c (d.told c, .ok (.joined ⟨c.key, id⟩))
  | skip {hit : Hit} {cp : Classpath} (hr : d.shared.registry.lookup c.key = none)
    (hp : d.classpath.lookup c = some hit)
    (hn : (d.told c).classpath.notifyHit none c hit = (cp, none)) :
    Ensures d c ((d.told c).setClasspath cp, .ok (.skipped hit))
  /-- The listener panics when it is told that the artifact is present. -/
  | skipPanic {hit : Hit} {cp : Classpath} {p : Panic}
    (hr : d.shared.registry.lookup c.key = none) (hp : d.classpath.lookup c = some hit)
    (hn : (d.told c).classpath.notifyHit none c hit = (cp, some p)) :
    Ensures d c ((d.told c).setClasspath cp, .error (.panic p))
  | refuse (hr : d.shared.registry.lookup c.key = none) (hp : d.classpath.lookup c = none)
    (hc : d.pool.closed = true) : Ensures d c (d.told c, .error (.error .shuttingDown))
  | submit (hr : d.shared.registry.lookup c.key = none) (hp : d.classpath.lookup c = none)
    (hc : d.pool.closed = false) :
    Ensures d c ((d.told c).accept c, .ok (.submitted ⟨c.key, d.pool.tasks.length⟩))

theorem ensures_ensure (d : Downloader) (c : Coordinate) : Ensures d c (d.ensure c) := by
  rcases hn : (d.classpath.deliver none (.requested c)).2 with _ | p
  · rw [ensure_of_quiet hn]
    rcases hr : (d.told c).shared.registry.lookup c.key with _ | id
    · rcases hp : (d.told c).classpath.lookup c with _ | hit
      · rw [serve_of_absent hr hp]
        rcases hc : (d.told c).pool.closed with _ | _
        · rw [submit_of_open hc]
          exact .submit hr hp hc
        · rw [submit_of_closed hc]
          exact .refuse hr hp hc
      · rcases hh : (d.told c).classpath.notifyHit none c hit with ⟨cp, _ | p⟩
        · rw [serve_of_present hr hp hh]
          exact .skip hr hp hh
        · rw [serve_of_present hr hp hh]
          exact .skipPanic hr hp hh
    · rw [serve_of_registered hr]
      exact .join hr
  · rw [ensure_of_panic hn]
    exact .requestPanic hn

theorem ensure_submitted (hs : (d.ensure c).2 = .ok (.submitted h)) :
    h = ⟨c.key, d.pool.tasks.length⟩ ∧ (d.ensure c).1 = (d.told c).accept c ∧
      d.shared.registry.lookup c.key = none ∧ d.classpath.lookup c = none := by
  have he := ensures_ensure d c
  generalize d.ensure c = r at he hs ⊢
  cases he with
  | submit hr hp =>
    cases hs
    exact ⟨rfl, rfl, hr, hp⟩
  | requestPanic | join | skip | skipPanic | refuse => cases hs

theorem ensure_joined (hj : (d.ensure c).2 = .ok (.joined h)) :
    h.key = c.key ∧ d.shared.registry.lookup c.key = some h.task := by
  have he := ensures_ensure d c
  generalize d.ensure c = r at he hj
  cases he with
  | join hr =>
    cases hj
    exact ⟨rfl, hr⟩
  | requestPanic | skip | skipPanic | refuse | submit => cases hj

/-- Only requests are answered as such. -/
theorem request_of_ensured {m : Move} {r : Except Failure Ensured}
    (hr : (d.move m).2 = .ensured r) : ∃ c, m = .act (.ensure c) ∧ (d.ensure c).2 = r := by
  cases m with
  | act a =>
    cases a with
    | ensure c => exact ⟨c, rfl, Response.ensured.inj hr⟩
    | wait | advance | release | shutdown | setListener | setFiles | addFile | inquire => cases hr
  | look | job | tick | close | cancel | lock => cases hr

theorem request_of_submitted {m : Move} (hh : (d.move m).2.submitted? = some h) :
    ∃ c, m = .act (.ensure c) ∧ (d.ensure c).2 = .ok (.submitted h) := by
  unfold Response.submitted? at hh
  split at hh
  · next hr =>
    cases hh
    exact request_of_ensured hr
  · cases hh

/-! ### Accepted downloads -/

theorem stages_accept (d : Downloader) (c : Coordinate) :
    (d.accept c).pool.stages = d.pool.stages ++ [(c, .queued)] := List.map_append

theorem works_accept (d : Downloader) (c : Coordinate) :
    (d.accept c).pool.works = d.pool.works ++ [c] := by
  rw [Pool.works, stages_accept, List.map_append]
  rfl

theorem world_accept (d : Downloader) (c : Coordinate) :
    (d.accept c).pool.world = { d.pool.world with
      registry := d.pool.world.registry ++ [(c.key, d.pool.tasks.length)] } := rfl

/-- The earlier downloads stay as they are. -/
theorem stage_accept_of {id : Nat} {st : Coordinate × Phase Found Outcome}
    (h : d.pool.stages[id]? = some st) (c : Coordinate) :
    (d.accept c).pool.stages[id]? = some st := by
  rw [stages_accept, List.getElem?_append_left (List.getElem?_eq_some_iff.mp h).1]
  exact h

theorem work_accept_of {id : Nat} {c' : Coordinate} (h : d.pool.works[id]? = some c')
    (c : Coordinate) : (d.accept c).pool.works[id]? = some c' := by
  rw [works_accept, List.getElem?_append_left (List.getElem?_eq_some_iff.mp h).1]
  exact h

theorem work_accept (d : Downloader) (c : Coordinate) :
    (d.accept c).pool.works[d.pool.tasks.length]? = some c := by
  rw [works_accept, ← Pool.length_works, List.getElem?_concat_length]

theorem work_change {id : Nat} {c : Coordinate} (h : Change R d d')
    (hw : d.pool.works[id]? = some c) : d'.pool.works[id]? = some c := by
  cases h with
  | pool h => rwa [h.effect.works_eq]
  | tell | install | replace | add | observe => exact hw
  | submit => exact work_accept_of hw _

/-- **A download is of one coordinate** throughout a run. -/
theorem work_changes {id : Nat} {c : Coordinate} (hc : Changes R d d')
    (hw : d.pool.works[id]? = some c) : d'.pool.works[id]? = some c :=
  of_changes (P := fun d => d.pool.works[id]? = some c) (fun _ _ => work_change) hc hw

/-- A download is an earlier one or the new one, which is in line. -/
theorem of_stage_accept {id : Nat} {c' : Coordinate} {ph : Phase Found Outcome}
    (h : (d.accept c).pool.stages[id]? = some (c', ph)) :
    d.pool.stages[id]? = some (c', ph) ∨ id = d.pool.tasks.length ∧ c' = c ∧ ph = .queued := by
  rw [stages_accept, List.getElem?_append] at h
  split_ifs at h with hn
  · exact .inl h
  · obtain ⟨hi, hst⟩ := List.getElem?_eq_some_iff.mp h
    rw [List.length_singleton] at hi
    rw [List.getElem_singleton] at hst
    rw [← Pool.length_stages]
    cases hst
    exact .inr ⟨by omega, rfl, rfl⟩

/-! ### Handles -/

/-- The handles of all downloads, in the order in which they were started. -/
def handles (d : Downloader) : List Handle := d.pool.works.zipIdx.map fun (c, i) => ⟨c.key, i⟩

theorem mem_handles {h : Handle} :
    h ∈ d.handles ↔ ∃ c ph, d.pool.stages[h.task]? = some (c, ph) ∧ c.key = h.key := by
  simp only [handles, Pool.works, List.mem_map, Prod.exists, List.mk_mem_zipIdx_iff_getElem?,
    List.getElem?_map, Option.map_eq_some_iff]
  constructor
  · rintro ⟨c, i, ⟨_, ph, hst, rfl⟩, rfl⟩
    exact ⟨_, ph, hst, rfl⟩
  · rintro ⟨c, ph, hst, hk⟩
    exact ⟨c, h.task, ⟨c, ph, hst, rfl⟩, by rw [hk]⟩

/-- A task has one handle. -/
theorem handle_unique {h' : Handle} (hm : h ∈ d.handles) (hm' : h' ∈ d.handles)
    (ht : h'.task = h.task) : h' = h := by
  obtain ⟨c, ph, hst, hk⟩ := mem_handles.mp hm
  obtain ⟨c', ph', hst', hk'⟩ := mem_handles.mp hm'
  rw [ht] at hst'
  obtain ⟨rfl, -⟩ := Pool.stage_inj hst hst'
  cases h
  cases h'
  simp_all

theorem key_of_work (hm : h ∈ d.handles) (hw : d.pool.works[h.task]? = some c) :
    c.key = h.key := by
  obtain ⟨c', ph, hst, hk⟩ := mem_handles.mp hm
  rwa [← Option.some.inj (hw.symm.trans (Pool.getElem?_works hst))] at hk

/-- Tasks are numbered in the order in which they are started. -/
theorem tasks_handles (d : Downloader) :
    d.handles.map Handle.task = List.range' 0 d.pool.works.length := by
  rw [handles, List.map_map]
  exact List.zipIdx_map_snd 0 d.pool.works

theorem handles_eq (h : d'.pool.works = d.pool.works) : d'.handles = d.handles := by
  rw [handles, h, handles]

theorem handles_accept (d : Downloader) (c : Coordinate) :
    (d.accept c).handles = d.handles ++ [⟨c.key, d.pool.tasks.length⟩] := by
  rw [handles, works_accept, List.zipIdx_append, List.map_append, Nat.zero_add, Pool.length_works]
  rfl

theorem handles_ensure (d : Downloader) (c : Coordinate) :
    (d.ensure c).1.handles =
      d.handles ++ (Response.submitted? (.ensured (d.ensure c).2)).toList := by
  have h := ensures_ensure d c
  generalize d.ensure c = r at h
  cases h with
  | submit => exact handles_accept (d.told c) c
  | requestPanic | join | skip | skipPanic | refuse => exact (List.append_nil _).symm

theorem handles_pool {p : DownloadPool} (h : Pool.Changes d.config.workload d.pool p) :
    ({ d with pool := p } : Downloader).handles = d.handles :=
  handles_eq (Pool.works_of_changes h)

/-- A wait does to the pool what letting time pass for its task does. -/
theorem pool_wait (d : Downloader) (h : Handle) (patience : Nat) :
    (d.wait h patience).1.pool = d.pool.await d.config.workload h.task patience := by
  have hw := waits_wait d h patience
  generalize d.wait h patience = result at hw ⊢
  cases hw with
  | result | nothing => rfl

theorem handles_wait (d : Downloader) (h : Handle) (patience : Nat) :
    (d.wait h patience).1.handles = d.handles := by
  refine handles_eq ?_
  rw [pool_wait]
  exact Pool.works_of_changes (Pool.changes_await h.task patience d.pool)

theorem handles_move (d : Downloader) (m : Move) :
    (d.move m).1.handles = d.handles ++ (d.move m).2.submitted?.toList := by
  cases m with
  | act a =>
    cases a with
    | ensure c => exact handles_ensure d c
    | wait h patience => exact (handles_wait d h patience).trans (List.append_nil _).symm
    | advance millis =>
      exact (handles_pool (Pool.changes_advance millis d.pool)).trans (List.append_nil _).symm
    | shutdown drain =>
      exact (handles_pool (Pool.changes_shutdown drain d.pool)).trans (List.append_nil _).symm
    | release | setListener | setFiles | addFile | inquire => exact (List.append_nil _).symm
  | look id => exact (handles_pool (Pool.changes_poll d.pool id)).trans (List.append_nil _).symm
  | job i => exact (handles_pool (Pool.changes_runJobAt i d.pool)).trans (List.append_nil _).symm
  | tick | close | cancel | lock => exact (List.append_nil _).symm

/-- **The handles of a downloader** are those of its start and those that the run was answered. -/
theorem handles_moveAll : ∀ (ms : List Move) (d : Downloader),
    (d.moveAll ms).1.handles = d.handles ++ submitted (d.moveAll ms).2
  | [], d => (List.append_nil _).symm
  | m :: ms, d => by
    rw [moveAll_cons, handles_moveAll ms, handles_move, List.append_assoc]
    congr 1
    unfold submitted
    rcases h : (d.move m).2.submitted? with _ | h' <;> simp [h]

end ArtifactFetch.Downloader
