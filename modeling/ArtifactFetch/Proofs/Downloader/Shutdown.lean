import ArtifactFetch.Proofs.Downloader.Outcomes

/-! # Shutdown

When a shutdown returns, no download is left, and every handle that was ever handed out has a
result: the own outcome of the download, or `cancelled` if it had not ended when the window was
over. The report says whether any had not (`shutdown_final`). Of two shutdowns that overlap, one may
report that all downloads have ended because the other has cancelled them. After a shutdown nothing
comes back to life: a locked pool starts no task, so the resolver is not called again, and a closed
one accepts none, so a request finds its artifact present or is refused, unless the listener panics
(`ShutDown`). -/

namespace ArtifactFetch.Downloader

variable {R : Coordinate → Prop} {d₀ d d' : Downloader} {h : Handle} {c : Coordinate} {r : Outcome}
  {ms : List Move} {window : Nat}

/-! ### Handles that were handed out -/

/-- The handle in a response. -/
def Response.handle? : Response → Option Handle
  | .ensured (.ok e) => e.handle?
  | _ => none

/-- The handles that were handed out in a run, for downloads that were started or joined. -/
def handedOut (rs : List Response) : List Handle := rs.filterMap Response.handle?

theorem handles_subset (d : Downloader) (ms : List Move) :
    d.handles ⊆ (d.moveAll ms).1.handles := by
  rw [handles_moveAll]
  exact List.subset_append_left _ _

theorem handle_of_ensure (hd : d.InOrder)
    (hh : Response.handle? (.ensured (d.ensure c).2) = some h) :
    h ∈ (d.ensure c).1.handles := by
  have he := ensures_ensure d c
  generalize d.ensure c = result at he hh ⊢
  cases he with
  | join hr =>
    obtain rfl : _ = h := Option.some.inj hh
    exact ((hd.registered_iff ⟨c.key, _⟩).mp (mem_of_lookup hr)).1
  | submit =>
    obtain rfl : _ = h := Option.some.inj hh
    show _ ∈ ((d.told c).accept c).handles
    rw [handles_accept]
    exact List.mem_append_right _ List.mem_cons_self
  | requestPanic | skip | skipPanic | refuse => cases hh

theorem handle_of_move (hd : d.InOrder) {m : Move} (hh : (d.move m).2.handle? = some h) :
    h ∈ (d.move m).1.handles := by
  have hensured : ∃ e, (d.move m).2 = .ensured e := by
    unfold Response.handle? at hh
    split at hh
    · next hr => exact ⟨_, hr⟩
    · cases hh
  obtain ⟨e, he⟩ := hensured
  obtain ⟨c, rfl, -⟩ := request_of_ensured he
  exact handle_of_ensure hd hh

/-- What was handed out are handles of downloads. -/
theorem handedOut_subset : ∀ (ms : List Move) {d : Downloader}, d.InOrder →
    handedOut (d.moveAll ms).2 ⊆ (d.moveAll ms).1.handles
  | [], d, _ => List.nil_subset _
  | m :: ms, d, hd => by
    intro h hm
    rw [moveAll_cons] at hm ⊢
    obtain ⟨r, hr, hh⟩ := List.mem_filterMap.mp hm
    obtain rfl | hr := List.mem_cons.mp hr
    · exact handles_subset _ ms (handle_of_move hd hh)
    · exact handedOut_subset ms (hd.moveAll [m]) (List.mem_filterMap.mpr ⟨r, hr, hh⟩)

/-- The handles of the downloads that have not ended. -/
def openHandles (d : Downloader) : List Handle := d.handles.filter fun h => (d.result? h).isNone

/-- As many downloads have not ended as the pool has tasks that have not. -/
theorem length_openHandles (d : Downloader) : d.openHandles.length = d.pool.active := by
  have hmap : d.openHandles.map Handle.task = d.pool.live := by
    have hfilter := List.filter_map (p := fun i => (d.pool.result? i).isNone) (f := Handle.task)
      (l := d.handles)
    rw [tasks_handles, Pool.length_works] at hfilter
    rw [openHandles, Pool.live, List.range_eq_range']
    refine hfilter.symm.trans (List.filter_congr fun i hi => ?_)
    have hlt : i < d.pool.tasks.length := by simpa using hi
    rw [Pool.result?, List.getElem?_eq_getElem hlt]
    rfl
  rw [Pool.active_eq, ← hmap, List.length_map]

/-! ### The window and what follows it -/

/-- The downloader when the window of a shutdown is over, before what is left is abandoned. -/
def closing (d : Downloader) (window : Nat) : Downloader :=
  { d with pool := d.pool.drain d.config.workload window }

theorem drains_closing (d : Downloader) (window : Nat) :
    Pool.Drains window d.pool (d.closing window).pool := Pool.drains_drain _ _

theorem later_closing (d : Downloader) (window : Nat) : Later d (d.closing window) :=
  changes_pool (Pool.changes_drain _ _)

theorem later_shutdown (d : Downloader) (window : Nat) :
    Later (d.closing window) (d.shutdown window).1 :=
  changes_pool (d := d.closing window) (Pool.changes_abandon _)

theorem handles_closing (d : Downloader) (window : Nat) : (d.closing window).handles = d.handles :=
  handles_pool (Pool.changes_drain _ _)

theorem report_shutdown (d : Downloader) (window : Nat) : (d.shutdown window).2 =
    ⟨(d.closing window).pool.active == 0, (d.closing window).pool.active⟩ := rfl

/-- All downloads have ended just if no task is left. -/
theorem active_eq_zero_iff : d.pool.active = 0 ↔ ∀ h ∈ d.handles, d.result? h ≠ none := by
  rw [← length_openHandles, List.length_eq_zero_iff, openHandles, List.filter_eq_nil_iff]
  simp

/-! ### A locked pool starts nothing -/

/-- No task starts, and the resolver is not called. -/
structure Frozen (d d' : Downloader) : Prop where
  locked : d'.pool.teardown = .locked
  calls : d'.shared.calls = d.shared.calls
  starts : ∀ i, .started i ∈ d'.pool.history ↔ .started i ∈ d.pool.history

theorem frozen_change (hk : d.pool.teardown = .locked) (h : Change R d d') : Frozen d d' := by
  cases h with
  | pool h =>
    have hk' := h.onward.locked hk
    cases h with
    | start _ _ _ hc => exact absurd hk hc
    | through => exact ⟨hk', rfl, fun i => List.mem_append.trans (or_iff_left (by simp))⟩
    | run =>
      refine ⟨hk', ?_, fun i => by rw [Pool.history_runJob]⟩
      rw [shared, Pool.world_runJob]
      rfl
    | finish ht =>
      refine ⟨hk', ?_, fun i => by rw [Pool.history_finish ht]⟩
      rw [shared, Pool.world_finish ht]
      rfl
    | queue | tick | gate | line | proceed | notice | handOver | close | cancel | lock =>
      exact ⟨hk', rfl, fun _ => Iff.rfl⟩
  | tell | install | replace | add | submit | observe => exact ⟨hk, rfl, fun _ => Iff.rfl⟩

theorem Frozen.trans {d₁ d₂ d₃ : Downloader} (h : Frozen d₁ d₂) (h' : Frozen d₂ d₃) :
    Frozen d₁ d₃ :=
  ⟨h'.locked, h'.calls.trans h.calls, fun i => (h'.starts i).trans (h.starts i)⟩

theorem frozen_changes (hk : d.pool.teardown = .locked) (hc : Changes R d d') : Frozen d d' := by
  induction hc with
  | refl => exact ⟨hk, rfl, fun _ => Iff.rfl⟩
  | tail _ h ih => exact ih.trans (frozen_change ih.locked h)

/-- **From the end of the window on** nothing starts. -/
theorem frozen_later (hc : Changes R (d.shutdown window).1 d') : Frozen (d.closing window) d' := by
  let torn : Downloader := { d.closing window with pool := (d.closing window).pool.tearDown }
  have hlater : Later torn (d.shutdown window).1 :=
    changes_pool (d := torn) (Pool.changes_settle _)
  have hfrozen := frozen_changes (d := torn) rfl hlater
  have hshutdown : Frozen (d.closing window) (d.shutdown window).1 :=
    ⟨hfrozen.locked, hfrozen.calls, hfrozen.starts⟩
  exact hshutdown.trans (frozen_changes hfrozen.locked hc)

/-! ### A downloader that was shut down -/

/-- A request that leads to no download: its artifact is present, or the downloader is shut down, or
the listener panics. -/
inductive Refused (d : Downloader) (c : Coordinate) : Except Failure Ensured → Prop
  | skipped {hit : Hit} (hl : d.classpath.lookup c = some hit) : Refused d c (.ok (.skipped hit))
  | shuttingDown (hl : d.classpath.lookup c = none) : Refused d c (.error (.error .shuttingDown))
  | panic {p : Panic}
    (hq : ¬ (d.classpath.Quiet (.requested c) ∧ d.classpath.Quiet (.available c))) :
    Refused d c (.error (.panic p))

/-- **A downloader that was shut down** after the given calls of the resolver. -/
structure ShutDown (calls : List Call) (d : Downloader) : Prop where
  empty : d.pool.active = 0 ∧ d.inFlight = 0
  calls : d.shared.calls = calls
  ensures : ∀ c, Refused d c (d.ensure c).2
  spawns : ∀ c, d.pool.spawn c = none
  again : ∀ window, (d.shutdown window).2 = ⟨true, 0⟩

theorem inFlight_eq_zero (hd : d.InOrder) (ha : d.pool.active = 0) : d.inFlight = 0 := by
  rw [inFlight, List.length_eq_zero_iff, List.eq_nil_iff_forall_not_mem]
  rintro ⟨k, id⟩ hk
  obtain ⟨c, ph, hst, hl, -⟩ := openKeys_eq_some_iff.mp ((hd.registry.mem k id).mp hk)
  rw [Pool.active_eq_zero_iff.mp ha id c ph hst] at hl
  cases hl

theorem refused_ensure (hs : Pool.Shut d.pool) (hr : d.shared.registry = []) (c : Coordinate) :
    Refused d c (d.ensure c).2 := by
  have he := ensures_ensure d c
  generalize d.ensure c = result at he ⊢
  cases he with
  | requestPanic hn =>
    refine .panic fun hq => ?_
    rw [hq.1.deliver none] at hn
    cases hn
  | join hl =>
    rw [hr] at hl
    cases hl
  | skip _ hp => exact .skipped hp
  | @skipPanic hit _ _ _ _ hn =>
    refine .panic fun hq => ?_
    have hq₁ : (d.told c).classpath.Quiet (.available c) :=
      hq.2.of_installed (ListenerSlot.installed_deliver _ _ _)
    have hquiet := hq₁.notifyHit none hit
    rw [hn] at hquiet
    cases hquiet
  | refuse _ hp => exact .shuttingDown hp
  | submit _ _ hc =>
    rw [hs.closed] at hc
    cases hc

theorem shut_change (hs : Pool.Shut d.pool) (h : Change R d d') : Pool.Shut d'.pool := by
  cases h with
  | pool h => exact hs.change h
  | tell | install | replace | add | observe => exact ⟨hs.closed, hs.cancelled, hs.active⟩
  | submit _ _ _ hc =>
    rw [hs.closed] at hc
    cases hc

theorem shut_changes (hs : Pool.Shut d.pool) (hc : Changes R d d') : Pool.Shut d'.pool :=
  of_changes (P := fun d => Pool.Shut d.pool) (fun _ _ h hs => shut_change hs h) hc hs

theorem shutDown_of_shut (hs : Pool.Shut d.pool) (hd : d.InOrder) :
    ShutDown d.shared.calls d where
  empty := ⟨hs.active, inFlight_eq_zero hd hs.active⟩
  calls := rfl
  ensures c := refused_ensure hs (List.length_eq_zero_iff.mp (inFlight_eq_zero hd hs.active)) c
  spawns c := Pool.spawn_of_closed hs.closed c
  again window := hs.report window

/-- **Nothing comes back to life** after a shutdown. -/
theorem shutDown_later (hd : d.InOrder) (hc : Changes R (d.shutdown window).1 d') :
    ShutDown (d.closing window).shared.calls d' := by
  have hshut : Pool.Shut d'.pool := shut_changes (Pool.shut_shutdown window d.pool) hc
  have horder : d'.InOrder := (hd.moveAll [.act (.shutdown window)]).changes hc
  rw [← (frozen_later hc).calls]
  exact shutDown_of_shut hshut horder

/-! ### Tasks in line -/

theorem startsSound_change (h : Change R d d') (hs : Pool.StartsSound d.pool) :
    Pool.StartsSound d'.pool := by
  cases h with
  | pool h => exact hs.lineup h.lineup
  | tell | install | replace | add | observe => exact ⟨hs.begun, hs.left⟩
  | submit =>
    have haccept := hs.accept
    exact ⟨(haccept _).begun, (haccept _).left⟩

theorem startsSound_of_build {b : Builder} {files : FileTree}
    {environment : String → Option Bytes} (hb : b.build files environment = .ok d) :
    Pool.StartsSound d.pool := by
  obtain ⟨limit, classpath, hp, -⟩ := pool_of_build hb
  rw [hp]
  exact ⟨fun i hi => by simp [Pool.places, Pool.stages, Pool.withLimit] at hi,
    fun i hi => by simp [Pool.withLimit] at hi⟩

/-- A task that is in line has not started, and it does not start while nothing does. -/
theorem never_started {i : Nat} (hd : d.InOrder) (hs : Pool.StartsSound d.pool)
    (hst : d.pool.stages[i]? = some (c, .queued)) (hf : Frozen d d') :
    .started i ∉ d'.pool.history ∧ ∀ call ∈ d'.shared.calls, call.task ≠ i := by
  refine ⟨fun hm => ?_, fun call hcall => ?_⟩
  · obtain ⟨p, hp, hne⟩ := hs.left i ((hf.starts i).mp hm)
    rw [Pool.getElem?_places hst] at hp
    exact hne (Option.some.inj hp).symm
  · rw [hf.calls] at hcall
    obtain ⟨c', ph, hst', hne, -⟩ := hd.calls.begun call hcall
    rintro rfl
    exact hne (Pool.stage_inj hst' hst).2

/-! ### Who cancels a pool -/

theorem cancelled_ensure (d : Downloader) (c : Coordinate) :
    (d.ensure c).1.pool.cancelled = d.pool.cancelled := by
  have he := ensures_ensure d c
  generalize d.ensure c = result at he ⊢
  cases he with
  | requestPanic | join | skip | skipPanic | refuse | submit => rfl

theorem cancelled_wait (d : Downloader) (h : Handle) (patience : Nat) :
    (d.wait h patience).1.pool.cancelled = d.pool.cancelled := by
  rw [pool_wait]
  exact (Pool.lapses_await h.task patience d.pool).flags.2

/-- A pool is cancelled by a shutdown, in one move or in two. -/
theorem cancelled_move {m : Move} (hk : (d.move m).1.pool.cancelled = true) :
    d.pool.cancelled = true ∨ m = .cancel ∨ ∃ window, m = .act (.shutdown window) := by
  cases m with
  | act a =>
    cases a with
    | ensure c => exact .inl ((cancelled_ensure d c).symm.trans hk)
    | wait h patience => exact .inl ((cancelled_wait d h patience).symm.trans hk)
    | advance millis => exact .inl ((Pool.lapses_advance millis d.pool).flags.2.symm.trans hk)
    | shutdown window => exact .inr (.inr ⟨window, rfl⟩)
    | release | setListener | setFiles | addFile | inquire => exact .inl hk
  | look id => exact .inl ((Pool.looks_poll d.pool id).stands.cancelled.symm.trans hk)
  | job i =>
    left
    change (d.pool.runJobAt d.config.workload i).cancelled = true at hk
    unfold Pool.runJobAt at hk
    split at hk
    · exact (Pool.stands_runJob _ _ _ d.pool).cancelled.symm.trans hk
    · exact hk
  | tick | close => exact .inl hk
  | cancel => exact .inr (.inl rfl)
  | lock => exact .inl (d.pool.teardown.cancels_lock.symm.trans hk)

/-- If every shutdown is one move, a cancelled pool is one that was shut down. -/
theorem shut_of_cancelled : ∀ {ms : List Move} {d : Downloader},
    (d.pool.cancelled = true → Pool.Shut d.pool) → .cancel ∉ ms →
      (d.moveAll ms).1.pool.cancelled = true → Pool.Shut (d.moveAll ms).1.pool
  | [], d, hd, _ => hd
  | m :: ms, d, hd, hm => by
    rw [List.mem_cons, not_or] at hm
    rw [moveAll_cons]
    refine shut_of_cancelled (fun hk => ?_) hm.2
    obtain hk | rfl | ⟨window, rfl⟩ := cancelled_move hk
    · exact shut_changes (hd hk) (later_move d m)
    · exact absurd rfl hm.1
    · exact Pool.shut_shutdown window d.pool

/-! ### The shutdown -/

/-- A download ends on the way from `d` to `d'` with a result of which `P` holds. -/
def EndsAmid (P : Outcome → Prop) (d d' : Downloader) (h : Handle) : Prop :=
  ∃ c time r, d'.pool.stages[h.task]? = some (c, .ended time r) ∧
    d.pool.now ≤ time ∧ time ≤ d'.pool.now ∧ P r

/-- The own outcome of a download, or what it gets when its pool is cancelled. -/
def OwnOrCancelled (d₀ d : Downloader) (h : Handle) (r : Outcome) : Prop :=
  Own d₀ d h r ∨ d.pool.cancelled = true ∧ r = .error (.cancelled h.key)

/-- **What a shutdown leaves**, in a run from `d₀` to `d` in which the given handles were handed
out. Unless `apart` holds, another shutdown may go on at the same time. -/
structure ShutdownFinal (d₀ d : Downloader) (handed : List Handle) (apart : Prop) (window : Nat) :
    Prop where
  /-- Every handle has a result, the own outcome of the download or `cancelled`. -/
  results : ∀ h ∈ handed, ∃ r, (d.shutdown window).1.result? h = some r ∧
    OwnOrCancelled d₀ (d.shutdown window).1 h r
  /-- Drained means that all downloads have ended by themselves within the window. -/
  drained_iff : apart → ((d.shutdown window).2.drained = true ↔
    ∀ h ∈ d.openHandles, EndsAmid (Own d₀ (d.closing window) h) d (d.closing window) h)
  inTime : (d.closing window).pool.now ≤ d.pool.now + window
  drained : (d.shutdown window).2.drained = true → (d.shutdown window).2.abandoned = 0 ∧
    ∀ h ∈ d.handles, (d.shutdown window).1.result? h = (d.closing window).result? h
  /-- Otherwise the window is over, and as many are abandoned as are left then. -/
  abandoned : (d.shutdown window).2.drained = false → 1 ≤ (d.shutdown window).2.abandoned ∧
    (d.shutdown window).2.abandoned = (d.closing window).openHandles.length ∧
    (d.closing window).pool.now = d.pool.now + window
  /-- Who gets a result after that was left then. -/
  left : ∀ h ∈ d.handles, (d.shutdown window).1.result? h ≠ (d.closing window).result? h →
    h ∈ (d.closing window).openHandles
  /-- While the window is open, whatever else happens, all downloads have ended just if each has its
  own outcome or was cancelled by another shutdown. -/
  overlap : ∀ ns : List Move, let d' := ((d.move .close).1.moveAll ns).1
    d'.pool.active = 0 ↔ ∀ h ∈ d.openHandles, EndsAmid (OwnOrCancelled d₀ d' h) d d' h
  /-- A download that is in line when the window is over never starts. -/
  unstarted : ∀ i c, (d.closing window).pool.stages[i]? = some (c, .queued) → ∀ ns : List Move,
    .started i ∉ ((d.shutdown window).1.moveAll ns).1.pool.history ∧
      ∀ call ∈ ((d.shutdown window).1.moveAll ns).1.shared.calls, call.task ≠ i
  /-- So it is if the shutdown goes on in parts: who is in line when the pool is locked never
  starts. -/
  locked : d.pool.cancelled = true → ∀ i c, d.pool.stages[i]? = some (c, .queued) →
    ∀ ns : List Move, .started i ∉ ((d.move .lock).1.moveAll ns).1.pool.history ∧
      ∀ call ∈ ((d.move .lock).1.moveAll ns).1.shared.calls, call.task ≠ i
  /-- From then on the downloader is shut down. -/
  final : ∀ ns : List Move,
    ShutDown (d.closing window).shared.calls ((d.shutdown window).1.moveAll ns).1

theorem drained_iff_active : (d.shutdown window).2.drained = true ↔
    (d.closing window).pool.active = 0 := by
  rw [report_shutdown]
  exact beq_iff_eq

theorem now_le_changes (hc : Changes R d d') : d.pool.now ≤ d'.pool.now := by
  induction hc with
  | refl => exact Nat.le_refl _
  | tail _ h ih =>
    refine Nat.le_trans ih ?_
    cases h with
    | pool h => exact h.onward.now
    | tell | install | replace | add | submit | observe => exact Nat.le_refl _

/-- A download that ends on the way ends between the two instants. -/
theorem ended_between {i : Nat} {c c' : Coordinate} {ph : Phase Found Outcome} {time : Instant}
    (hc : Changes R d d') (hst : d.pool.stages[i]? = some (c', ph)) (hl : ph.isLive = true)
    (hst' : d'.pool.stages[i]? = some (c, .ended time r)) :
    d.pool.now ≤ time ∧ time ≤ d'.pool.now := by
  induction hc with
  | refl =>
    obtain ⟨-, rfl⟩ := Pool.stage_inj hst hst'
    cases hl
  | @tail d₁ d₂ hc h ih =>
    have hnow : d₁.pool.now ≤ d₂.pool.now := now_le_changes (.single h)
    cases h with
    | pool h =>
      obtain hold | ⟨rfl, -⟩ := h.effect.ended_after hst'
      · exact ⟨(ih hold).1, Nat.le_trans (ih hold).2 hnow⟩
      · exact ⟨now_le_changes hc, hnow⟩
    | tell | install | replace | add | observe => exact ih hst'
    | submit =>
      obtain hold | ⟨-, -, hq⟩ := of_stage_accept hst'
      · exact ih hold
      · cases hq

/-- A download that had not ended, and has a result on the way, ends there. -/
theorem endsAmid_of_result {P : Outcome → Prop} (hc : Changes R d d') (ho : h ∈ d.openHandles)
    (hr : d'.result? h = some r) (hP : P r) : EndsAmid P d d' h := by
  obtain ⟨hm, hnone⟩ := List.mem_filter.mp ho
  obtain ⟨c, ph, hst, -⟩ := mem_handles.mp hm
  have hl : ph.isLive = true :=
    (isLive_iff_of_stage hst).mpr (Option.isNone_iff_eq_none.mp hnone)
  obtain ⟨c', time, hst'⟩ := result?_eq_some_iff.mp hr
  obtain ⟨hlo, hhi⟩ := ended_between hc hst hl hst'
  exact ⟨c', time, r, hst', hlo, hhi, hP⟩

/-- **While nothing is submitted**, all downloads have ended just if those that had not have ended
on the way, with a result of which `P` holds of all results. -/
theorem active_iff_endsAmid {P : Handle → Outcome → Prop} (hc : Changes R d d')
    (hh : d'.handles = d.handles)
    (hP : ∀ h ∈ d.openHandles, ∀ r, d'.result? h = some r → P h r) :
    d'.pool.active = 0 ↔ ∀ h ∈ d.openHandles, EndsAmid (P h) d d' h := by
  rw [active_eq_zero_iff, hh]
  constructor
  · intro hall h ho
    obtain ⟨r, hr⟩ := Option.ne_none_iff_exists'.mp (hall h (List.mem_filter.mp ho).1)
    exact endsAmid_of_result hc ho hr (hP h ho r hr)
  · intro hall h hm
    rcases hr : d.result? h with _ | r
    · have ho : h ∈ d.openHandles := List.mem_filter.mpr ⟨hm, by rw [hr]; rfl⟩
      obtain ⟨c, time, r, hst, -⟩ := hall h ho
      rw [result?_eq_some_iff.mpr ⟨c, time, hst⟩]
      exact Option.some_ne_none r
    · rw [result?_changes hc hr]
      exact Option.some_ne_none r

/-- A closed downloader takes no new downloads. -/
theorem handles_of_closed (hc : Changes R d d') (hk : d.pool.closed = true) :
    d'.handles = d.handles := by
  have hboth : d'.handles = d.handles ∧ d'.pool.closed = true := by
    induction hc with
    | refl => exact ⟨rfl, hk⟩
    | tail _ h ih =>
      cases h with
      | pool h => exact ⟨(handles_pool (.single h)).trans ih.1, h.onward.closed ih.2⟩
      | tell | install | replace | add | observe => exact ih
      | submit _ _ _ hopen =>
        rw [ih.2] at hopen
        cases hopen
  exact hboth.1

theorem handles_shutdown (d : Downloader) (window : Nat) :
    (d.shutdown window).1.handles = d.handles :=
  handles_pool (Pool.changes_shutdown window d.pool)

/-- Every download has a result after a shutdown. -/
theorem exists_result_shutdown (hm : h ∈ d.handles) :
    ∃ r, (d.shutdown window).1.result? h = some r := by
  have hshut : Pool.Shut (d.shutdown window).1.pool := Pool.shut_shutdown window d.pool
  have hgone := active_eq_zero_iff.mp hshut.active
  exact Option.ne_none_iff_exists'.mp (hgone h (by rwa [handles_shutdown]))

/-- Who has a result when the window is over keeps it. -/
theorem left_of_result_ne (hm : h ∈ d.handles)
    (hne : (d.shutdown window).1.result? h ≠ (d.closing window).result? h) :
    h ∈ (d.closing window).openHandles := by
  refine List.mem_filter.mpr ⟨by rwa [handles_closing], ?_⟩
  rcases hr : (d.closing window).result? h with _ | r
  · rfl
  · exact absurd ((result?_changes (later_shutdown d window) hr).trans hr.symm) hne

theorem result?_of_drained (hdr : (d.shutdown window).2.drained = true) (hm : h ∈ d.handles) :
    (d.shutdown window).1.result? h = (d.closing window).result? h := by
  rw [drained_iff_active, active_eq_zero_iff, handles_closing] at hdr
  obtain ⟨r, hr⟩ := Option.ne_none_iff_exists'.mp (hdr h hm)
  rw [hr, result?_changes (later_shutdown d window) hr]

/-- Otherwise the window is over, and what is left then is abandoned. -/
theorem abandoned_of_not_drained (hdr : (d.shutdown window).2.drained = false) :
    1 ≤ (d.shutdown window).2.abandoned ∧
      (d.shutdown window).2.abandoned = (d.closing window).openHandles.length ∧
      (d.closing window).pool.now = d.pool.now + window := by
  have hne : (d.closing window).pool.active ≠ 0 := by
    rw [Ne, ← drained_iff_active, hdr]
    exact Bool.false_ne_true
  have htime := (drains_closing d window).elapsed.resolve_left hne
  rw [report_shutdown, length_openHandles]
  exact ⟨Nat.one_le_iff_ne_zero.mpr hne, rfl, htime⟩

/-- Apart from other shutdowns, drained means that all downloads have ended by themselves. -/
theorem drained_iff_own (hsound : OutcomesSound d₀ (d.closing window))
    (hcut : d.pool.cancelled = true → d.pool.active = 0) :
    (d.shutdown window).2.drained = true ↔
      ∀ h ∈ d.openHandles, EndsAmid (Own d₀ (d.closing window) h) d (d.closing window) h := by
  rw [drained_iff_active]
  refine active_iff_endsAmid (later_closing d window) (handles_closing d window) fun h ho r hr => ?_
  obtain ⟨hm, hnone⟩ := List.mem_filter.mp ho
  have hm' : h ∈ (d.closing window).handles := by rwa [handles_closing]
  refine (own_or_cancelled hsound hm' hr).resolve_right fun hother => ?_
  have hcancelled : d.pool.cancelled = true :=
    (drains_closing d window).cancelled.symm.trans hother.1
  refine active_eq_zero_iff.mp (hcut hcancelled) h hm ?_
  exact Option.isNone_iff_eq_none.mp hnone

/-- **While the window of a shutdown is open**, whatever else happens. -/
theorem active_amid {d' : Downloader} (hsound : OutcomesSound d₀ d')
    (hc : Later (d.move .close).1 d') :
    d'.pool.active = 0 ↔ ∀ h ∈ d.openHandles, EndsAmid (OwnOrCancelled d₀ d' h) d d' h := by
  have hlater : Later d d' := (later_move d .close).trans hc
  have hh : d'.handles = d.handles := handles_of_closed (d := (d.move .close).1) hc rfl
  refine active_iff_endsAmid hlater hh fun h ho r hr => ?_
  exact own_or_cancelled hsound (by rw [hh]; exact (List.mem_filter.mp ho).1) hr

end ArtifactFetch.Downloader
