import ArtifactFetch.Proofs.Downloader.Additions
import ArtifactFetch.Proofs.Downloader.SecondFetch
import ArtifactFetch.Proofs.Downloader.Steps
import ArtifactFetch.Proofs.Pool.Jobs

/-! # Panics are contained

A panic of the resolver ends its task in the step in which it is raised (`PanicSound`). A panic of
the listener or the class loader stops a registration at one artifact, and its task is told so: it
ends with that as its result unless the pool is cancelled before it is looked at, or it had ended
anyway (`JobPanicked`). In either case the other tasks are spared (`Spares`), the task ends in the
order in which every download ends, and the downloader is in order as after any other end of a
download (`panics_contained`). -/

namespace ArtifactFetch.Downloader

variable {R : Coordinate → Prop} {d₀ d d' d₁ d₂ : Downloader} {id : Nat} {c : Coordinate}
  {ph : Phase Found Outcome} {j : Found} {p : Panic} {h : Handle} {r : Outcome}

/-! ### The other tasks -/

/-- Only one task is concerned: every other has come as far as before, with its entry in the
registry, its slot and its result. -/
structure Spares (d d' : Downloader) (id : Nat) : Prop where
  stages : ∀ i, i ≠ id → d'.pool.stages[i]? = d.pool.stages[i]?
  registry : ∀ k i, i ≠ id → ((k, i) ∈ d'.shared.registry ↔ (k, i) ∈ d.shared.registry)
  slots : ∀ i, i ≠ id → (i ∈ d'.pool.underWay ↔ i ∈ d.pool.underWay)
  results : ∀ h : Handle, h.task ≠ id → d'.result? h = d.result? h

/-- What the slots, the registry and the calls of a downloader have to do with its tasks. -/
structure Kept (d : Downloader) : Prop where
  order : d.InOrder
  starts : Pool.StartsSound d.pool
  jobs : Pool.JobsSound d.pool
  traces : TracesSound d.pool
  answers : AnswersSound d.config d.pool
  through : Pool.ThroughSound d.pool

theorem Kept.spares (hd : d.Kept) (hd' : d'.Kept)
    (hst : ∀ i, i ≠ id → d'.pool.stages[i]? = d.pool.stages[i]?) : Spares d d' id where
  stages := hst
  registry k i hi := by
    rw [shared, shared, hd'.order.registry.mem, hd.order.registry.mem, Pool.openKeys, Pool.openKeys,
      List.getElem?_map, List.getElem?_map, hst i hi]
  slots i hi := by
    rw [hd'.starts.mem_underWay, hd.starts.mem_underWay, Pool.places, Pool.places,
      List.getElem?_map, List.getElem?_map, hst i hi]
  results h hi := by
    rw [result?_eq, result?_eq, hst _ hi]

theorem jobsSound_change (h : Change R d d') (hs : Pool.JobsSound d.pool) :
    Pool.JobsSound d'.pool := by
  cases h with
  | pool h => exact hs.effect h.effect
  | tell | install | replace | add | observe => exact ⟨hs.once, hs.held, hs.pending⟩
  | @submit c =>
    have haccept := hs.accept c
    exact ⟨haccept.once, haccept.held, haccept.pending⟩

theorem throughSound_change (h : Change R d d') (hs : Pool.ThroughSound d.pool) :
    Pool.ThroughSound d'.pool := by
  cases h with
  | pool h => exact hs.change h
  | tell | install | replace | add | observe => exact hs
  | submit =>
    intro i hm
    obtain ⟨c, ph, hst, hq⟩ := hs i hm
    exact ⟨c, ph, stage_accept_of hst _, hq⟩

theorem Kept.change (hd : d.Kept) (h : Change R d d') : d'.Kept where
  order := hd.order.change h
  starts := startsSound_change h hd.starts
  jobs := jobsSound_change h hd.jobs
  traces := tracesSound_change h hd.traces
  answers := answersSound_change h hd.answers
  through := throughSound_change h hd.through

theorem Kept.changes (hd : d.Kept) (hc : Changes R d d') : d'.Kept :=
  of_changes (P := Kept) (fun _ _ h hd => hd.change h) hc hd

theorem kept_of_build {b : Builder} {files : FileTree} {environment : String → Option Bytes}
    (hb : b.build files environment = .ok d) : d.Kept := by
  obtain ⟨limit, classpath, hp, hd⟩ := pool_of_build hb
  have hnone : ∀ id, d.pool.world.tracesOf id = .none := fun id => by
    rw [hp]
    simp [Shared.tracesOf, Pool.withLimit, hd, Traces.none]
  refine ⟨(inOrder_of_build hb).1, startsSound_of_build hb, ?_, ⟨?_, fun hst => ?_, fun hm => ?_,
    fun _ => hnone _⟩, answersSound_of_build hb, fun i hm => ?_⟩
  · rw [hp]
    exact Pool.jobsSound_withLimit _ _
  · rw [hp]
    exact List.nodup_nil
  · simp [hp, Pool.stages, Pool.withLimit] at hst
  · simp [hp, Pool.withLimit] at hm
  · simp [hp, Pool.withLimit] at hm

/-! ### Panics of the resolver -/

/-- A task that the resolver has answered with a panic, and that has come through its waits, has
ended with that. -/
def PanicSound (d : Downloader) (id : Nat) : Prop :=
  ∀ c ph p, d.pool.stages[id]? = some (c, ph) → (id, .panic p) ∈ d.answers →
    .finished id ∈ d.pool.history →
      ∃ time, ph = .ended time (.error (.taskPanicked c.key p.message))

theorem history_change (h : Change R d d') : d.pool.history ⊆ d'.pool.history := by
  cases h with
  | pool h => exact h.history
  | tell | install | replace | add | submit | observe => exact List.Subset.refl _

/-- The answer to a task that is not in line was there before. -/
theorem answer_before (h : Change R d d') (hst : d.pool.stages[id]? = some (c, ph))
    (hq : ph ≠ .queued) {a : Answer} (ha : (id, a) ∈ d'.answers) : (id, a) ∈ d.answers := by
  cases h with
  | pool h =>
    obtain hc | ⟨i, c', hi, hc⟩ := calls_effect h.effect <;>
      rw [answers, Downloader.shared, hc] at ha
    · exact ha
    · rw [answers_append, List.mem_append] at ha
      refine ha.resolve_right fun ha => hq ?_
      obtain ⟨rfl, -⟩ := Prod.mk.inj (List.mem_singleton.mp ha)
      exact (Pool.stage_inj hi hst).2 ▸ rfl
  | tell | install | replace | add | submit | observe => exact ha

theorem stage_change (h : Change R d d') (hst : d.pool.stages[id]? = some (c, ph)) :
    ∃ ph', d'.pool.stages[id]? = some (c, ph') ∧ (ph.isLive = false → ph' = ph) := by
  cases h with
  | pool h =>
    obtain ⟨ph', hst', hor⟩ := h.effect.stage hst
    refine ⟨ph', hst', fun hl => hor.resolve_right fun h => ?_⟩
    rw [hl] at h
    cases h.1
  | tell | install | replace | add | observe => exact ⟨ph, hst, fun _ => rfl⟩
  | submit => exact ⟨ph, stage_accept_of hst _, fun _ => rfl⟩

/-- Changes in which the task does not come through its waits. -/
theorem PanicSound.changes (hp : d.PanicSound id) (hd : d.Kept) (hc : Changes R d d')
    (hf : .finished id ∈ d'.pool.history → .finished id ∈ d.pool.history) : d'.PanicSound id := by
  induction hc with
  | refl => exact hp
  | @tail d₁ d₂ hc h ih =>
    have hp₁ : d₁.PanicSound id := ih fun hm => hf (history_change h hm)
    intro c ph p hst ha hm
    have hm₁ : .finished id ∈ d₁.pool.history := by
      refine of_changes (P := fun d => .finished id ∈ d.pool.history)
        (fun _ _ h hm => history_change h hm) hc (hf hm)
    obtain ⟨c₁, ph₁, hst₁, hq⟩ := (hd.changes hc).through id hm₁
    obtain ⟨time, rfl⟩ := hp₁ c₁ ph₁ p hst₁ (answer_before h hst₁ hq ha) hm₁
    obtain ⟨ph', hst', hsame⟩ := stage_change h hst₁
    obtain ⟨rfl, rfl⟩ := Pool.stage_inj hst' hst
    exact ⟨time, hsame rfl⟩

/-- A task that goes on ends with the panic of the resolver when it comes through its waits. -/
theorem PanicSound.goOn (hp : d.PanicSound id) (hd : d.Kept) (i : Nat) :
    ({ d with pool := d.pool.goOn d.config.workload i } : Downloader).PanicSound id := by
  have hlooks := Pool.looks_goOn (w := d.config.workload) d.pool i
  have hlater : Later d { d with pool := d.pool.goOn d.config.workload i } :=
    changes_pool hlooks.changes
  by_cases hi : i = id
  swap
  · exact hp.changes hd hlater (Pool.finished_of_looks hlooks (Ne.symm hi))
  subst hi
  obtain hsame | ⟨s₁, t, waits, e, hlooks, ht, hwork, hfin, hgoes⟩ :=
    Pool.same_or_walks (w := d.config.workload) d.pool i
  · exact hp.changes hd hlater fun hm => by rwa [← hsame]
  by_cases hm₀ : .finished i ∈ d.pool.history
  · exact hp.changes hd hlater fun _ => hm₀
  intro c ph p hst ha hm
  -- the walk ends as the answer says, and that is the panic
  have h₁ : Later d { d with pool := s₁ } := changes_pool hlooks.changes
  have hst₁ := Pool.getElem?_stages ht
  obtain ⟨a, ha₁, he⟩ := ((hd.changes h₁).answers.stages hst₁).working e (by rw [hwork]; rfl)
  have hwalk : Later { d with pool := s₁ } { d with pool := d.pool.goOn d.config.workload i } := by
    rw [hgoes]
    exact changes_pool (d := { d with pool := s₁ }) (Pool.looks_walk waits ht hwork).changes
  obtain rfl : a = .panic p :=
    (hd.changes hlater).order.calls.answer_unique (answers_changes hwalk ha₁) ha
  obtain rfl : e = .done (.error (.taskPanicked t.work.key p.message)) := he
  change .finished i ∈ (d.pool.goOn d.config.workload i).history at hm
  change (d.pool.goOn d.config.workload i).stages[i]? = _ at hst
  rw [hgoes] at hm hst
  rw [Pool.ended_of_walk waits ht rfl (fun h => hm₀ (hfin h)) hm] at hst
  cases hst
  exact ⟨_, rfl⟩

/-- **Looking at a task**, a panic of the resolver ends it. -/
theorem PanicSound.look (hp : d.PanicSound id) (hd : d.Kept) (i : Nat) :
    ({ d with pool := d.pool.poll d.config.workload i } : Downloader).PanicSound id := by
  rcases hc : d.pool.cancelled with _ | _
  · rw [Pool.poll_of_running hc]
    exact hp.goOn hd i
  · obtain ⟨s₁, hs₁, he⟩ := Pool.poll_of_cancelled d.config.workload hc i
    -- what was abandoned after it went on came through no wait by that
    have h₁ : ({ d with pool := s₁ } : Downloader).PanicSound id ∧ Later d { d with pool := s₁ } ∧
        s₁.cancelled = true := by
      obtain rfl | rfl := hs₁
      · exact ⟨hp, .refl, hc⟩
      · have hlooks := Pool.looks_goOn (w := d.config.workload) d.pool i
        exact ⟨hp.goOn hd i, changes_pool hlooks.changes, hlooks.stands.cancelled.trans hc⟩
    obtain ⟨hp₁, hlater, hc₁⟩ := h₁
    rw [he]
    have hgives : Later { d with pool := s₁ } { d with pool := s₁.giveUp d.config.workload i } :=
      changes_pool (d := { d with pool := s₁ }) (Pool.looks_giveUp hc₁ i).changes
    refine hp₁.changes (hd.changes hlater) hgives fun hm => ?_
    rwa [← Pool.history_giveUp (w := d.config.workload) i s₁]

theorem PanicSound.step (hp : d.PanicSound id) (hd : d.Kept) (h : Step d d') :
    d'.PanicSound id := by
  have hlater := h.later
  cases h with
  | host h _ hh => exact hp.changes hd hlater fun hm => by rwa [← hh]
  | @pool pool h hc =>
    have hkeep : pool.history = d.pool.history →
        ({ d with pool := pool } : Downloader).PanicSound id :=
      fun hh => hp.changes hd hlater fun hm => by rwa [← hh]
    cases h with
    | spawn | touch | tick | release | close | cancel | lock => exact hkeep rfl
    | look i => exact hp.look hd i
    | job i =>
      refine hkeep ?_
      unfold Pool.runJobAt
      split
      · exact Pool.history_runJob _ _ _
      · rfl
    | turn =>
      have hturn := Pool.turn_cases (w := d.config.workload) d.pool
      generalize d.pool.turn d.config.workload = pool at hturn hkeep ⊢
      cases hturn with
      | @look i ready called contests =>
        -- the queues are of no importance here
        have hqueue : Later d { d with pool := d.pool.taking ready called contests } :=
          .single (.pool (.queue d.pool _ _ _ _))
        have hp' := hp.changes hd hqueue fun hm => hm
        exact hp'.look (hd.changes hqueue) i
      | job => exact hkeep (Pool.history_runJob _ _ _)
      | rest => exact hkeep rfl

theorem panicSound_steps (hp : d.PanicSound id) (hd : d.Kept) (h : Steps d d') :
    d'.PanicSound id := by
  induction h with
  | refl => exact hp
  | tail hs h ih => exact ih.step (hd.changes (Steps.later hs)) h

theorem panicSound_of_build {b : Builder} {files : FileTree}
    {environment : String → Option Bytes} (hb : b.build files environment = .ok d) (id : Nat) :
    d.PanicSound id := by
  obtain ⟨limit, classpath, hp, -⟩ := pool_of_build hb
  intro c ph p hst
  simp [hp, Pool.stages, Pool.withLimit] at hst

/-- What can become of a task that the resolver has answered with a panic. -/
theorem answered_with_panic (ho : OutcomesSound d₀ d) (hd : d.Kept) (hm : h ∈ d.handles)
    (ha : (h.task, .panic p) ∈ d.answers) (hr : d.result? h = some r) :
    r = .error (.taskPanicked h.key p.message) ∨
      (∃ limit, d.config.timeout = some limit ∧ r = .error (.timeout h.key limit)) ∨
        d.pool.cancelled = true ∧ r = .error (.cancelled h.key) := by
  have hunique : ∀ {a : Answer}, (h.task, a) ∈ d.answers → a = .panic p :=
    fun ha' => hd.order.calls.answer_unique ha' ha
  obtain hown | hcut := own_or_cancelled ho hm hr
  · cases hown with
    | failed ha' => cases hunique ha'
    | panicked ha' =>
      cases hunique ha'
      exact .inl rfl
    | registered ha' => cases hunique ha'
    | timedOut hl => exact .inr (.inl ⟨_, hl, rfl⟩)
  · exact .inr (.inr hcut)

/-! ### Panics of a registration -/

theorem late_change (h : Change R d d') (hl : d.pool.Late id) : d'.pool.Late id := by
  cases h with
  | pool h => exact hl.effect h.effect
  | tell | install | replace | add | observe => exact hl
  | submit =>
    obtain ⟨c, ph, hst, he⟩ := hl
    exact ⟨c, ph, stage_accept_of hst _, he⟩

theorem no_job_change (h : Change R d d') (hl : d.pool.Late id) (hj : ¬ d.HasJob id) :
    ¬ d'.HasJob id := by
  cases h with
  | pool h => exact hl.no_job h.effect hj
  | tell | install | replace | add | submit | observe => exact hj

/-- A task that gets no job any more adds no file. -/
theorem appends_of_late (hl : d.pool.Late id) (hj : ¬ d.HasJob id) (hc : Changes R d d') :
    d'.shared.appends.filter (·.task = id) = d.shared.appends.filter (·.task = id) := by
  suffices h : d'.pool.Late id ∧ ¬ d'.HasJob id ∧
      d'.shared.appends.filter (·.task = id) = d.shared.appends.filter (·.task = id) from h.2.2
  induction hc with
  | refl => exact ⟨hl, hj, rfl⟩
  | @tail d₁ d₂ _ h ih =>
    obtain ⟨hl₁, hj₁, hsame₁⟩ := ih
    refine ⟨late_change h hl₁, no_job_change h hl₁ hj₁, ?_⟩
    rw [← hsame₁]
    obtain ⟨i, j, hran⟩ | hsame := appends_change h
    · have hne : ¬ i = id := by
        rintro rfl
        exact hj₁ hran.hasJob
      have hnone : ((d₁.registration i j).appended.map (Append.mk i)).filter (·.task = id) = [] :=
        List.filter_eq_nil_iff.mpr (by simp [hne])
      rw [hran.appends, List.filter_append, hnone, List.append_nil]
    · rw [hsame]

section Ran
variable (hran : Ran d d' id j)
include hran

theorem Ran.later : Later d d' := .single hran.change

/-- The job of a task leaves the others where they are. -/
theorem Ran.stage_of_ne {i : Nat} (hne : i ≠ id) : d'.pool.stages[i]? = d.pool.stages[i]? := by
  obtain ⟨n, hn, rfl⟩ := hran
  exact Pool.stage_runJobAt_of_ne hn hne

/-- The files that a task adds are those of its job. -/
theorem Ran.own_appends (hd : d.Kept) {d'' : Downloader} (hc : Changes R d' d'') :
    d''.shared.appends.filter (·.task = id) =
      (d.registration id j).appended.map (Append.mk id) := by
  have hlate : d'.pool.Late id := late_change (R := R) hran.change (hd.jobs.late hran.hasJob)
  have hnone : d.shared.appends.filter (·.task = id) = [] :=
    List.map_eq_nil_iff.mp (Traces.mk.inj (hd.traces.pending hran.hasJob).2).1
  rw [appends_of_late hlate (hran.no_job hd.traces) hc, hran.appends, List.filter_append, hnone]
  simp [List.filter_map, Function.comp_def]

/-- The job of a task that has not ended settles its result. -/
theorem Ran.settles (hd : d.Kept) (hn : ¬ d.Ended id) : ∃ c, d.pool.works[id]? = some c ∧
    d'.pool.Settles id c (d.config.registerFound id j d.shared).2 := by
  obtain ⟨c, hst⟩ := hd.jobs.inJob_of_live hran.hasJob fun c ph hst => by
    by_contra hl
    exact hn ⟨c, ph, hst, by simpa using hl⟩
  obtain ⟨n, hi, rfl⟩ := hran
  refine ⟨c, Pool.getElem?_works hst, .inl ?_⟩
  show (d.pool.runJobAt d.config.workload n).stages[id]? = _
  unfold Pool.runJobAt
  rw [hi]
  obtain ⟨c', hst', hset⟩ | ⟨hnot, -⟩ :=
    Pool.stages_runJob d.config.workload id j { d.pool with jobs := d.pool.jobs.eraseIdx n }
  · obtain ⟨rfl, -⟩ := Pool.stage_inj hst' hst
    exact (congrArg (·[id]?) hset).trans ((Pool.getElem?_set_of hst _ id).trans (if_pos rfl))
  · exact absurd hst (hnot c)

end Ran

/-- A registration that panics is a failure of its task. -/
theorem registerFound_of_panic (h : (d.registration id j).result = .error (.panic p)) :
    (d.config.registerFound id j d.shared).2 =
      .error (.taskPanicked j.coordinate.key (p.report id)) := by
  change (Registration.all d.shared.files (some id) d.config.settings.verifyArtifacts j.coordinate
    j.artifacts d.shared.classpath).result = _ at h
  unfold Config.registerFound
  dsimp only
  rw [h]

/-- A task that is to end with the result of its job does so unless the pool is cancelled before. -/
theorem settles_or_cancelled (hs : d.pool.Settles id c r) (hc : Changes R d d') :
    d'.pool.Settles id c r ∨ d'.pool.cancelled = true ∧
      ∃ time, d'.pool.stages[id]? = some (c, .ended time (.error (.cancelled c.key))) := by
  induction hc with
  | refl => exact .inl hs
  | tail _ h ih =>
    obtain hs₁ | ⟨hk, time, hst⟩ := ih
    · cases h with
      | pool h =>
        obtain hst | ⟨time, hst⟩ := hs₁
        · obtain hst' | hst' | ⟨hk, hst'⟩ := h.of_reported hst
          · exact .inl (.inl hst')
          · exact .inl (.inr ⟨_, hst'⟩)
          · exact .inr ⟨h.onward.cancelled hk, _, hst'⟩
        · exact .inl (.inr ⟨time, h.effect.ended_kept hst rfl⟩)
      | tell | install | replace | add | observe => exact .inl hs₁
      | submit =>
        exact .inl (hs₁.imp (stage_accept_of · _) fun ⟨time, hst⟩ => ⟨time, stage_accept_of hst _⟩)
    · obtain ⟨ph, hst', hsame⟩ := stage_change h hst
      rw [hsame rfl] at hst'
      refine .inr ⟨?_, time, hst'⟩
      cases h with
      | pool h => exact h.onward.cancelled hk
      | tell | install | replace | add | submit | observe => exact hk

/-- **What a panic in the job of a task leaves** that was raised between `d₁` and `d₂`, in a later
state `d`. -/
structure JobPanicked (d₁ d₂ d : Downloader) (id : Nat) (j : Found) (p : Panic) : Prop where
  /-- The registration has stopped at an artifact. -/
  stopped : Registration.PanicsAt d₁.shared.files (some id) j.coordinate j.artifacts d₁.classpath
    (d₁.registration id j)
  /-- What was added before that stays. -/
  entries : d₂.classpath.loader.entries <+: d.classpath.loader.entries
  /-- The task has added nothing else, and adds nothing after it. -/
  appends : d.shared.appends.filter (·.task = id) =
    (d₁.registration id j).appended.map (Append.mk id)
  /-- Running the job concerns no other task. -/
  spares : Spares d₁ d₂ id
  /-- If the task had ended before, its result stays. -/
  ended : ∀ h r, d₁.result? h = some r → d.result? h = some r
  /-- Otherwise the panic is its result, unless it is cancelled before it is told. -/
  result : ∀ h ∈ d.handles, h.task = id → d₁.result? h = none → ∀ r, d.result? h = some r →
    r = .error (.taskPanicked h.key (p.report id)) ∨
      d.pool.cancelled = true ∧ r = .error (.cancelled h.key)
  /-- Who waits for it is told so. -/
  waits : ∀ h ∈ d.handles, h.task = id → d₁.result? h = none → d.pool.cancelled = false →
    ∀ patience, 0 < patience →
      (d.wait h patience).2 = some (.error (.taskPanicked h.key (p.report id)))

/-- A handle without a result is of a task that has not ended. -/
theorem not_ended_of_result? (hr : d.result? h = none) : ¬ d.Ended h.task := by
  rintro ⟨c, ph, hst, hl⟩
  rw [(isLive_iff_of_stage hst).mpr hr] at hl
  cases hl

theorem Ran.jobPanicked (hran : Ran d₁ d₂ id j) (hd : d₁.Kept) (hc : Later d₂ d)
    (hr : Pool.ReportsSound d.pool) (hp : (d₁.registration id j).result = .error (.panic p)) :
    JobPanicked d₁ d₂ d id j p := by
  have hlater : Later d₁ d := .head hran.change hc
  -- what becomes of a task that had not ended
  have hsettles : ∀ h ∈ d.handles, h.task = id → d₁.result? h = none → ∃ c : Coordinate,
      c.key = h.key ∧ (d.pool.Settles id c (.error (.taskPanicked h.key (p.report id))) ∨
        d.pool.cancelled = true ∧
          ∃ time, d.pool.stages[id]? = some (c, .ended time (.error (.cancelled c.key)))) := by
    rintro h hm rfl hnone
    obtain ⟨n, hn, -⟩ := id hran
    obtain ⟨c, hw, hs⟩ := hran.settles hd (not_ended_of_result? hnone)
    obtain rfl : j.coordinate = c :=
      Option.some.inj ((hd.answers.jobs (List.mem_of_getElem? hn)).1.symm.trans hw)
    have hkey := key_of_work hm (work_changes hlater hw)
    rw [registerFound_of_panic hp, hkey] at hs
    exact ⟨j.coordinate, hkey, settles_or_cancelled hs hc⟩
  refine {
    stopped := Registration.panicsAt_all hp
    entries := (grows_later hc).entries
    appends := hran.own_appends hd hc
    spares := hd.spares (hd.changes hran.later) fun i hi => hran.stage_of_ne hi
    ended := fun h r hr => result?_changes hlater hr
    result := fun h hm hid hnone r hr => ?_
    waits := fun h hm hid hnone hk patience hpos => ?_ }
  · obtain ⟨c, time, hst⟩ := result?_eq_some_iff.mp hr
    rw [hid] at hst
    obtain ⟨c', hk, (hst' | ⟨time', hst'⟩) | ⟨hk', time', hst'⟩⟩ := hsettles h hm hid hnone <;>
      obtain ⟨-, he⟩ := Pool.stage_inj hst hst' <;> cases he
    · exact .inl rfl
    · exact .inr ⟨hk', by rw [hk]⟩
  · obtain ⟨c, -, hs | ⟨hk', -⟩⟩ := hsettles h hm hid hnone
    · rw [← result?_wait, result?, pool_wait, hid]
      exact Pool.result?_await hr hk hs hpos
    · rw [hk] at hk'
      cases hk'

/-! ### After a panic -/

theorem Kept.look (hd : d.Kept) (id : Nat) : (d.move (.look id)).1.Kept :=
  hd.changes (later_move d (.look id))

/-- Looking at a task concerns no other. -/
theorem Kept.spares_look (hd : d.Kept) (id : Nat) : Spares d (d.move (.look id)).1 id :=
  hd.spares (hd.look id) fun _ hi => Pool.stage_poll_of_ne hi d.pool

/-- A task that ends leaves its key to nobody. -/
theorem lookup_of_look (hd : d.Kept) (hm : h ∈ d.handles) (hnone : d.result? h = none)
    (hr : (d.move (.look h.task)).1.result? h ≠ none) :
    (d.move (.look h.task)).1.shared.registry.lookup h.key = none := by
  obtain ⟨r, hr⟩ := Option.ne_none_iff_exists'.mp hr
  rcases hl : (d.move (.look h.task)).1.shared.registry.lookup h.key with _ | i
  · rfl
  · have hreg := mem_of_lookup hl
    have hne : i ≠ h.task := by
      rintro rfl
      exact (hd.look h.task).order.not_registered hr _ hreg
    rw [(hd.spares_look h.task).registry _ _ hne] at hreg
    exact absurd (hd.order.registry.unique hreg ((hd.order.registered_iff h).mpr ⟨hm, hnone⟩)) hne

theorem length_handles (d : Downloader) : d.handles.length = d.pool.tasks.length := by
  simp [handles, Pool.length_works]

/-- What a request is answered under whose key no download is registered. -/
theorem ensure_unregistered (hr : d.shared.registry.lookup c.key = none)
    (hq : d.classpath.Quiet (.requested c)) (hq' : d.classpath.Quiet (.available c)) :
    (d.ensure c).2 = match d.classpath.lookup c with
      | some hit => .ok (.skipped hit)
      | none => if d.pool.closed then .error (.error .shuttingDown)
          else .ok (.submitted ⟨c.key, d.handles.length⟩) := by
  rcases hp : d.classpath.lookup c with _ | hit
  · rw [ensure_of_quiet (hq.deliver none), serve_of_absent (d := d.told c) hr hp, length_handles]
    rcases hc : d.pool.closed with _ | _
    · rw [submit_of_open (d := d.told c) hc]
      rfl
    · rw [submit_of_closed (d := d.told c) hc]
      rfl
  · exact ensure_present hr hp hq hq'

/-- **Panics are contained**, in a run from `d₀` to `d` with these responses, with as many slots. -/
structure Contained (d₀ d : Downloader) (rs : List Response) (slots : Nat) : Prop where
  /-- The handles that were handed out, to those who joined as well, are those of the downloads that
  were started. -/
  handles : handedOut rs ⊆ submitted rs
  /-- A panic of the resolver is the result of its task. -/
  resolver : ∀ h ∈ submitted rs, ∀ p, (h.task, .panic p) ∈ d.answers →
    .finished h.task ∈ d.pool.history →
      d.result? h = some (.error (.taskPanicked h.key p.message))
  /-- A task whose resolver panics ends with that, unless it times out or is abandoned before. -/
  dropped : ∀ h ∈ submitted rs, ∀ p r, (h.task, .panic p) ∈ d.answers → d.result? h = some r →
    r = .error (.taskPanicked h.key p.message) ∨
      (∃ limit, d.config.timeout = some limit ∧ r = .error (.timeout h.key limit)) ∨
        d.pool.cancelled = true ∧ r = .error (.cancelled h.key)
  /-- A panic of the listener or the class loader in a job. -/
  job : ∀ d₁ d₂ id j p, Later d₀ d₁ → Ran d₁ d₂ id j → Later d₂ d →
    (d₁.registration id j).result = .error (.panic p) → JobPanicked d₁ d₂ d id j p
  /-- At all times, looking at a task concerns no other, also if it ends with a panic. -/
  looks : ∀ d₁ id, Later d₀ d₁ → Spares d₁ (d₁.move (.look id)).1 id
  /-- Whatever a task ends with, its entry leaves the registry before its result can be seen, and it
  gives its slot back right after that. -/
  ends : ∀ d₁ d₂ h r, Later d₀ d₁ → Change (fun _ => True) d₁ d₂ → d₁.result? h = none →
    d₂.result? h = some r → ∃ t, EndsInOrder d₁ d₂ h r t
  /-- When a look at a task is over, it has no slot and no entry in the registry if its result can
  be seen. -/
  released : ∀ d₁ h r, Later d₀ d₁ → d₁.result? h = some r →
    h.task ∉ d₁.pool.underWay ∧ ∀ k, (k, h.task) ∉ d₁.shared.registry
  /-- At all times, when a task ends its key is free. -/
  freed : ∀ d₁ h, Later d₀ d₁ → h ∈ d₁.handles → d₁.result? h = none →
    (d₁.move (.look h.task)).1.result? h ≠ none →
      (d₁.move (.look h.task)).1.shared.registry.lookup h.key = none
  /-- A request for a free key is served afresh. -/
  again : ∀ c, d.shared.registry.lookup c.key = none → d.classpath.Quiet (.requested c) →
    d.classpath.Quiet (.available c) → (d.ensure c).2 = match d.classpath.lookup c with
      | some hit => .ok (.skipped hit)
      | none => if d.pool.closed then .error (.error .shuttingDown)
          else .ok (.submitted ⟨c.key, (submitted rs).length⟩)
  singleFlight : SingleFlight d (submitted rs)
  slots : Pool.SlotsAccounted slots d.pool

theorem Kept.released (hd : d.Kept) (hr : d.result? h = some r) :
    h.task ∉ d.pool.underWay ∧ ∀ k, (k, h.task) ∉ d.shared.registry := by
  refine ⟨fun hm => ?_, hd.order.not_registered hr⟩
  obtain ⟨c, time, hst⟩ := result?_eq_some_iff.mp hr
  rw [hd.starts.mem_underWay, Pool.getElem?_places hst] at hm
  cases hm

/-- **Panics are contained**, in every run, whatever is thrown by whom. -/
theorem panics_contained {b : Builder} {files : FileTree} {environment : String → Option Bytes}
    (hb : b.build files environment = .ok d) (ms : List Move) :
    Contained d (d.moveAll ms).1 (d.moveAll ms).2 b.settings.workerLimit := by
  have hrun := later_moveAll d ms
  obtain ⟨horder, hnil⟩ := inOrder_of_build hb
  have hkept := kept_of_build hb
  have hsub := handedOut_subset ms horder
  have hreports := reportsSound_moveAll hb ms
  have hslots := slotsAccounted_moveAll hb ms
  have hpanics := fun id => panicSound_steps (panicSound_of_build hb id) hkept (steps_moveAll ms d)
  have houtcomes := (outcomesSound_of_build hb hrun).1
  have hhandles : (d.moveAll ms).1.handles = submitted (d.moveAll ms).2 := by
    rw [handles_moveAll, hnil, List.nil_append]
  generalize (d.moveAll ms).2 = rs at hhandles hsub ⊢
  generalize (d.moveAll ms).1 = d' at *
  have hkept' := hkept.changes hrun
  rw [hhandles] at hsub
  refine {
    handles := hsub
    resolver := fun h hm p ha hf => ?_
    dropped := fun h hm p r ha hr => ?_
    job := fun d₁ d₂ id j p h₁ hran h₂ hp => hran.jobPanicked (hkept.changes h₁) h₂ hreports hp
    looks := fun d₁ id h₁ => (hkept.changes h₁).spares_look id
    ends := fun d₁ d₂ h r h₁ hc hn hr => (hkept.changes h₁).order.ends hc hn hr
    released := fun d₁ h r h₁ hr => (hkept.changes h₁).released hr
    freed := fun d₁ h h₁ hm hnone hr => lookup_of_look (hkept.changes h₁) hm hnone hr
    again := fun c hr hq hq' => hhandles ▸ ensure_unregistered hr hq hq'
    singleFlight := hhandles ▸ hkept'.order.singleFlight
    slots := hslots }
  · rw [← hhandles] at hm
    obtain ⟨c, ph, hst, hk⟩ := mem_handles.mp hm
    obtain ⟨time, rfl⟩ := hpanics h.task c ph p hst ha hf
    exact result?_eq_some_iff.mpr ⟨c, time, by rw [hst, hk]⟩
  · rw [← hhandles] at hm
    exact answered_with_panic houtcomes hkept' hm ha hr

/-- Three downloads under a listener that panics when the file of the first is added, and a resolver
that panics for the second after a pass through a gate, with something that is no text. The first is
joined while it is under way, and the third is not concerned. After it all three are asked for
again: the file of the first is loaded. -/
theorem panics_contained_two :
    let lib (n : String) : Coordinate := ⟨"org", n, some "1.0"⟩
    let file (n : String) : Artifact := ⟨lib n, ⟨"/" ++ n ++ "-1.0"⟩, none⟩
    let listener : Listener := ⟨"l", fun e => match e with
      | .added _ _ => some ⟨some "broken"⟩
      | _ => none⟩
    let d := plain (fun earlier _ => match earlier.length with
      | 0 => ⟨[], .artifacts [file "a", file "x"]⟩
      | 1 => ⟨[.gate "g"], .panic ⟨none⟩⟩
      | _ => ⟨[.gate "h"], .artifacts []⟩) (some listener) none
      ⟨[(["a-1.0"], .file []), (["x-1.0"], .file [])], []⟩
    let ms : List Move := [.act (.ensure (lib "a")), .act (.ensure (lib "b")), .look 0, .look 1,
      .act (.ensure (lib "a")), .job 0, .look 0, .act (.release "g" 1), .look 1,
      .act (.ensure (lib "c")), .act (.ensure (lib "a")), .act (.ensure (lib "b"))]
    let d' := (d.moveAll ms).1
    let rs := (d.moveAll ms).2
    handedOut rs = [⟨"org:a:1.0", 0⟩, ⟨"org:b:1.0", 1⟩, ⟨"org:a:1.0", 0⟩, ⟨"org:c:1.0", 2⟩,
        ⟨"org:b:1.0", 3⟩] ∧
      d'.result? ⟨"org:a:1.0", 0⟩ = some (.error (.taskPanicked "org:a:1.0"
        "task 0 panicked with message \"broken\"")) ∧
      d'.result? ⟨"org:b:1.0", 1⟩ = some (.error (.taskPanicked "org:b:1.0" "unknown panic")) ∧
      d'.classpath.loader.entries = ["/a-1.0"] ∧ Contained d d' rs 10 := by
  intro lib file listener d ms d' rs
  exact ⟨by decide +kernel, by decide +kernel, by decide +kernel, by decide +kernel,
    panics_contained (build_plain _ _ _ _ fun _ => none) ms⟩

/-- A download whose job ends with a panic of the listener: its result can be seen while it has its
slot, of which there are ten. The artifact was added before the panic, but who asks for it then is
told of the panic that the listener raises once more. -/
theorem seen_before_slot_returned :
    let c : Coordinate := ⟨"org", "a", some "1.0"⟩
    let file : Artifact := ⟨c, ⟨"/a-1.0"⟩, none⟩
    let listener : Listener := ⟨"l", fun e => match e with
      | .available _ => some ⟨some "broken"⟩
      | _ => none⟩
    let d := plain (fun _ _ => ⟨[], .artifacts [file, file]⟩) (some listener) none
      ⟨[(["a-1.0"], .file [])], []⟩
    let d₁ := (d.moveAll [.act (.ensure c), .look 0, .job 0]).1
    let d₂ := (d₁.move (.look 0)).1
    let r : Outcome := .error (.taskPanicked "org:a:1.0" "task 0 panicked with message \"broken\"")
    ¬ (∀ t, d₁.pool.tasks[0]? = some t → (d₁.showing 0 t r).result? ⟨c.key, 0⟩ = some r →
        (d₁.showing 0 t r).pool.slots.free = 10) ∧
      d₂.result? ⟨c.key, 0⟩ = some r ∧ d₂.pool.slots.free = 10 ∧
      d₂.classpath.lookup c = some .dynamic ∧
      (d₂.ensure c).2 = .error (.panic ⟨some "broken"⟩) := by
  intro c file listener d d₁ d₂ r
  refine ⟨fun hfree => ?_, by decide +kernel, by decide +kernel, by decide +kernel,
    by decide +kernel⟩
  have htask : d₁.pool.tasks[0]? = some ⟨c, .reported r, some 0, false⟩ := by decide +kernel
  have hseen := Pool.result?_showing (w := d₁.config.workload) htask r
  have hten := hfree _ htask hseen
  rw [showing, Pool.slots_showing rfl] at hten
  exact absurd hten (by decide +kernel)

end ArtifactFetch.Downloader
