import ArtifactFetch.Proofs.Downloader.Traces

/-! # Tasks that were abandoned

The job of a task is run to its end even if the task has ended. So a task that worked for too long,
or that was abandoned in a shutdown, has no effect for certain only if its resolver call had not
come to its end by then; otherwise its registration is done as if nothing had happened, for a
download that everybody was told has failed (`effect_of_timed_out`). What is exactly left behind
after the end of any task is stated in `traces_after_end`. -/

namespace ArtifactFetch.Downloader

variable {R : Coordinate → Prop} {d d' d₁ d₂ : Downloader} {id : Nat} {j : Found}

/-- The second downloader is the first after a job of the task was run. -/
def Ran (d d' : Downloader) (id : Nat) (j : Found) : Prop :=
  ∃ i, d.pool.jobs[i]? = some (id, j) ∧
    d' = { d with pool := d.pool.runJobAt d.config.workload i }

/-- A task has ended. -/
def Ended (d : Downloader) (id : Nat) : Prop :=
  ∃ c ph, d.pool.stages[id]? = some (c, ph) ∧ ph.isLive = false

/-- A job of the task is to be run. -/
def HasJob (d : Downloader) (id : Nat) : Prop := id ∈ d.pool.jobs.map Prod.fst

/-! ### What every change keeps -/

theorem tracesSound_accept (hd : TracesSound d.pool) (c : Coordinate) :
    TracesSound (d.accept c).pool where
  once := hd.once
  early {id c' ph} hst he := by
    obtain hst | ⟨rfl, -, -⟩ := of_stage_accept hst
    · exact hd.early hst he
    · have hl : d.pool.stages.length ≤ d.pool.tasks.length := Nat.le_of_eq (Pool.length_stages _)
      exact ⟨fun hm => absurd (hd.pending hm).1 (Nat.not_lt_of_le hl), hd.unused hl⟩
  pending hm := by
    obtain ⟨hl, ht⟩ := hd.pending hm
    refine ⟨?_, ht⟩
    rw [stages_accept, List.length_append]
    exact Nat.lt_add_right _ hl
  unused hl := by
    rw [stages_accept, List.length_append] at hl
    exact hd.unused (Nat.le_of_add_right_le hl)

theorem tracesOf_tell (d : Downloader) (e : Event) (id : Nat) :
    (d.setClasspath (d.classpath.deliver none e).1).tracesOf id = d.tracesOf id :=
  congrArg (Traces.mk _)
    (@told_of_tells id _ _ none (Classpath.tells_of_deliver rfl fun _ => rfl) (by simp))

theorem tracesSound_change (h : Change R d d') (hd : TracesSound d.pool) : TracesSound d'.pool := by
  cases h with
  | pool h => exact hd.effect h.effect
  | tell e => exact hd.keep rfl (fun hst he => ⟨_, hst, he⟩) rfl (tracesOf_tell d e)
  | install | replace | add | observe => exact ⟨hd.once, hd.early, hd.pending, hd.unused⟩
  | submit => exact tracesSound_accept hd _

/-- Apart from the jobs that are run, the pool does nothing to the classpath and adds no file. -/
theorem ran_or_still {p : DownloadPool} (h : Pool.Change d.config.workload d.pool p) :
    (∃ id j, Ran d { d with pool := p } id j) ∨
      p.world.classpath = d.classpath ∧ p.world.appends = d.shared.appends := by
  cases h with
  | queue | tick | gate | line | start | proceed | notice | through | handOver =>
    exact .inr ⟨rfl, rfl⟩
  | close | cancel | lock => exact .inr ⟨rfl, rfl⟩
  | @run i id j hj =>
    refine .inl ⟨id, j, i, hj, ?_⟩
    rw [Pool.runJobAt, hj]
  | finish ht =>
    rw [Pool.world_finish ht]
    exact .inr ⟨rfl, rfl⟩

/-- Apart from the jobs that are run, no change adds a file for a task or leaves a trace of one. -/
theorem ran_or_same (h : Change R d d') : (∃ id j, Ran d d' id j) ∨
    d'.shared.appends = d.shared.appends ∧ ∀ id, d'.tracesOf id = d.tracesOf id := by
  cases h with
  | @pool p h =>
    refine (ran_or_still h).imp_right fun ⟨hcp, happ⟩ => ⟨happ, fun id => ?_⟩
    show p.world.tracesOf id = d.shared.tracesOf id
    rw [Shared.tracesOf, happ, hcp]
    rfl
  | tell e => exact .inr ⟨rfl, tracesOf_tell d e⟩
  | install | replace | add | submit | observe => exact .inr ⟨rfl, fun _ => rfl⟩

theorem traces_change (h : Change R d d') :
    (∃ id j, Ran d d' id j) ∨ ∀ id, d'.tracesOf id = d.tracesOf id :=
  (ran_or_same h).imp_right And.right

theorem Ended.change (he : d.Ended id) (h : Change R d d') : d'.Ended id := by
  obtain ⟨c, ph, hst, hd⟩ := he
  refine ⟨c, ph, ?_, hd⟩
  cases h with
  | pool h => exact h.effect.ended_kept hst hd
  | tell | install | replace | add | observe => exact hst
  | submit => exact stage_accept_of hst _

/-- A task that has ended gets no job any more. -/
theorem Ended.no_job (he : d.Ended id) (h : Change R d d') (hj : ¬ d.HasJob id) :
    ¬ d'.HasJob id := by
  obtain ⟨c, ph, hst, hd⟩ := he
  cases h with
  | pool h =>
    intro hm
    obtain ⟨⟨i, j⟩, hm', rfl⟩ := List.mem_map.mp hm
    exact hj (List.mem_map.mpr ⟨_, h.effect.job_of_ended hst hd hm', rfl⟩)
  | tell | install | replace | add | submit | observe => exact hj

theorem ended_of_result {h : Handle} {r : Outcome} (hr : d.result? h = some r) :
    d.Ended h.task := by
  obtain ⟨c, time, hst⟩ := result?_eq_some_iff.mp hr
  exact ⟨c, _, hst, rfl⟩

/-! ### Running a job -/

section Ran
variable (h : Ran d d' id j)
include h

theorem Ran.change : Change R d d' := by
  obtain ⟨i, hi, rfl⟩ := h
  rw [Pool.runJobAt, hi]
  exact .pool (.run hi)

theorem Ran.shared : d'.shared = (d.config.registerFound id j d.shared).1 := by
  obtain ⟨i, hi, rfl⟩ := h
  rw [Pool.runJobAt, hi]
  exact Pool.world_runJob _ _ _

theorem Ran.hasJob : d.HasJob id := by
  obtain ⟨i, hi, -⟩ := h
  exact List.mem_map.mpr ⟨_, List.mem_of_getElem? hi, rfl⟩

theorem Ran.no_job (hd : TracesSound d.pool) : ¬ d'.HasJob id := by
  obtain ⟨i, hi, rfl⟩ := h
  have hjobs : (d.pool.runJobAt d.config.workload i).jobs = d.pool.jobs.eraseIdx i := by
    rw [Pool.runJobAt, hi]
    exact Pool.jobs_runJob _ _ _
  rw [HasJob, hjobs]
  exact Pool.not_mem_eraseIdx hd.once hi

theorem Ran.tracesOf_ne {id' : Nat} (hne : id ≠ id') : d'.tracesOf id' = d.tracesOf id' := by
  rw [tracesOf, h.shared]
  exact tracesOf_registerFound_ne _ j hne

/-- **What the job of a task leaves behind.** -/
theorem Ran.tracesOf (hd : TracesSound d.pool) :
    let r := Registration.all d.shared.files (some id) d.config.settings.verifyArtifacts
      j.coordinate j.artifacts d.classpath
    d'.tracesOf id =
      ⟨r.appended, r.classpath.slot.deliveries.drop d.classpath.slot.deliveries.length⟩ := by
  intro r
  rw [Downloader.tracesOf, h.shared]
  exact tracesOf_registerFound j (hd.pending h.hasJob).2

end Ran

/-! ### After the end of a task -/

/-- A task that has ended and has no job leaves no further trace. -/
theorem traces_of_no_job (he : d.Ended id) (hj : ¬ d.HasJob id) (hc : Changes R d d') :
    d'.tracesOf id = d.tracesOf id ∧ d'.Ended id ∧ ¬ d'.HasJob id := by
  induction hc with
  | refl => exact ⟨rfl, he, hj⟩
  | tail _ h ih =>
    obtain ⟨ht, he, hj⟩ := ih
    refine ⟨?_, he.change h, he.no_job h hj⟩
    obtain ⟨id', j, hran⟩ | hsame := traces_change h
    · have hne : id' ≠ id := by
        rintro rfl
        exact hj hran.hasJob
      rw [hran.tracesOf_ne hne, ht]
    · rw [hsame, ht]

/-- Traces change in the step in which a job of the task is run. -/
theorem traces_or_ran (hc : Changes R d d') (id : Nat) : d'.tracesOf id = d.tracesOf id ∨
    ∃ j d₁ d₂, Changes R d d₁ ∧ Ran d₁ d₂ id j ∧ Changes R d₂ d' := by
  induction hc with
  | refl => exact .inl rfl
  | tail hc h ih =>
    obtain ht | ⟨j, d₁, d₂, h₁, hran, h₂⟩ := ih
    · obtain ⟨id', j, hran⟩ | hsame := traces_change h
      · by_cases hne : id' = id
        · subst hne
          exact .inr ⟨j, _, _, hc, hran, .refl⟩
        · rw [hran.tracesOf_ne hne]
          exact .inl ht
      · rw [hsame]
        exact .inl ht
    · exact .inr ⟨j, d₁, d₂, h₁, hran, h₂.tail h⟩

theorem Ended.changes (he : d.Ended id) (hc : Changes R d d') : d'.Ended id := by
  induction hc with
  | refl => exact he
  | tail _ h ih => exact ih.change h

theorem tracesSound_changes (hd : TracesSound d.pool) (hc : Changes R d d') :
    TracesSound d'.pool :=
  of_changes (P := fun d => TracesSound d.pool) (fun _ _ => tracesSound_change) hc hd

/-- After its job was run, a task that has ended leaves no further trace. -/
theorem traces_after_ran (hd : TracesSound d.pool) (he : d.Ended id) (h₁ : Changes R d d₁)
    (hran : Ran d₁ d₂ id j) (h₂ : Changes R d₂ d') : d'.tracesOf id = d₂.tracesOf id := by
  have he₂ : d₂.Ended id := (he.changes h₁).change (R := R) hran.change
  exact (traces_of_no_job he₂ (hran.no_job (tracesSound_changes hd h₁)) h₂).1

/-- **When a task that has ended has left nothing**: it had left nothing before, and if its job was
run since, that left nothing. -/
theorem traces_none_iff (hd : TracesSound d.pool) (he : d.Ended id) (hc : Changes R d d') :
    d'.tracesOf id = .none ↔ d.tracesOf id = .none ∧
      ∀ j d₁ d₂, Changes R d d₁ → Ran d₁ d₂ id j → Changes R d₂ d' → d₂.tracesOf id = .none := by
  constructor
  · intro h
    refine ⟨?_, fun j d₁ d₂ h₁ hran h₂ => ?_⟩
    · -- while its job is to be run a task has left nothing, and without one it leaves nothing more
      by_cases hj : d.HasJob id
      · exact (hd.pending hj).2
      · rw [← (traces_of_no_job he hj hc).1, h]
    · rw [← traces_after_ran hd he h₁ hran h₂, h]
  · rintro ⟨h, hran⟩
    obtain ht | ⟨j, d₁, d₂, h₁, hr, h₂⟩ := traces_or_ran hc id
    · rw [ht, h]
    · rw [traces_after_ran hd he h₁ hr h₂]
      exact hran j d₁ d₂ h₁ hr h₂

/-! ### Tasks that were not answered -/

/-- A task with a job or with traces has come through the waits of its resolver call. -/
def CameThrough (d : Downloader) : Prop :=
  ∀ id, d.HasJob id ∨ d.tracesOf id ≠ .none → .finished id ∈ d.pool.history

theorem CameThrough.pool {p : DownloadPool} (hd : d.CameThrough)
    (h : Pool.Change d.config.workload d.pool p) :
    ({ d with pool := p } : Downloader).CameThrough := by
  intro id hid
  rcases hid with hm | ht
  · obtain ⟨⟨id, j⟩, hm', rfl⟩ := List.mem_map.mp hm
    rcases h.finished_of_job hm' with hj | hf
    · exact h.history (hd id (.inl (List.mem_map.mpr ⟨_, hj, rfl⟩)))
    · exact hf
  · obtain ⟨id', j, hran⟩ | hsame := traces_change (R := fun _ => True) (.pool h)
    · by_cases hne : id' = id
      · subst hne
        exact h.history (hd id' (.inl hran.hasJob))
      · rw [hran.tracesOf_ne hne] at ht
        exact h.history (hd id (.inr ht))
    · rw [hsame] at ht
      exact h.history (hd id (.inr ht))

theorem CameThrough.change (hd : d.CameThrough) (h : Change R d d') : d'.CameThrough := by
  cases h with
  | pool h => exact hd.pool h
  | tell e => exact fun id hid => hd id (hid.imp_right fun ht => by rwa [tracesOf_tell] at ht)
  | install | replace | add | submit | observe => exact hd

/-! ### The whole run -/

/-- What a task that has ended by the first state has left behind by the second. -/
structure AfterEnd (d₁ d₂ : Downloader) (id : Nat) : Prop where
  /-- Nothing, if its resolver call had not come to its end. -/
  unanswered : .finished id ∉ d₁.pool.history → d₂.tracesOf id = .none
  /-- Nothing more, unless a job is to be run for it. -/
  settled : ¬ d₁.HasJob id → d₂.tracesOf id = d₁.tracesOf id
  /-- Nothing, just if it had left nothing and a job that was run since left nothing. -/
  none_iff : d₂.tracesOf id = .none ↔ d₁.tracesOf id = .none ∧
    ∀ j d d', Later d₁ d → Ran d d' id j → Later d' d₂ → d'.tracesOf id = .none
  /-- If its job was run since, what that registered, as if the task had not ended. -/
  ran : ∀ j d d', Later d₁ d → Ran d d' id j → Later d' d₂ →
    let r := Registration.all d.shared.files (some id) d.config.settings.verifyArtifacts
      j.coordinate j.artifacts d.classpath
    d₂.tracesOf id =
      ⟨r.appended, r.classpath.slot.deliveries.drop d.classpath.slot.deliveries.length⟩

/-- **After the end of a task**, whatever its result, for all runs and at all later times: exactly
the job that is still to be run for it can leave a trace, and it has none if its resolver call had
not come to its end. -/
theorem traces_after_end {b : Builder} {files : FileTree} {environment : String → Option Bytes}
    (hb : b.build files environment = .ok d) (ms ns : List Move) {h : Handle} {r : Outcome}
    (hr : (d.moveAll ms).1.result? h = some r) :
    AfterEnd (d.moveAll ms).1 ((d.moveAll ms).1.moveAll ns).1 h.task := by
  obtain ⟨limit, classpath, hp, hd⟩ := pool_of_build hb
  have hnone : ∀ id, d.tracesOf id = .none := fun id => by
    rw [tracesOf, shared, hp]
    simp [Shared.tracesOf, Pool.withLimit, hd, Traces.none]
  have hjob : ∀ id, ¬ d.HasJob id := fun id => by
    rw [HasJob, hp]
    exact List.not_mem_nil
  have hsound : TracesSound d.pool := by
    refine ⟨?_, fun hst => ?_, fun hm => absurd hm (hjob _), fun _ => hnone _⟩
    · rw [hp]
      exact List.nodup_nil
    · simp [hp, Pool.stages, Pool.withLimit] at hst
  have hcame : d.CameThrough := fun id hid => (hid.elim (hjob id) (· (hnone id))).elim
  have hc₁ := later_moveAll d ms
  have hc₂ := later_moveAll (d.moveAll ms).1 ns
  have hsound₁ := tracesSound_changes hsound hc₁
  have hcame₁ := of_changes (P := CameThrough) (fun _ _ h hd => hd.change h) hc₁ hcame
  have he := ended_of_result hr
  refine ⟨fun hf => ?_, fun hj => (traces_of_no_job he hj hc₂).1, traces_none_iff hsound₁ he hc₂,
    fun j d₁ d₂ h₁ hran h₂ => ?_⟩
  · have hj : ¬ (d.moveAll ms).1.HasJob h.task := fun hj => hf (hcame₁ _ (.inl hj))
    rw [(traces_of_no_job he hj hc₂).1]
    by_contra ht
    exact hf (hcame₁ _ (.inr ht))
  · rw [traces_after_ran hsound₁ he h₁ hran h₂]
    exact hran.tracesOf (tracesSound_changes hsound₁ h₁)

/-- A download that may not work for any time ends as soon as its resolver has answered, and its job
is run after that. -/
theorem traces_after_end_timed_out :
    let c : Coordinate := ⟨"org", "lib", some "1.0"⟩
    let file : Artifact := ⟨c, ⟨"/lib-1.0"⟩, none⟩
    let d := plain (fun _ _ => ⟨[], .artifacts [file]⟩) none (some (some ⟨0⟩))
      ⟨[(["lib-1.0"], .file [])], []⟩
    let d₁ := (d.moveAll [.act (.ensure c), .look 0]).1
    let d₂ := (d₁.moveAll [.job 0]).1
    d₁.result? ⟨c.key, 0⟩ = some (.error (.timeout c.key ⟨0⟩)) ∧ d₁.tracesOf 0 = .none ∧
      (d₂.tracesOf 0).appended = [file] ∧ AfterEnd d₁ d₂ 0 := by
  intro c file d d₁ d₂
  have hr : d₁.result? ⟨c.key, 0⟩ = some (.error (.timeout c.key ⟨0⟩)) := by decide +kernel
  exact ⟨hr, by decide +kernel, by decide +kernel,
    traces_after_end (build_plain _ _ _ _ fun _ => none) _ _ hr⟩

/-- **A download that has timed out has an effect**: everybody is told that it has failed, but its
file is added and the listener is told so. -/
theorem effect_of_timed_out :
    let c : Coordinate := ⟨"org", "lib", some "1.0"⟩
    let file : Artifact := ⟨c, ⟨"/lib-1.0"⟩, none⟩
    let d := plain (fun _ _ => ⟨[], .artifacts [file]⟩) (some ⟨"a", fun _ => none⟩)
      (some (some ⟨0⟩)) ⟨[(["lib-1.0"], .file [])], []⟩
    let d₁ := (d.performAll [.ensure c, .wait ⟨c.key, 0⟩ 1]).1
    d₁.result? ⟨c.key, 0⟩ = some (.error (.timeout c.key ⟨0⟩)) ∧
      d₁.classpath.loader.entries = ["/lib-1.0"] ∧
      d₁.tracesOf 0 = ⟨[file], [⟨"a", .added c ⟨"/lib-1.0"⟩, some 0⟩]⟩ := by
  decide +kernel

end ArtifactFetch.Downloader
