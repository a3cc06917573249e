import ArtifactFetch.Proofs.Pool.Change

/-! # How far the tasks of a pool have come

Of a pool, most facts concern only the work and the phase of every task (`stages`), the jobs that
are left and the shared state. `Effect` says what a change does to these: nothing at all, or it
takes one task to another phase and perhaps adds or removes a job. Every change has one of these
effects (`Change.effect`), so an invariant of stages, jobs and shared state has seven cases to be
checked. -/

namespace ArtifactFetch

namespace Phase

variable {Job Result : Type}

/-- The result of a task that has ended. -/
def result? : Phase Job Result → Option Result
  | .ended _ r => some r
  | _ => none

/-- The task has not ended. -/
def isLive (ph : Phase Job Result) : Bool := ph.result?.isNone

/-- The task is in line or at work. -/
def isEarly : Phase Job Result → Bool
  | .queued | .working _ _ | .asleep _ _ _ => true
  | _ => false

theorem isEarly_of_endsIn {ph : Phase Job Result} {e : Ending Job Result}
    (h : ph.endsIn = some e) : ph.isEarly = true := by
  cases ph <;> first | rfl | cases h

theorem isLive_of_endsIn {ph : Phase Job Result} (h : ph.endsIn.isSome) : ph.isLive = true := by
  cases ph <;> first | rfl | simp [endsIn] at h

theorem isLive_of_endsIn_eq {ph : Phase Job Result} {e : Ending Job Result}
    (h : ph.endsIn = some e) : ph.isLive = true :=
  isLive_of_endsIn (by rw [h]; rfl)

end Phase

theorem Task.isLive_phase {Work Job Result : Type} (t : Task Work Job Result) :
    t.phase.isLive = t.isLive := by
  cases h : t.phase <;> simp [Phase.isLive, Phase.result?, isLive, result?, h]

namespace Pool

variable {World Work Job Result : Type}

/-- The work of every task, and how far it has come. -/
def stages (s : Pool World Work Job Result) : List (Work × Phase Job Result) :=
  s.tasks.map fun t => (t.work, t.phase)

/-- The work of every task. -/
def works (s : Pool World Work Job Result) : List Work := s.stages.map Prod.fst

variable {w : Workload World Work Job Result} {s s' : Pool World Work Job Result} {id : Nat}
  {t : Task Work Job Result}

theorem getElem?_stages (ht : s.tasks[id]? = some t) :
    s.stages[id]? = some (t.work, t.phase) := by
  simp [stages, ht]

theorem stage_inj {c c' : Work} {ph ph' : Phase Job Result} (h : s.stages[id]? = some (c, ph))
    (h' : s.stages[id]? = some (c', ph')) : c = c' ∧ ph = ph' :=
  Prod.mk.inj (Option.some.inj (h.symm.trans h'))

theorem getElem?_works {c : Work} {ph : Phase Job Result} (h : s.stages[id]? = some (c, ph)) :
    s.works[id]? = some c := by
  rw [works, List.getElem?_map, h]
  rfl

theorem stage_of_works {c : Work} (hw : s.works[id]? = some c) :
    ∃ ph, s.stages[id]? = some (c, ph) := by
  rw [works, List.getElem?_map, Option.map_eq_some_iff] at hw
  obtain ⟨⟨c, ph⟩, hst, rfl⟩ := hw
  exact ⟨ph, hst⟩

/-- Pools of the same work have the same tasks. -/
theorem stage_of_works_eq {c : Work} {ph : Phase Job Result} (hw : s'.works = s.works)
    (h : s'.stages[id]? = some (c, ph)) : ∃ ph₀, s.stages[id]? = some (c, ph₀) :=
  stage_of_works (hw ▸ getElem?_works h)

theorem length_stages (s : Pool World Work Job Result) : s.stages.length = s.tasks.length :=
  List.length_map _

theorem length_works (s : Pool World Work Job Result) : s.works.length = s.tasks.length := by
  rw [works, List.length_map, length_stages]

theorem result?_eq (s : Pool World Work Job Result) (id : Nat) :
    s.result? id = s.stages[id]?.bind fun st => st.2.result? := by
  unfold Pool.result? stages
  rw [List.getElem?_map]
  rcases s.tasks[id]? with _ | t
  · rfl
  · cases h : t.phase <;> simp [Task.result?, Phase.result?, h]

/-! ### Stages after the small operations -/

theorem map_modify_same {α β : Type} (g : α → β) (f : α → α) (hf : ∀ a, g (f a) = g a) :
    ∀ (l : List α) (i : Nat), (l.modify i f).map g = l.map g
  | [], _ => by simp
  | a :: l, 0 => by simp [hf]
  | a :: l, i + 1 => by simp [map_modify_same g f hf l i]

theorem map_modify_set {α β : Type} (g : α → β) (f : α → α) {a : α} :
    ∀ {l : List α} {i : Nat}, l[i]? = some a → (l.modify i f).map g = (l.map g).set i (g (f a))
  | [], _, h => by simp at h
  | b :: l, 0, h => by
    obtain rfl : b = a := by simpa using h
    simp
  | b :: l, i + 1, h => by simp [map_modify_set g f (l := l) (by simpa using h)]

theorem stages_setPhase (ht : s.tasks[id]? = some t) (ph : Phase Job Result) :
    (s.setPhase id ph).stages = s.stages.set id (t.work, ph) :=
  map_modify_set _ _ ht

theorem stages_notice (id : Nat) (s : Pool World Work Job Result) :
    (s.modifyTask id fun t => { t with noticed := true }).stages = s.stages :=
  map_modify_same (fun t : Task Work Job Result => (t.work, t.phase))
    (fun t : Task Work Job Result => { t with noticed := true }) (fun _ => rfl) s.tasks id

theorem stages_launch (ht : s.tasks[id]? = some t) :
    (s.launch w id t).stages = s.stages.set id (t.work,
      .working (w.start id t.work s.world).2.waits (w.start id t.work s.world).2.ending) :=
  map_modify_set _ _ ht

theorem stages_finish (ht : s.tasks[id]? = some t) (r : Result) :
    (s.finish w id r).stages = s.stages.set id (t.work, .ended s.now r) := by
  rw [finish_eq ht, stages, tasks_letGo]
  exact map_modify_set _ _ ht

theorem jobs_finish (ht : s.tasks[id]? = some t) (r : Result) :
    (s.finish w id r).jobs = s.jobs := by
  rw [finish_eq ht, jobs_letGo]
  rfl

theorem world_finish (ht : s.tasks[id]? = some t) (r : Result) :
    (s.finish w id r).world = w.leave id t.work s.world := by
  rw [finish_eq ht, world_letGo]
  rfl

theorem history_finish (ht : s.tasks[id]? = some t) (r : Result) :
    (s.finish w id r).history = s.history := by
  rw [finish_eq ht, history_letGo]
  rfl

/-- A job takes its task on if that waits for it. -/
theorem stages_runJob (w : Workload World Work Job Result) (id : Nat) (j : Job)
    (s : Pool World Work Job Result) :
    (∃ c, s.stages[id]? = some (c, .inJob) ∧
      (s.runJob w id j).stages = s.stages.set id (c, .reported (w.run id j s.world).2)) ∨
    (∀ c, s.stages[id]? ≠ some (c, .inJob)) ∧ (s.runJob w id j).stages = s.stages := by
  unfold runJob
  dsimp only
  split
  · next hp =>
    obtain ⟨t, ht, htp⟩ := Option.map_eq_some_iff.mp hp
    have hg := getElem?_stages ht
    rw [htp] at hg
    exact .inl ⟨t.work, hg, stages_setPhase (s := { s with world := _ }) ht _⟩
  · next hp =>
    refine .inr ⟨fun c hc => hp ?_, rfl⟩
    simp only [stages, List.getElem?_map, Option.map_eq_some_iff] at hc ⊢
    obtain ⟨t, ht, he⟩ := hc
    exact ⟨t, ht, (Prod.mk.inj he).2⟩

theorem jobs_runJob (id : Nat) (j : Job) (s : Pool World Work Job Result) :
    (s.runJob w id j).jobs = s.jobs := by
  unfold runJob
  dsimp only
  split <;> rfl

theorem world_runJob (id : Nat) (j : Job) (s : Pool World Work Job Result) :
    (s.runJob w id j).world = (w.run id j s.world).1 := by
  unfold runJob
  dsimp only
  split <;> rfl

theorem history_runJob (id : Nat) (j : Job) (s : Pool World Work Job Result) :
    (s.runJob w id j).history = s.history := by
  unfold runJob
  dsimp only
  split <;> rfl

/-! ### The effect of a change -/

/-- What a task of this work and phase can end with. -/
inductive Yields (w : Workload World Work Job Result) (c : Work) :
    Phase Job Result → Result → Prop
  | done (r : Result) : Yields w c (.working [] (.done r)) r
  | reported (r : Result) : Yields w c (.reported r) r
  | timedOut {ph : Phase Job Result} (hp : ph = .inJob ∨ ph.endsIn.isSome) :
    Yields w c ph (w.timedOut c)
  | abandoned (ph : Phase Job Result) : Yields w c ph (w.abandoned c)

theorem Ends.yields {r : Result} (h : Ends w s t r) : Yields w t.work t.phase r := by
  cases h with
  | done h => rw [h]; exact .done r
  | reported h => rw [h]; exact .reported r
  | timedOut _ hp => exact .timedOut hp
  | abandoned _ => exact .abandoned _

/-- **What a change does** to stages, jobs and shared state. -/
inductive Effect (w : Workload World Work Job Result) (s s' : Pool World Work Job Result) : Prop
  | still (hs : s'.stages = s.stages) (hj : s'.jobs = s.jobs) (hw : s'.world = s.world)
  | start {id : Nat} {c : Work} (hp : s.stages[id]? = some (c, .queued))
    (hs : s'.stages = s.stages.set id
      (c, .working (w.start id c s.world).2.waits (w.start id c s.world).2.ending))
    (hj : s'.jobs = s.jobs) (hw : s'.world = (w.start id c s.world).1)
  | proceed {id : Nat} {c : Work} {ph ph' : Phase Job Result} {e : Ending Job Result}
    (hp : s.stages[id]? = some (c, ph)) (he : ph.endsIn = some e) (he' : ph'.endsIn = some e)
    (hs : s'.stages = s.stages.set id (c, ph')) (hj : s'.jobs = s.jobs) (hw : s'.world = s.world)
  | handOver {id : Nat} {c : Work} {j : Job} (hp : s.stages[id]? = some (c, .working [] (.job j)))
    (hs : s'.stages = s.stages.set id (c, .inJob)) (hj : s'.jobs = s.jobs ++ [(id, j)])
    (hw : s'.world = s.world)
  /-- A job is run for a task that waits for it. -/
  | report {i id : Nat} {c : Work} {j : Job} (hi : s.jobs[i]? = some (id, j))
    (hp : s.stages[id]? = some (c, .inJob))
    (hs : s'.stages = s.stages.set id (c, .reported (w.run id j s.world).2))
    (hj : s'.jobs = s.jobs.eraseIdx i) (hw : s'.world = (w.run id j s.world).1)
  /-- A job is run whose task does not wait for it any more. -/
  | lose {i id : Nat} {j : Job} (hi : s.jobs[i]? = some (id, j))
    (hp : ∀ c, s.stages[id]? ≠ some (c, .inJob)) (hs : s'.stages = s.stages)
    (hj : s'.jobs = s.jobs.eraseIdx i) (hw : s'.world = (w.run id j s.world).1)
  | finish {id : Nat} {c : Work} {ph : Phase Job Result} {r : Result}
    (hp : s.stages[id]? = some (c, ph)) (hl : ph.isLive = true) (hy : Yields w c ph r)
    (hs : s'.stages = s.stages.set id (c, .ended s.now r)) (hj : s'.jobs = s.jobs)
    (hw : s'.world = w.leave id c s.world)

theorem effect_runJob {i : Nat} {j : Job} (hi : s.jobs[i]? = some (id, j)) :
    Effect w s ({ s with jobs := s.jobs.eraseIdx i }.runJob w id j) := by
  obtain ⟨c, hp, hs⟩ | ⟨hp, hs⟩ := stages_runJob w id j { s with jobs := s.jobs.eraseIdx i }
  · exact .report hi hp hs (jobs_runJob _ _ _) (world_runJob _ _ _)
  · exact .lose hi hp hs (jobs_runJob _ _ _) (world_runJob _ _ _)

/-- **Every change has one of these effects.** -/
theorem Change.effect (h : Change w s s') : Effect w s s' := by
  cases h with
  | queue | tick | gate | line | through | close | cancel | lock => exact .still rfl rfl rfl
  | notice id => exact .still (stages_notice id s) rfl rfl
  | start ht hp =>
    refine .start ?_ (stages_launch (s := { s with slots := _ }) ht) rfl rfl
    rw [getElem?_stages ht, hp]
  | proceed ph ht hp he =>
    obtain ⟨e, hs⟩ := Option.isSome_iff_exists.mp hp
    exact .proceed (getElem?_stages ht) hs (he.trans hs) (stages_setPhase ht ph) rfl rfl
  | handOver ht hp =>
    refine .handOver ?_ (stages_setPhase ht .inJob) rfl rfl
    rw [getElem?_stages ht, hp]
  | run hj => exact effect_runJob hj
  | finish ht hl he =>
    rw [← Task.isLive_phase] at hl
    exact .finish (getElem?_stages ht) hl he.yields (stages_finish ht _) (jobs_finish ht _)
      (world_finish ht _)

/-! ### What every change keeps -/

theorem getElem?_set_of {α : Type} {l : List α} {i : Nat} {a : α} (h : l[i]? = some a) (b : α)
    (j : Nat) : (l.set i b)[j]? = if i = j then some b else l[j]? := by
  have hi : i < l.length := (List.getElem?_eq_some_iff.mp h).1
  rw [List.getElem?_set, if_pos hi]

/-- What stands at a place after a `set` was set there, or it stood there before. -/
theorem of_getElem?_set {α : Type} {l : List α} {i j : Nat} {a b : α}
    (h : (l.set i b)[j]? = some a) : i = j ∧ b = a ∨ l[j]? = some a := by
  rw [List.getElem?_set] at h
  split_ifs at h with hn
  · exact .inl ⟨hn, Option.some.inj h⟩
  · exact .inr h

/-- A task that is abandoned has ended. -/
theorem ended_giveUp {c : Work} {ph : Phase Job Result}
    (hst : (s.giveUp w id).stages[id]? = some (c, ph)) : ph.isLive = false := by
  unfold giveUp at hst
  rcases ht : s.tasks[id]? with _ | t <;> rw [ht] at hst <;> dsimp only at hst
  · simp [stages, ht] at hst
  split_ifs at hst with hl
  · rw [stages_finish ht, getElem?_set_of (getElem?_stages ht), if_pos rfl] at hst
    cases hst
    rfl
  · obtain ⟨-, rfl⟩ := stage_inj (getElem?_stages ht) hst
    rw [Task.isLive_phase]
    simpa using hl

/-- **A task of a cancelled pool that was looked at** has ended. -/
theorem ended_poll_of_cancelled {c : Work} {ph : Phase Job Result} (hc : s.cancelled = true)
    (hst : (s.poll w id).stages[id]? = some (c, ph)) : ph.isLive = false := by
  obtain ⟨s₁, -, he⟩ := poll_of_cancelled w hc id
  rw [he] at hst
  exact ended_giveUp hst

theorem map_fst_set {α β : Type} {l : List (α × β)} {i : Nat} {a : α} {b b' : β}
    (h : l[i]? = some (a, b)) : (l.set i (a, b')).map Prod.fst = l.map Prod.fst := by
  refine List.ext_getElem? fun n => ?_
  rw [List.getElem?_map, List.getElem?_map, getElem?_set_of h]
  split_ifs with hn
  · rw [← hn, h]
    rfl
  · rfl

theorem Effect.works_eq (h : Effect w s s') : s'.works = s.works := by
  unfold works
  cases h with
  | still hs | lose _ _ hs => rw [hs]
  | start hp hs | proceed hp _ _ hs | handOver hp hs | report _ hp hs | finish hp _ _ hs =>
    rw [hs, map_fst_set hp]

theorem works_of_changes (h : Changes w s s') : s'.works = s.works := by
  induction h with
  | refl => rfl
  | tail _ h ih => exact h.effect.works_eq.trans ih

/-- **What becomes of one task**: it stays as it is, or it had not ended and is not in line now. -/
theorem Effect.stage (h : Effect w s s') {c : Work} {ph : Phase Job Result}
    (hp : s.stages[id]? = some (c, ph)) :
    ∃ ph', s'.stages[id]? = some (c, ph') ∧ (ph' = ph ∨ ph.isLive = true ∧ ph' ≠ .queued) := by
  -- all effects but two set the stage of one task that had not ended
  have hset : ∀ {i : Nat} {c' : Work} {ph₁ ph₂ : Phase Job Result}, s.stages[i]? = some (c', ph₁) →
      ph₁.isLive = true → ph₂ ≠ .queued → s'.stages = s.stages.set i (c', ph₂) →
        ∃ ph', s'.stages[id]? = some (c, ph') ∧ (ph' = ph ∨ ph.isLive = true ∧ ph' ≠ .queued) := by
    intro i c' ph₁ ph₂ hi hl hq hs
    rw [hs, getElem?_set_of hi]
    split_ifs with hn
    · subst hn
      obtain ⟨rfl, rfl⟩ := stage_inj hi hp
      exact ⟨ph₂, rfl, .inr ⟨hl, hq⟩⟩
    · exact ⟨ph, hp, .inl rfl⟩
  cases h with
  | still hs | lose _ _ hs => rw [hs]; exact ⟨ph, hp, .inl rfl⟩
  | start hi hs | handOver hi hs | report _ hi hs => exact hset hi rfl (by simp) hs
  | proceed hi he he' hs =>
    refine hset hi (Phase.isLive_of_endsIn_eq he) ?_ hs
    rintro rfl
    simp [Phase.endsIn] at he'
  | finish hi hl _ hs => exact hset hi hl (by simp) hs

theorem Effect.ended_kept (h : Effect w s s') {c : Work} {ph : Phase Job Result}
    (hp : s.stages[id]? = some (c, ph)) (hd : ph.isLive = false) :
    s'.stages[id]? = some (c, ph) := by
  obtain ⟨ph', hp', rfl | ⟨hl, -⟩⟩ := h.stage hp
  · exact hp'
  · exact Bool.noConfusion (hl.symm.trans hd)

/-- A task that is in line or at work was so before. -/
theorem Effect.early_before (h : Effect w s s') {c : Work} {ph' : Phase Job Result}
    (hp : s'.stages[id]? = some (c, ph')) (he : ph'.isEarly = true) :
    ∃ ph, s.stages[id]? = some (c, ph) ∧ ph.isEarly = true := by
  have hset : ∀ {i : Nat} {c' : Work} {ph₁ ph₂ : Phase Job Result}, s.stages[i]? = some (c', ph₁) →
      (ph₂.isEarly = true → ph₁.isEarly = true) → s'.stages = s.stages.set i (c', ph₂) →
        ∃ ph, s.stages[id]? = some (c, ph) ∧ ph.isEarly = true := by
    intro i c' ph₁ ph₂ hi hq hs
    rw [hs] at hp
    obtain ⟨rfl, hset⟩ | hold := of_getElem?_set hp
    · cases hset
      exact ⟨ph₁, hi, hq he⟩
    · exact ⟨ph', hold, he⟩
  cases h with
  | still hs | lose _ _ hs => rw [hs] at hp; exact ⟨ph', hp, he⟩
  | start hi hs | handOver hi hs => exact hset hi (fun _ => rfl) hs
  | report _ hi hs => exact hset hi (fun h => by cases h) hs
  | proceed hi hi' _ hs => exact hset hi (fun _ => Phase.isEarly_of_endsIn hi') hs
  | finish hi _ _ hs => exact hset hi (fun h => by cases h) hs

theorem Effect.length_stages (h : Effect w s s') : s'.stages.length = s.stages.length := by
  have hw := congrArg List.length h.works_eq
  rwa [works, works, List.length_map, List.length_map] at hw

/-- The job at a place is the only one of its task. -/
theorem not_mem_eraseIdx {jobs : List (Nat × Job)} (hn : (jobs.map Prod.fst).Nodup) {i : Nat}
    {j : Job} (hi : jobs[i]? = some (id, j)) : id ∉ (jobs.eraseIdx i).map Prod.fst := by
  intro hm
  obtain ⟨⟨id', j'⟩, hm', rfl⟩ := List.mem_map.mp hm
  obtain ⟨k, hne, hk⟩ := List.mem_eraseIdx_iff_getElem?.mp hm'
  have hlt : k < (jobs.map Prod.fst).length := by
    rw [List.length_map]
    exact (List.getElem?_eq_some_iff.mp hk).1
  refine hne ((List.getElem?_inj hlt hn).mp ?_)
  rw [List.getElem?_map, List.getElem?_map, hk, hi]
  rfl

/-- A task that has ended gets no job any more. -/
theorem Effect.job_of_ended (h : Effect w s s') {c : Work} {ph : Phase Job Result}
    (hp : s.stages[id]? = some (c, ph)) (hd : ph.isLive = false) {j : Job}
    (hm : (id, j) ∈ s'.jobs) : (id, j) ∈ s.jobs := by
  cases h with
  | still _ hj | start _ _ hj | proceed _ _ _ _ hj | finish _ _ _ _ hj => rwa [hj] at hm
  | report _ _ _ hj | lose _ _ _ hj =>
    rw [hj] at hm
    exact List.mem_of_mem_eraseIdx hm
  | handOver hq _ hj =>
    rw [hj, List.mem_append] at hm
    refine hm.resolve_right fun hm => ?_
    obtain ⟨rfl, -⟩ := Prod.mk.inj (List.mem_singleton.mp hm)
    obtain ⟨-, rfl⟩ := stage_inj hp hq
    cases hd

theorem Change.history (h : Change w s s') : s.history ⊆ s'.history := by
  cases h with
  | queue | tick | gate | line | proceed | notice | handOver | close | cancel | lock =>
    exact List.Subset.refl _
  | start | through => exact List.subset_append_left _ _
  | run =>
    rw [history_runJob]
    exact List.Subset.refl _
  | finish ht =>
    rw [history_finish ht]
    exact List.Subset.refl _

/-- A job comes from a task that has come through its waits. -/
theorem Change.finished_of_job (h : Change w s s') {j : Job} (hm : (id, j) ∈ s'.jobs) :
    (id, j) ∈ s.jobs ∨ .finished id ∈ s'.history := by
  cases h with
  | queue | tick | gate | line | proceed | notice | through | start | close | cancel | lock =>
    exact .inl hm
  | handOver _ _ hh =>
    refine (List.mem_append.mp hm).imp_right fun hm => ?_
    obtain ⟨rfl, -⟩ := Prod.mk.inj (List.mem_singleton.mp hm)
    exact hh
  | run hj =>
    rw [jobs_runJob] at hm
    exact .inl (List.mem_of_mem_eraseIdx hm)
  | finish ht =>
    rw [jobs_finish ht] at hm
    exact .inl hm

theorem Effect.begun_kept (h : Effect w s s') {c : Work} {ph : Phase Job Result}
    (hp : s.stages[id]? = some (c, ph)) (hq : ph ≠ .queued) :
    ∃ ph', s'.stages[id]? = some (c, ph') ∧ ph' ≠ .queued := by
  obtain ⟨ph', hp', rfl | ⟨-, hq'⟩⟩ := h.stage hp
  · exact ⟨ph', hp', hq⟩
  · exact ⟨ph', hp', hq'⟩

/-! ### The other tasks -/

variable {i : Nat}

/-- Looking at one task changes no other. -/
theorem Look.task_of_ne (h : Look w id s s') (hne : i ≠ id) : s'.tasks[i]? = s.tasks[i]? := by
  have hmodify : ∀ f : Task Work Job Result → Task Work Job Result,
      (s.tasks.modify id f)[i]? = s.tasks[i]? := fun f => List.getElem?_modify_ne f _ hne.symm
  cases h with
  | gate | line | through => rfl
  | notice | start | proceed | handOver => exact hmodify _
  | finish ht =>
    rw [finish_eq ht, tasks_letGo]
    exact hmodify _

theorem Looks.task_of_ne (h : Looks w id s s') (hne : i ≠ id) : s'.tasks[i]? = s.tasks[i]? := by
  induction h with
  | refl => rfl
  | tail _ h ih => rw [h.task_of_ne hne, ih]

theorem Looks.stage_of_ne (h : Looks w id s s') (hne : i ≠ id) : s'.stages[i]? = s.stages[i]? := by
  rw [stages, stages, List.getElem?_map, List.getElem?_map, h.task_of_ne hne]

/-- **Looking at a task**, every other stays where it is. -/
theorem stage_poll_of_ne (hne : i ≠ id) (s : Pool World Work Job Result) :
    (s.poll w id).stages[i]? = s.stages[i]? :=
  (looks_poll (w := w) s id).stage_of_ne hne

end Pool

end ArtifactFetch
