import ArtifactFetch.Proofs.Pool.Closing

/-! # What looking at a task does to it and to the others

Running a job concerns only the task it came from (`stage_runJobAt_of_ne`). A task that is looked at
ends at once when it comes through its waits and has no
job (`ended_of_walk`). One whose job was run is called (`ReportsSound`) and ends with the result of
the job, unless the pool is cancelled before it is looked at (`Change.of_reported`); so whoever lets
time pass for it sees that result (`result?_await`). -/

namespace ArtifactFetch.Pool

variable {World Work Job Result : Type} {w : Workload World Work Job Result}
  {s s' : Pool World Work Job Result} {id i : Nat} {t : Task Work Job Result} {c : Work}
  {ph : Phase Job Result} {r : Result}

/-! ### Running a job -/

theorem stage_runJob_of_ne (hne : i ≠ id) (j : Job) (s : Pool World Work Job Result) :
    (s.runJob w id j).stages[i]? = s.stages[i]? := by
  obtain ⟨c, -, hs⟩ | ⟨-, hs⟩ := stages_runJob w id j s
  · rw [hs, List.getElem?_set_ne hne.symm]
  · rw [hs]

/-- A job that is run concerns the task it came from. -/
theorem stage_runJobAt_of_ne {n : Nat} {j : Job} (hj : s.jobs[n]? = some (id, j)) (hne : i ≠ id) :
    (s.runJobAt w n).stages[i]? = s.stages[i]? := by
  unfold runJobAt
  rw [hj]
  exact stage_runJob_of_ne hne j _

/-! ### Tasks that come through their waits -/

theorem history_stay (id : Nat) (s : Pool World Work Job Result) :
    (s.stay w id).history = s.history := by
  unfold stay
  rcases ht : s.tasks[id]? with _ | t
  · rfl
  · dsimp only
    split_ifs
    · exact history_finish ht _
    · rfl
    · rfl

/-- **A task that comes through its waits** and has no job ends with its result. -/
theorem ended_of_walk : ∀ (waits : List Wait) {s : Pool World Work Job Result}
    {t : Task Work Job Result}, s.tasks[id]? = some t → t.work = c → .finished id ∉ s.history →
      .finished id ∈ (s.walk w id waits (.done r)).history →
        (s.walk w id waits (.done r)).stages[id]? = some (c, .ended s.now r)
  | [], s, t, ht, hw, _, _ => by
    have hst := getElem?_stages (s := s.record (.finished id)) ht
    unfold walk
    rw [stages_finish (s := s.record (.finished id)) ht, getElem?_set_of hst, if_pos rfl, hw]
    rfl
  | .gate name :: waits, s, t, ht, hw, hn, hm => by
    unfold walk at hm ⊢
    rcases he : (s.gate name).enter id with ⟨g, _ | _⟩ <;> rw [he] at hm <;> dsimp only at hm ⊢
    · rw [history_stay] at hm
      exact absurd hm hn
    · exact ended_of_walk waits (getElem?_tasks_setPhase (s := s.setGate name g) ht _) hw hn hm
  | .sleep d :: waits, s, t, ht, hw, hn, hm => by
    unfold walk at hm ⊢
    split_ifs at hm ⊢ with hd
    · exact ended_of_walk waits (getElem?_tasks_setPhase ht _) hw hn hm
    · rw [history_stay] at hm
      exact absurd hm hn

/-- A task that goes on does not come through its waits, or it walks through those that its phase
names. -/
theorem same_or_walks (s : Pool World Work Job Result) (id : Nat) :
    (s.goOn w id).history = s.history ∨
      ∃ (s₁ : Pool World Work Job Result) (t : Task Work Job Result) (waits : List Wait)
        (e : Ending Job Result), Looks w id s s₁ ∧ s₁.tasks[id]? = some t ∧
          t.phase = .working waits e ∧ (.finished id ∈ s₁.history → .finished id ∈ s.history) ∧
            s.goOn w id = s₁.walk w id waits e := by
  unfold goOn
  rcases ht : s.tasks[id]? with _ | t
  · exact .inl rfl
  dsimp only
  cases hp : t.phase with
  | queued =>
    dsimp only
    split_ifs with hc
    · exact .inl rfl
    rcases he : s.slots.enter id with ⟨slots, _ | _⟩ <;> dsimp only
    · exact .inl rfl
    · refine .inr ⟨_, _, _, _, .single (.start ht hp he (by simpa using hc)),
        getElem?_tasks_launch (s := { s with slots := slots }) ht, rfl, fun hm => ?_, rfl⟩
      exact (List.mem_append.mp hm).resolve_right (by simp)
  | working waits e => exact .inr ⟨s, t, waits, e, .refl, ht, hp, fun h => h, rfl⟩
  | asleep wake waits e =>
    dsimp only
    split_ifs with hw
    · have he : t.phase.endsIn = some e := by rw [hp]; rfl
      have hs : t.phase.endsIn.isSome := by rw [he]; rfl
      exact .inr ⟨_, _, waits, e, .single (.proceed (.working waits e) ht hs he.symm),
        getElem?_tasks_setPhase ht _, rfl, fun h => h, rfl⟩
    · exact .inl (history_stay id s)
  | inJob => exact .inl (history_stay id s)
  | reported r => exact .inl (history_finish ht _)
  | ended time r => exact .inl rfl

theorem history_giveUp (id : Nat) (s : Pool World Work Job Result) :
    (s.giveUp w id).history = s.history := by
  unfold giveUp
  rcases ht : s.tasks[id]? with _ | t
  · rfl
  · dsimp only
    split_ifs
    · exact history_finish ht _
    · rfl

/-- Looking at a task, no other comes through its waits. -/
theorem finished_of_looks (h : Looks w id s s') (hne : i ≠ id) (hm : .finished i ∈ s'.history) :
    .finished i ∈ s.history := by
  induction h with
  | refl => exact hm
  | tail _ h ih =>
    refine ih ?_
    cases h with
    | gate | line | proceed | notice | handOver => exact hm
    | start => exact (List.mem_append.mp hm).resolve_right (by simp)
    | through => exact (List.mem_append.mp hm).resolve_right (by simpa using hne)
    | finish ht => rwa [history_finish ht] at hm

/-- A task that has come through its waits is not in line. -/
def ThroughSound (s : Pool World Work Job Result) : Prop :=
  ∀ i, .finished i ∈ s.history → ∃ c ph, s.stages[i]? = some (c, ph) ∧ ph ≠ .queued

theorem ThroughSound.change (hs : ThroughSound s) (h : Change w s s') : ThroughSound s' := by
  have hkeep : ∀ i, .finished i ∈ s.history →
      ∃ c ph, s'.stages[i]? = some (c, ph) ∧ ph ≠ .queued := by
    intro i hm
    obtain ⟨c, ph, hst, hq⟩ := hs i hm
    obtain ⟨ph', hst', hq'⟩ := h.effect.begun_kept hst hq
    exact ⟨c, ph', hst', hq'⟩
  cases h with
  | queue | tick | gate | line | proceed | notice | handOver | close | cancel | lock => exact hkeep
  | start => exact fun i hm => hkeep i ((List.mem_append.mp hm).resolve_right (by simp))
  | @through id t e ht hp =>
    intro i hm
    obtain hm | hm := List.mem_append.mp hm
    · exact hkeep i hm
    · obtain rfl : i = id := by simpa using hm
      exact ⟨t.work, t.phase, getElem?_stages ht, by simp [hp]⟩
  | run =>
    rw [ThroughSound, history_runJob]
    exact hkeep
  | finish ht =>
    rw [ThroughSound, history_finish ht]
    exact hkeep

/-! ### Tasks whose job was run -/

/-- A task whose job was run is to be looked at. -/
def ReportsSound (s : Pool World Work Job Result) : Prop :=
  ∀ i c r, s.stages[i]? = some (c, .reported r) → s.Called i

/-- A task that is looked at gets no result from a job. -/
theorem Look.reported_before (h : Look w id s s') (hst : s'.stages[id]? = some (c, .reported r)) :
    s.stages[id]? = some (c, .reported r) := by
  have hset : ∀ {c' : Work} {ph : Phase Job Result}, ph ≠ .reported r →
      s'.stages = s.stages.set id (c', ph) → s.stages[id]? = some (c, .reported r) := by
    intro c' ph hne hs
    rw [hs] at hst
    exact (of_getElem?_set hst).resolve_left fun h => hne (Prod.mk.inj h.2).2
  cases h with
  | gate | line | through => exact hst
  | notice => rwa [stages_notice] at hst
  | @start t slots ht =>
    exact hset (by simp) (stages_launch (s := { s with slots := slots }) ht)
  | proceed ph ht hp he =>
    refine hset ?_ (stages_setPhase ht ph)
    rintro rfl
    rw [← he] at hp
    cases hp
  | handOver ht => exact hset (by simp) (stages_setPhase ht .inJob)
  | finish ht => exact hset (by simp) (stages_finish ht _)

theorem Looks.reported_before (h : Looks w id s s') (hst : s'.stages[id]? = some (c, .reported r)) :
    s.stages[id]? = some (c, .reported r) := by
  induction h with
  | refl => exact hst
  | tail _ h ih => exact ih (h.reported_before hst)

/-- A task that was looked at has nothing to report any more. -/
theorem not_reported_poll (s : Pool World Work Job Result) (id : Nat) (c : Work) (r : Result) :
    (s.poll w id).stages[id]? ≠ some (c, .reported r) := by
  intro hst
  have hbefore := (looks_poll s id).reported_before hst
  obtain ⟨t, ht, rfl, hp⟩ := task_of_stage hbefore
  have hl : t.isLive = true := by rw [← Task.isLive_phase, hp]; rfl
  rcases hc : s.cancelled with _ | _
  · have hpoll : s.poll w id = s.finish w id r := by
      rw [poll_of_running hc]
      unfold goOn
      rw [ht]
      dsimp only
      rw [hp]
    rw [hpoll, stages_finish ht, getElem?_set_of hbefore, if_pos rfl] at hst
    cases hst
  · cases ended_poll_of_cancelled hc hst

theorem ReportsSound.mono (hs : ReportsSound s) (hst : s'.stages = s.stages)
    (hc : ∀ i, s.Called i → s'.Called i) : ReportsSound s' := by
  intro i c r hi
  rw [hst] at hi
  exact hc i (hs i c r hi)

theorem reportsSound_poll
    (hs : ∀ i c r, s.stages[i]? = some (c, .reported r) → i ≠ id → s.Called i) :
    ReportsSound (s.poll w id) := by
  intro i c r hi
  have hne : i ≠ id := by
    rintro rfl
    exact not_reported_poll s i c r hi
  rw [stage_poll_of_ne hne] at hi
  exact Looks.called (looks_poll s id) (hs i c r hi hne)

/-- A job that is run calls its task if that waits for it. -/
theorem called_of_inJob (hst : s.stages[id]? = some (c, .inJob)) (j : Job)
    (jobs : List (Nat × Job)) : ({ s with jobs := jobs }.runJob w id j).Called id := by
  obtain ⟨t, ht, -, hp⟩ := task_of_stage hst
  unfold runJob
  dsimp only
  rw [ht, Option.map_some, hp]
  exact called_wake.mpr (.inr (List.mem_singleton.mpr rfl))

theorem reportsSound_runJob (hs : ReportsSound s) (id : Nat) (j : Job) (jobs : List (Nat × Job)) :
    ReportsSound ({ s with jobs := jobs }.runJob w id j) := by
  intro i c r hi
  obtain ⟨c', hst, hset⟩ | ⟨-, hsame⟩ := stages_runJob w id j { s with jobs := jobs }
  · by_cases hne : i = id
    · rw [hne]
      exact called_of_inJob hst j jobs
    · rw [stage_runJob_of_ne hne] at hi
      exact called_runJob id j jobs (hs i c r hi)
  · rw [hsame] at hi
    exact called_runJob id j jobs (hs i c r hi)

theorem reportsSound_turn (hs : ReportsSound s) : ReportsSound (s.turn w) := by
  have hturn := turn_cases (w := w) s
  generalize s.turn w = s' at hturn ⊢
  cases hturn with
  | look hq => exact reportsSound_poll fun i c r hi hne => hq.called_of_ne hne (hs i c r hi)
  | job => exact reportsSound_runJob hs _ _ _
  | rest => exact hs

theorem ReportsSound.step (hs : ReportsSound s) (h : Step w s s') : ReportsSound s' := by
  cases h with
  | spawn work =>
    intro i c r hi
    rw [stages_accept, List.getElem?_append] at hi
    split_ifs at hi
    · exact called_call.mpr (.inl (hs i c r hi))
    · simp [List.getElem?_singleton] at hi
  | touch | close => exact hs.mono rfl fun _ h => h
  | look id => exact reportsSound_poll fun i c r hi _ => hs i c r hi
  | job n =>
    unfold runJobAt
    split
    · exact reportsSound_runJob hs _ _ _
    · exact hs
  | turn => exact reportsSound_turn hs
  | lock => exact hs.mono rfl fun _ h => h
  | tick | cancel => exact hs.mono rfl fun _ h => called_wake.mpr (.inl h)
  | release => exact hs.mono rfl fun _ h => called_call.mpr (.inl h)

theorem reportsSound_steps (h : Steps w s s') (hs : ReportsSound s) : ReportsSound s' := by
  induction h with
  | refl => exact hs
  | tail _ h ih => exact ih.step h

/-- **The result of a job** becomes that of its task, unless the pool is cancelled before. -/
theorem Change.of_reported (h : Change w s s') (hst : s.stages[id]? = some (c, .reported r)) :
    s'.stages[id]? = some (c, .reported r) ∨ s'.stages[id]? = some (c, .ended s.now r) ∨
      s.cancelled = true ∧ s'.stages[id]? = some (c, .ended s.now (w.abandoned c)) := by
  have hset : ∀ {n : Nat} {c' : Work} {ph ph' : Phase Job Result}, s.stages[n]? = some (c', ph) →
      ph ≠ .reported r → s'.stages = s.stages.set n (c', ph') →
        s'.stages[id]? = some (c, .reported r) := by
    intro n c' ph ph' hn hne hs
    rw [hs, getElem?_set_of hn, if_neg, hst]
    rintro rfl
    exact hne (stage_inj hn hst).2
  cases h with
  | @finish n t r' ht hl he =>
    by_cases hn : n = id
    · subst hn
      obtain ⟨rfl, hp⟩ := stage_inj (getElem?_stages ht) hst
      rw [stages_finish ht, getElem?_set_of hst, if_pos rfl]
      cases he with
      | done h | timedOut _ h => simp [hp, Phase.endsIn] at h
      | reported h =>
        obtain rfl := Phase.reported.inj (hp.symm.trans h)
        exact .inr (.inl rfl)
      | abandoned hc => exact .inr (.inr ⟨hc, rfl⟩)
    · rw [stages_finish ht, List.getElem?_set_ne hn]
      exact .inl hst
  | queue | tick | gate | line | through | close | cancel | lock => exact .inl hst
  | notice n =>
    rw [stages_notice]
    exact .inl hst
  | @start n t slots ht hp =>
    refine .inl (hset (getElem?_stages ht) (by simp [hp])
      (stages_launch (s := { s with slots := slots }) ht))
  | proceed ph ht hp =>
    refine .inl (hset (getElem?_stages ht) ?_ (stages_setPhase ht ph))
    rintro he
    rw [he] at hp
    cases hp
  | handOver ht hp => exact .inl (hset (getElem?_stages ht) (by simp [hp]) (stages_setPhase ht _))
  | @run n i j hj =>
    obtain ⟨c', hp, hs⟩ | ⟨-, hs⟩ := stages_runJob w i j { s with jobs := s.jobs.eraseIdx n }
    · exact .inl (hset hp (by simp) hs)
    · rw [hs]
      exact .inl hst

/-- The job of the task was run with this result, and the task has ended with it or is to. -/
def Settles (s : Pool World Work Job Result) (id : Nat) (c : Work) (r : Result) : Prop :=
  s.stages[id]? = some (c, .reported r) ∨ ∃ time, s.stages[id]? = some (c, .ended time r)

theorem Settles.change (hs : s.Settles id c r) (h : Change w s s') (hc : s.cancelled = false) :
    s'.Settles id c r := by
  obtain hst | ⟨time, hst⟩ := hs
  · obtain hst' | hst' | ⟨hk, -⟩ := h.of_reported hst
    · exact .inl hst'
    · exact .inr ⟨_, hst'⟩
    · rw [hc] at hk
      cases hk
  · exact .inr ⟨time, h.effect.ended_kept hst rfl⟩

theorem Settles.changes (hs : s.Settles id c r) (h : Changes w s s') (hc : s'.cancelled = false) :
    s'.Settles id c r := by
  induction h with
  | refl => exact hs
  | @tail s₁ s₂ _ h ih =>
    have hc₁ : s₁.cancelled = false := by
      by_contra hk
      rw [h.onward.cancelled (by simpa using hk)] at hc
      cases hc
    exact (ih hc₁).change h hc₁

/-- A task whose job was run has ended with its result, once the pool has settled. -/
theorem result?_settle (hr : ReportsSound s) (hc : s.cancelled = false) (hs : s.Settles id c r) :
    (s.settle w).result? id = some r := by
  have hreports : ReportsSound (s.settle w) :=
    of_settle (P := ReportsSound) (fun s hs => reportsSound_turn hs) hr
  have hnone := not_called (idle_iff.mp (idle_settle (w := w) s)).1 id
  rw [result?_eq]
  obtain hst | ⟨time, hst⟩ :=
    hs.changes (changes_settle (w := w) s) ((stands_settle s).cancelled.trans hc)
  · exact absurd (hreports id c r hst) hnone
  · rw [hst]
    rfl

/-- **Who lets time pass** for a task whose job was run gets its result. -/
theorem result?_await (hr : ReportsSound s) (hc : s.cancelled = false) (hs : s.Settles id c r)
    {patience : Nat} (hp : 0 < patience) : (s.await w id patience).result? id = some r := by
  have hsettle := result?_settle (w := w) hr hc hs
  obtain ⟨n, rfl⟩ := Nat.exists_eq_succ_of_ne_zero (Nat.pos_iff_ne_zero.mp hp)
  unfold await
  split_ifs with he
  · obtain hst | ⟨time, hst⟩ := hs <;> rw [result?_eq, hst] at he ⊢
    · cases he
    · rfl
  · unfold runTo
    dsimp only
    rw [if_pos (by rw [hsettle]; rfl)]
    exact hsettle

end ArtifactFetch.Pool
