import ArtifactFetch.Proofs.Pool.Slots

/-! # Jobs and their tasks

A task hands over one job. It waits for that until the job was run, unless it ends before; so the
jobs that are left are those of the tasks that wait for one, and of some that have ended
(`JobsSound`). A task that is neither in line nor at work and has no job gets none any more
(`Late.no_job`). -/

namespace ArtifactFetch.Pool

variable {World Work Job Result : Type} {w : Workload World Work Job Result}
  {s s' : Pool World Work Job Result} {id : Nat} {c : Work} {ph ph' : Phase Job Result}

/-- **Jobs**: one for a task at most, for all tasks that wait for one, and otherwise for tasks that
have ended. -/
structure JobsSound (s : Pool World Work Job Result) : Prop where
  once : (s.jobs.map Prod.fst).Nodup
  held : ∀ {id}, id ∈ s.jobs.map Prod.fst →
    ∃ c ph, s.stages[id]? = some (c, ph) ∧ (ph = .inJob ∨ ph.isLive = false)
  pending : ∀ {id c}, s.stages[id]? = some (c, .inJob) → id ∈ s.jobs.map Prod.fst

theorem mem_eraseIdx_of_ne {jobs : List (Nat × Job)} {i n : Nat} {j : Job}
    (hi : jobs[i]? = some (id, j)) (hne : n ≠ id) (hm : n ∈ jobs.map Prod.fst) :
    n ∈ (jobs.eraseIdx i).map Prod.fst := by
  obtain ⟨⟨n, j'⟩, hm', rfl⟩ := List.mem_map.mp hm
  obtain ⟨k, hk⟩ := List.mem_iff_getElem?.mp hm'
  refine List.mem_map.mpr ⟨_, List.mem_eraseIdx_iff_getElem?.mpr ⟨k, ?_, hk⟩, rfl⟩
  rintro rfl
  rw [hi] at hk
  cases hk
  exact hne rfl

namespace JobsSound

variable (hs : JobsSound s)
include hs

/-- A task goes to another phase, and the jobs stay. -/
theorem set (hq : s.stages[id]? = some (c, ph)) (hst : s'.stages = s.stages.set id (c, ph'))
    (hj : s'.jobs = s.jobs) (hph : ph ≠ .inJob ∧ ph' ≠ .inJob ∨ ph'.isLive = false)
    (hl : ph.isLive = true) : JobsSound s' where
  once := by rw [hj]; exact hs.once
  held {n} hm := by
    rw [hj] at hm
    obtain ⟨c₀, ph₀, hst₀, hph₀⟩ := hs.held hm
    rw [hst, getElem?_set_of hq]
    split_ifs with hn
    · subst hn
      obtain ⟨-, rfl⟩ := stage_inj hq hst₀
      refine ⟨c, ph', rfl, .inr (hph.resolve_left fun h => ?_)⟩
      exact hph₀.elim h.1 fun h => by rw [h] at hl; cases hl
    · exact ⟨c₀, ph₀, hst₀, hph₀⟩
  pending {n c'} hi := by
    rw [hst] at hi
    rw [hj]
    obtain ⟨-, hset⟩ | hold := of_getElem?_set hi
    · obtain ⟨-, rfl⟩ := Prod.mk.inj hset
      exact (hph.elim (fun h => h.2 rfl) fun h => by cases h).elim
    · exact hs.pending hold

/-- A job is run, and its task does not wait for one any more. -/
theorem run {i : Nat} {j : Job} (hi : s.jobs[i]? = some (id, j))
    (hj : s'.jobs = s.jobs.eraseIdx i) (hne : ∀ n, n ≠ id → s'.stages[n]? = s.stages[n]?)
    (hid : ∀ c, s'.stages[id]? ≠ some (c, .inJob)) : JobsSound s' where
  once := by
    rw [hj]
    exact hs.once.sublist ((List.eraseIdx_sublist _ _).map _)
  held {n} hm := by
    rw [hj] at hm
    have hn : n ≠ id := by
      rintro rfl
      exact not_mem_eraseIdx hs.once hi hm
    rw [hne n hn]
    exact hs.held (((List.eraseIdx_sublist _ _).map _).subset hm)
  pending {n c} hst := by
    have hn : n ≠ id := by
      rintro rfl
      exact hid c hst
    rw [hne n hn] at hst
    rw [hj]
    exact mem_eraseIdx_of_ne hi hn (hs.pending hst)

theorem handOver {j : Job} (hq : s.stages[id]? = some (c, .working [] (.job j)))
    (hst : s'.stages = s.stages.set id (c, .inJob)) (hj : s'.jobs = s.jobs ++ [(id, j)]) :
    JobsSound s' where
  once := by
    rw [hj, List.map_append, List.nodup_append']
    refine ⟨hs.once, List.nodup_singleton _, fun n hn hn' => ?_⟩
    obtain rfl : n = id := List.mem_singleton.mp hn'
    obtain ⟨c₀, ph₀, hst₀, hph₀⟩ := hs.held hn
    obtain ⟨-, rfl⟩ := stage_inj hq hst₀
    rcases hph₀ with h | h <;> cases h
  held {n} hm := by
    rw [hst, getElem?_set_of hq]
    split_ifs with hn
    · exact ⟨c, .inJob, rfl, .inl rfl⟩
    · rw [hj, List.map_append, List.mem_append] at hm
      refine hs.held (hm.resolve_right fun hm => hn ?_)
      exact (List.mem_singleton.mp hm).symm
  pending {n c'} hi := by
    rw [hst] at hi
    rw [hj, List.map_append, List.mem_append]
    obtain ⟨rfl, -⟩ | hold := of_getElem?_set hi
    · exact .inr (List.mem_singleton.mpr rfl)
    · exact .inl (hs.pending hold)

theorem effect (h : Effect w s s') : JobsSound s' := by
  cases h with
  | still hst hj =>
    exact ⟨by rw [hj]; exact hs.once, fun hm => by rw [hst]; exact hs.held (by rwa [hj] at hm),
      fun hi => by rw [hj]; exact hs.pending (by rwa [hst] at hi)⟩
  | start hq hst hj => exact hs.set hq hst hj (.inl ⟨by simp, by simp⟩) rfl
  | proceed hq he he' hst hj =>
    refine hs.set hq hst hj (.inl ⟨?_, ?_⟩) (Phase.isLive_of_endsIn_eq he)
    · rintro rfl
      cases he
    · rintro rfl
      cases he'
  | handOver hq hst hj => exact hs.handOver hq hst hj
  | @report i n c j hi hq hst hj =>
    refine hs.run hi hj (fun m hm => ?_) fun c' hc' => ?_
    · rw [hst, List.getElem?_set_ne hm.symm]
    · rw [hst, getElem?_set_of hq, if_pos rfl] at hc'
      cases hc'
  | lose hi hq hst hj =>
    exact hs.run hi hj (fun _ _ => by rw [hst]) fun c' hc' => hq c' (by rwa [hst] at hc')
  | finish hq hl _ hst hj => exact hs.set hq hst hj (.inr rfl) hl

/-- The task of a job waits for it, unless it has ended. -/
theorem inJob_of_live (hm : id ∈ s.jobs.map Prod.fst)
    (hl : ∀ c ph, s.stages[id]? = some (c, ph) → ph.isLive = true) :
    ∃ c, s.stages[id]? = some (c, .inJob) := by
  obtain ⟨c, ph, hst, rfl | hd⟩ := hs.held hm
  · exact ⟨c, hst⟩
  · rw [hl c ph hst] at hd
    cases hd

end JobsSound

theorem JobsSound.accept (hs : JobsSound s) (work : Work) : JobsSound (s.accept work) := by
  have hst := stages_accept s work
  refine ⟨hs.once, fun {n} hm => ?_, fun {n c} hi => ?_⟩
  · obtain ⟨c, ph, hi, hph⟩ := hs.held hm
    refine ⟨c, ph, ?_, hph⟩
    rw [hst, List.getElem?_append_left (List.getElem?_eq_some_iff.mp hi).1, hi]
  · rw [hst, List.getElem?_append] at hi
    split_ifs at hi
    · exact hs.pending hi
    · simp [List.getElem?_singleton] at hi

theorem jobsSound_withLimit (limit : Nat) (world : World) :
    JobsSound (withLimit limit world : Pool World Work Job Result) :=
  ⟨List.nodup_nil, fun hm => absurd hm List.not_mem_nil, fun hi => by
    simp [stages, withLimit] at hi⟩

/-! ### Tasks that get no job any more -/

/-- A task is neither in line nor at work any more. -/
def Late (s : Pool World Work Job Result) (id : Nat) : Prop :=
  ∃ c ph, s.stages[id]? = some (c, ph) ∧ ph.isEarly = false

theorem Late.effect (hs : s.Late id) (h : Effect w s s') : s'.Late id := by
  obtain ⟨c, ph, hst, hl⟩ := hs
  obtain ⟨ph', hst', -⟩ := h.stage hst
  refine ⟨c, ph', hst', ?_⟩
  by_contra he
  obtain ⟨ph₀, hst₀, he₀⟩ := h.early_before hst' (by simpa using he)
  obtain ⟨-, rfl⟩ := stage_inj hst hst₀
  rw [hl] at he₀
  cases he₀

theorem JobsSound.late (hs : JobsSound s) (hm : id ∈ s.jobs.map Prod.fst) : s.Late id := by
  obtain ⟨c, ph, hst, rfl | hd⟩ := hs.held hm
  · exact ⟨c, .inJob, hst, rfl⟩
  · refine ⟨c, ph, hst, ?_⟩
    cases ph <;> first | rfl | cases hd

/-- Such a task gets no job. -/
theorem Late.no_job (hs : s.Late id) (h : Effect w s s') (hn : id ∉ s.jobs.map Prod.fst) :
    id ∉ s'.jobs.map Prod.fst := by
  obtain ⟨c, ph, hst, hl⟩ := hs
  intro hm
  refine hn ?_
  cases h with
  | still _ hj | start _ _ hj | proceed _ _ _ _ hj | finish _ _ _ _ hj => rwa [hj] at hm
  | report _ _ _ hj | lose _ _ _ hj =>
    rw [hj] at hm
    exact ((List.eraseIdx_sublist _ _).map _).subset hm
  | handOver hq _ hj =>
    rw [hj, List.map_append, List.mem_append] at hm
    refine hm.resolve_right fun hm => ?_
    obtain rfl := List.mem_singleton.mp hm
    obtain ⟨-, rfl⟩ := stage_inj hst hq
    cases hl

end ArtifactFetch.Pool
