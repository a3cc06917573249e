import ArtifactFetch.Proofs.Downloader.Abandoned
import ArtifactFetch.Proofs.Pool.Closing

/-! # How downloads end

A download ends with an outcome of its own (`Own`): the failure or the panic that the resolver
answered, what the registration of the artifacts that it answered came to, or a timeout. It ends in
another way only if the pool has been cancelled, and then its result says so with its key
(`own_or_cancelled`). -/

namespace ArtifactFetch

namespace Pool

variable {World Work Job Result : Type} {w : Workload World Work Job Result}
  {s s' : Pool World Work Job Result} {id : Nat} {c : Work} {ph : Phase Job Result} {r : Result}

/-- Where the result of a task comes from that has ended or is about to. -/
inductive Source (w : Workload World Work Job Result) (s s' : Pool World Work Job Result) (id : Nat)
    (c : Work) : Result → Prop
  | before {ph : Phase Job Result} {r : Result} (hst : s.stages[id]? = some (c, ph))
    (ho : ph.outcome? = some r) : Source w s s' id c r
  | done {r : Result} (hst : s.stages[id]? = some (c, .working [] (.done r))) : Source w s s' id c r
  | job {i : Nat} {j : Job} (hj : s.jobs[i]? = some (id, j)) (hs : s' = s.runJobAt w i) :
    Source w s s' id c (w.run id j s.world).2
  | timedOut {limit : Duration} (hl : w.limit = some limit) : Source w s s' id c (w.timedOut c)
  | abandoned (hc : s.cancelled = true) : Source w s s' id c (w.abandoned c)

theorem limit_of_deadline {t : Task Work Job Result} {p : Instant → Bool}
    (h : (t.deadline w).any p = true) : ∃ limit, w.limit = some limit := by
  unfold Task.deadline at h
  split at h
  · next start limit _ hl => exact ⟨limit, hl⟩
  · cases h

theorem Ends.source {t : Task Work Job Result} (ht : s.tasks[id]? = some t) (he : Ends w s t r) :
    Source w s s' id t.work r := by
  have hst := getElem?_stages ht
  cases he with
  | done hp =>
    rw [hp] at hst
    exact .done hst
  | reported hp =>
    rw [hp] at hst
    exact .before hst rfl
  | timedOut hd =>
    obtain ⟨limit, hlimit⟩ := limit_of_deadline hd
    exact .timedOut hlimit
  | abandoned hc => exact .abandoned hc

/-- **Where results come from.** -/
theorem Change.source (h : Change w s s') (hst : s'.stages[id]? = some (c, ph))
    (ho : ph.outcome? = some r) : Source w s s' id c r := by
  -- a task that goes to a phase without a result has none after the change
  have hset : ∀ {i : Nat} {c' : Work} {ph' : Phase Job Result}, ph'.outcome? = none →
      s'.stages = s.stages.set i (c', ph') → Source w s s' id c r := by
    intro i c' ph' hn hs
    rw [hs] at hst
    obtain ⟨rfl, hnew⟩ | hold := of_getElem?_set hst
    · cases hnew
      rw [hn] at ho
      cases ho
    · exact .before hold ho
  cases h with
  | queue | tick | gate | line | through | close | cancel | lock => exact .before hst ho
  | notice i =>
    rw [stages_notice] at hst
    exact .before hst ho
  | @start i t slots ht =>
    exact hset rfl (stages_launch (s := { s with slots := slots }) ht)
  | proceed phase ht hp he =>
    obtain ⟨e, hs⟩ := Option.isSome_iff_exists.mp hp
    exact hset (Phase.outcome?_of_endsIn (he.trans hs)) (stages_setPhase ht _)
  | handOver ht => exact hset rfl (stages_setPhase ht .inJob)
  | @run i id' j hj =>
    obtain ⟨c', -, hs⟩ | ⟨-, hs⟩ := stages_runJob w id' j { s with jobs := s.jobs.eraseIdx i }
    · rw [hs] at hst
      obtain ⟨rfl, hnew⟩ | hold := of_getElem?_set hst
      · cases hnew
        obtain rfl := Option.some.inj ho
        exact .job hj (by rw [runJobAt, hj])
      · exact .before hold ho
    · rw [hs] at hst
      exact .before hst ho
  | @finish i t r' ht hl he =>
    rw [stages_finish ht] at hst
    obtain ⟨rfl, hnew⟩ | hold := of_getElem?_set hst
    · cases hnew
      obtain rfl : r' = r := Option.some.inj ho
      exact he.source ht
    · exact .before hold ho

end Pool

namespace Downloader

variable {d₀ d d' : Downloader} {h : Handle} {id : Nat} {c : Coordinate} {ph : Phase Found Outcome}
  {r : Outcome}

/-- **The own outcome of a download**, in a run from the first downloader to the second. -/
inductive Own (d₀ d : Downloader) (h : Handle) : Outcome → Prop
  /-- The failure that the resolver answered. -/
  | failed {e : FetchError} (ha : (h.task, .error e) ∈ d.answers) : Own d₀ d h (.error e)
  /-- The panic of the resolver. -/
  | panicked {p : Panic} (ha : (h.task, .panic p) ∈ d.answers) :
    Own d₀ d h (.error (.taskPanicked h.key p.message))
  /-- What it came to when the artifacts that the resolver answered were registered. -/
  | registered {j : Found} {d₁ d₂ : Downloader} (ha : (h.task, .artifacts j.artifacts) ∈ d.answers)
    (h₁ : Later d₀ d₁) (hran : Ran d₁ d₂ h.task j) (h₂ : Later d₂ d) :
    Own d₀ d h (d₁.config.registerFound h.task j d₁.shared).2
  | timedOut {limit : Duration} (hl : d.config.timeout = some limit) :
    Own d₀ d h (.error (.timeout h.key limit))

theorem Own.later (ho : Own d₀ d h r) (hc : Later d d') : Own d₀ d' h r := by
  cases ho with
  | failed ha => exact .failed (answers_changes hc ha)
  | panicked ha => exact .panicked (answers_changes hc ha)
  | registered ha h₁ hran h₂ => exact .registered (answers_changes hc ha) h₁ hran (h₂.trans hc)
  | timedOut hl => exact .timedOut (by rw [config_changes hc, hl])

/-- A result is the own outcome of the download, or the pool has been cancelled. -/
def OutcomesSound (d₀ d : Downloader) : Prop :=
  ∀ (id : Nat) (c : Coordinate) (ph : Phase Found Outcome) (r : Outcome),
    d.pool.stages[id]? = some (c, ph) → ph.outcome? = some r →
      Own d₀ d ⟨c.key, id⟩ r ∨ d.pool.cancelled = true ∧ r = .error (.cancelled c.key)

theorem timedOut_eq {config : Config} {limit : Duration} (hl : config.timeout = some limit)
    (c : Coordinate) : config.timedOut c = .error (.timeout c.key limit) := by
  unfold Config.timedOut
  rw [hl]
  rfl

theorem own_of_done (ha : AnswersSound d.config d.pool)
    (hst : d.pool.stages[id]? = some (c, .working [] (.done r))) : Own d₀ d ⟨c.key, id⟩ r := by
  obtain ⟨a, hm, he⟩ := (ha.stages hst).working _ rfl
  cases a with
  | artifacts => cases he
  | error e =>
    cases he
    exact .failed hm
  | panic p =>
    cases he
    exact .panicked hm

theorem OutcomesSound.pool {p : DownloadPool} (hd : OutcomesSound d₀ d) (hc : Later d₀ d)
    (ha : AnswersSound d.config d.pool) (h : Pool.Change d.config.workload d.pool p) :
    OutcomesSound d₀ { d with pool := p } := by
  intro id c ph r hst ho
  have hlater : Later d { d with pool := p } := .single (.pool h)
  have hsource := h.source hst ho
  cases hsource with
  | before hst₀ ho₀ =>
    obtain hown | ⟨hk, hr⟩ := hd id c _ r hst₀ ho₀
    · exact .inl (hown.later hlater)
    · exact .inr ⟨h.onward.cancelled hk, hr⟩
  | done hst₀ => exact .inl ((own_of_done ha hst₀).later hlater)
  | @job i j hj hs =>
    have hran : Ran d { d with pool := p } id j := ⟨i, hj, by rw [hs]⟩
    have hanswer := (ha.jobs (List.mem_of_getElem? hj)).2
    exact .inl (.registered (h := ⟨c.key, id⟩) (answers_changes hlater hanswer) hc hran .refl)
  | timedOut hl =>
    have hout := timedOut_eq hl c
    left
    show Own d₀ _ _ (d.config.timedOut c)
    rw [hout]
    exact .timedOut hl
  | abandoned hk => exact .inr ⟨h.onward.cancelled hk, rfl⟩

theorem OutcomesSound.change (hd : OutcomesSound d₀ d) (hc : Later d₀ d)
    (ha : AnswersSound d.config d.pool) (h : Change (fun _ => True) d d') :
    OutcomesSound d₀ d' := by
  have hlater : Later d d' := .single h
  cases h with
  | pool h => exact hd.pool hc ha h
  | tell | install | replace | add | observe =>
    exact fun id c ph r hst ho => (hd id c ph r hst ho).imp_left fun hown => hown.later hlater
  | submit =>
    intro id c ph r hst ho
    obtain hst | ⟨-, -, rfl⟩ := of_stage_accept hst
    · exact (hd id c ph r hst ho).imp_left fun hown => hown.later hlater
    · cases ho

/-- **How downloads end**, in every state of every run. -/
theorem outcomesSound_of_build {b : Builder} {files : FileTree}
    {environment : String → Option Bytes} (hb : b.build files environment = .ok d₀)
    (hc : Later d₀ d) : OutcomesSound d₀ d ∧ AnswersSound d.config d.pool := by
  induction hc with
  | refl =>
    refine ⟨fun id c ph r hst => ?_, answersSound_of_build hb⟩
    obtain ⟨limit, classpath, hp, -⟩ := pool_of_build hb
    simp [hp, Pool.stages, Pool.withLimit] at hst
  | tail hc h ih => exact ⟨ih.1.change hc ih.2 h, answersSound_change h ih.2⟩

theorem own_or_cancelled (hd : OutcomesSound d₀ d) (hm : h ∈ d.handles)
    (hr : d.result? h = some r) :
    Own d₀ d h r ∨ d.pool.cancelled = true ∧ r = .error (.cancelled h.key) := by
  obtain ⟨c, ph, hst, hk⟩ := mem_handles.mp hm
  obtain ⟨c', time, hst'⟩ := result?_eq_some_iff.mp hr
  obtain ⟨-, rfl⟩ := Pool.stage_inj hst hst'
  have hown := hd h.task c _ r hst rfl
  rwa [hk] at hown

end Downloader

end ArtifactFetch
