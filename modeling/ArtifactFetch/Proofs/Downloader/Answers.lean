import ArtifactFetch.Proofs.Downloader.SingleFlight
import ArtifactFetch.Proofs.Registration.Steps

/-! # What tasks do with the answers of the resolver

A resolver answers a call in view of the requests before it, so the answers are read off the calls
(`Config.answers`). A task that is at work will end as the answer to its call says; the jobs are
those of tasks that were answered with artifacts; and a task that ends well has been answered with
artifacts that its registration has covered (`AnswersSound`). The classpath only grows all the
while. -/

namespace ArtifactFetch

/-- The answers to calls that follow the given requests, each with its task. -/
def Config.answersAfter (config : Config) : List Request → List Call → List (Nat × Answer)
  | _, [] => []
  | earlier, call :: calls =>
    (call.task, (config.resolver earlier call.request).answer) ::
      config.answersAfter (earlier ++ [call.request]) calls

/-- The answers to all calls, in the order of the calls. -/
def Config.answers (config : Config) (calls : List Call) : List (Nat × Answer) :=
  config.answersAfter [] calls

/-- The answers of the resolver so far, each with its task. -/
def Downloader.answers (d : Downloader) : List (Nat × Answer) := d.config.answers d.shared.calls

/-- The result of a task that has ended or is about to. -/
def Phase.outcome? {Job Result : Type} : Phase Job Result → Option Result
  | .reported r | .ended _ r => some r
  | _ => none

theorem Phase.outcome?_of_endsIn {Job Result : Type} {ph : Phase Job Result}
    {e : Ending Job Result} (h : ph.endsIn = some e) : ph.outcome? = none := by
  cases ph <;> first | rfl | cases h

section Answers
variable (config : Config)

theorem answersAfter_append (calls : List Call) (call : Call) : ∀ earlier : List Request,
    config.answersAfter earlier (calls ++ [call]) = config.answersAfter earlier calls ++
      [(call.task, (config.resolver (earlier ++ calls.map Call.request) call.request).answer)] := by
  induction calls with
  | nil => simp [Config.answersAfter]
  | cons c calls ih => simp [Config.answersAfter, ih]

theorem answers_append (calls : List Call) (call : Call) :
    config.answers (calls ++ [call]) = config.answers calls ++
      [(call.task, (config.resolver (calls.map Call.request) call.request).answer)] :=
  answersAfter_append config calls call []

theorem tasks_answersAfter (calls : List Call) : ∀ earlier : List Request,
    (config.answersAfter earlier calls).map Prod.fst = calls.map Call.task := by
  induction calls with
  | nil => exact fun _ => rfl
  | cons c calls ih => simp [Config.answersAfter, ih]

theorem tasks_answers (calls : List Call) :
    (config.answers calls).map Prod.fst = calls.map Call.task :=
  tasks_answersAfter config calls []

end Answers

variable {config : Config} {p p' : DownloadPool} {id : Nat} {c : Coordinate}
  {ph : Phase Found Outcome}

theorem CallsSound.answer_unique (hp : CallsSound config.settings p) {a a' : Answer}
    (h : (id, a) ∈ config.answers p.world.calls) (h' : (id, a') ∈ config.answers p.world.calls) :
    a = a' := by
  have hn := hp.once
  rw [← tasks_answers config] at hn
  exact (Prod.mk.inj (List.inj_on_of_nodup_map hn h h' rfl)).2

/-! ### What an effect does to the shared state -/

/-- An effect makes no call, or one for a task in line. -/
theorem calls_effect (h : Pool.Effect config.workload p p') :
    p'.world.calls = p.world.calls ∨ ∃ id c, p.stages[id]? = some (c, .queued) ∧
      p'.world.calls = p.world.calls ++ [⟨id, .for config.settings c⟩] := by
  cases h with
  | still _ _ hw | proceed _ _ _ _ _ hw | handOver _ _ _ hw => exact .inl (by rw [hw])
  | report _ _ _ _ hw | lose _ _ _ _ hw | finish _ _ _ _ _ hw => exact .inl (by rw [hw]; rfl)
  | @start id c hp _ _ hw => exact .inr ⟨id, c, hp, by rw [hw]; rfl⟩

theorem answers_effect (h : Pool.Effect config.workload p p') :
    config.answers p.world.calls ⊆ config.answers p'.world.calls := by
  obtain hc | ⟨id, c, -, hc⟩ := calls_effect h
  · rw [hc]
    exact List.Subset.refl _
  · rw [hc, answers_append]
    exact List.subset_append_left _ _

theorem grows_effect (h : Pool.Effect config.workload p p') :
    p.world.classpath.Grows p'.world.classpath := by
  cases h with
  | still _ _ hw | proceed _ _ _ _ _ hw | handOver _ _ _ hw => rw [hw]; exact .refl _
  | start _ _ _ hw | finish _ _ _ _ _ hw => rw [hw]; exact .refl _
  | report _ _ _ _ hw | lose _ _ _ _ hw => rw [hw]; exact Registration.grows_all _ _ _ _ _ _

/-! ### Tasks and their answers -/

/-- What the answers and the classpath have to do with a task of this work and phase. -/
structure Answered (answers : List (Nat × Answer)) (cp : Classpath) (id : Nat) (c : Coordinate)
    (ph : Phase Found Outcome) : Prop where
  /-- Its work ends as the answer says. -/
  working : ∀ e, ph.endsIn = some e → ∃ a, (id, a) ∈ answers ∧ e = Config.ending c a
  /-- If it ends well, the artifacts it was answered are covered. -/
  ok : ∀ s, ph.outcome? = some (.ok s) →
    ∃ found, (id, .artifacts found) ∈ answers ∧ s.Covers found cp

/-- **Every task does with its answer what it should.** -/
structure AnswersSound (config : Config) (p : DownloadPool) : Prop where
  stages : ∀ {id c ph}, p.stages[id]? = some (c, ph) →
    Answered (config.answers p.world.calls) p.world.classpath id c ph
  /-- A job is for the artifacts that its task was answered. -/
  jobs : ∀ {id j}, (id, j) ∈ p.jobs → p.works[id]? = some j.coordinate ∧
    (id, .artifacts j.artifacts) ∈ config.answers p.world.calls

theorem Answered.mono {answers answers' : List (Nat × Answer)} {cp cp' : Classpath}
    (h : Answered answers cp id c ph) (ha : answers ⊆ answers') (hg : cp.Grows cp') :
    Answered answers' cp' id c ph where
  working e he := by
    obtain ⟨a, hm, rfl⟩ := h.working e he
    exact ⟨a, ha hm, rfl⟩
  ok s hs := by
    obtain ⟨found, hm, hc⟩ := h.ok s hs
    exact ⟨found, ha hm, hc.grows hg⟩

/-- A task that neither works nor ends well needs no answer. -/
theorem Answered.of_none {answers : List (Nat × Answer)} {cp : Classpath}
    (he : ph.endsIn = none) (ho : ∀ s, ph.outcome? ≠ some (.ok s)) :
    Answered answers cp id c ph where
  working e h := by rw [he] at h; cases h
  ok s h := absurd h (ho s)

theorem ending_eq_job {a : Answer} {j : Found} (h : Ending.job j = Config.ending c a) :
    j.coordinate = c ∧ a = .artifacts j.artifacts := by
  cases a with
  | artifacts found => cases h; exact ⟨rfl, rfl⟩
  | error | panic => cases h

theorem ending_ne_done_ok {a : Answer} {s : Summary} : Ending.done (.ok s) ≠ Config.ending c a := by
  cases a <;> simp [Config.ending]

namespace AnswersSound

/-- One task that goes to another phase leaves the others in order. -/
theorem set (hp : AnswersSound config p) (h : Pool.Effect config.workload p p')
    {ph' : Phase Found Outcome} (hs : p'.stages = p.stages.set id (c, ph'))
    (ha : Answered (config.answers p'.world.calls) p'.world.classpath id c ph') {i : Nat}
    {c' : Coordinate} {ph'' : Phase Found Outcome} (hi : p'.stages[i]? = some (c', ph'')) :
    Answered (config.answers p'.world.calls) p'.world.classpath i c' ph'' := by
  rw [hs] at hi
  obtain ⟨rfl, hset⟩ | hold := Pool.of_getElem?_set hi
  · cases hset
    exact ha
  · exact (hp.stages hold).mono (answers_effect h) (grows_effect h)

theorem job_kept (hp : AnswersSound config p) (h : Pool.Effect config.workload p p') {j : Found}
    (hj : (id, j) ∈ p.jobs) : p'.works[id]? = some j.coordinate ∧
      (id, .artifacts j.artifacts) ∈ config.answers p'.world.calls := by
  rw [h.works_eq]
  exact ⟨(hp.jobs hj).1, answers_effect h (hp.jobs hj).2⟩

theorem report (hp : AnswersSound config p) {j : Found} (hj : (id, j) ∈ p.jobs) :
    Answered (config.answers p.world.calls) (config.registerFound id j p.world).1.classpath id c
      (.reported (config.registerFound id j p.world).2) where
  working e h := by cases h
  ok s h := by
    refine ⟨j.artifacts, (hp.jobs hj).2, Registration.covers_all ?_⟩
    simp only [Phase.outcome?, Config.registerFound, Option.some.injEq] at h
    split at h <;> simp_all

theorem yields (hp : AnswersSound config p) {r : Outcome} {time : Instant}
    (hst : p.stages[id]? = some (c, ph)) (hy : Pool.Yields config.workload c ph r) :
    Answered (config.answers p.world.calls) p.world.classpath id c (.ended time r) where
  working e h := by cases h
  ok s h := by
    obtain rfl : r = .ok s := Option.some.inj h
    cases hy with
    | done =>
      obtain ⟨a, -, ha⟩ := (hp.stages hst).working _ rfl
      exact absurd ha ending_ne_done_ok
    | reported => exact (hp.stages hst).ok s rfl

theorem effect (hp : AnswersSound config p) (h : Pool.Effect config.workload p p') :
    AnswersSound config p' := by
  cases h' : h with
  | still hs hj hw =>
    refine ⟨fun hi => ?_, fun hm => hp.job_kept h (by rwa [hj] at hm)⟩
    rw [hs] at hi
    exact (hp.stages hi).mono (answers_effect h) (grows_effect h)
  | @start id c hq hs hj hw =>
    refine ⟨fun hi => hp.set h hs ⟨fun e he => ?_, fun s ho => ?_⟩ hi,
      fun hm => hp.job_kept h (by rwa [hj] at hm)⟩
    · have hc : p'.world.calls = p.world.calls ++ [⟨id, .for config.settings c⟩] := by rw [hw]; rfl
      rw [hc, answers_append]
      exact ⟨_, List.mem_append_right _ List.mem_cons_self, (Option.some.inj he).symm⟩
    · cases ho
  | proceed hq he he' hs hj hw =>
    refine ⟨fun hi => hp.set h hs ⟨fun e h₁ => ?_, fun s ho => ?_⟩ hi,
      fun hm => hp.job_kept h (by rwa [hj] at hm)⟩
    · rw [he'] at h₁
      rw [hw]
      exact (hp.stages hq).working e (he.trans h₁)
    · rw [Phase.outcome?_of_endsIn he'] at ho
      cases ho
  | @handOver id c j hq hs hj hw =>
    obtain ⟨a, ha, hend⟩ := (hp.stages hq).working _ rfl
    obtain ⟨hc, rfl⟩ := ending_eq_job hend
    refine ⟨fun hi => hp.set h hs (.of_none rfl fun s ho => by cases ho) hi, fun hm => ?_⟩
    rw [hj, List.mem_append] at hm
    rcases hm with hm | hm
    · exact hp.job_kept h hm
    · cases List.mem_singleton.mp hm
      rw [h.works_eq, hw, hc]
      exact ⟨Pool.getElem?_works hq, ha⟩
  | report hi hq hs hj hw =>
    -- here a result comes into being, and the classpath has grown by then
    refine ⟨fun hi' => hp.set h hs ?_ hi', fun hm => ?_⟩
    · rw [hw]
      exact hp.report (List.mem_of_getElem? hi)
    · rw [hj] at hm
      exact hp.job_kept h (List.mem_of_mem_eraseIdx hm)
  | lose hi hq hs hj hw =>
    refine ⟨fun hi' => ?_, fun hm => ?_⟩
    · rw [hs] at hi'
      exact (hp.stages hi').mono (answers_effect h) (grows_effect h)
    · rw [hj] at hm
      exact hp.job_kept h (List.mem_of_mem_eraseIdx hm)
  | finish hq hl hy hs hj hw =>
    refine ⟨fun hi => hp.set h hs ?_ hi, fun hm => hp.job_kept h (by rwa [hj] at hm)⟩
    rw [hw]
    exact hp.yields hq hy

/-- The classpath may grow by other means. -/
theorem grow (hp : AnswersSound config p) (hs : p'.stages = p.stages) (hj : p'.jobs = p.jobs)
    (hc : p'.world.calls = p.world.calls) (hg : p.world.classpath.Grows p'.world.classpath) :
    AnswersSound config p' where
  stages hi := by
    rw [hs] at hi
    rw [hc]
    exact (hp.stages hi).mono (List.Subset.refl _) hg
  jobs hm := by
    rw [hj] at hm
    rw [Pool.works, hs, hc]
    exact hp.jobs hm

end AnswersSound

namespace Downloader

variable {R : Coordinate → Prop} {d d' : Downloader}

theorem AnswersSound.accept (hd : AnswersSound d.config d.pool) (c : Coordinate) :
    AnswersSound (d.accept c).config (d.accept c).pool where
  stages {id c' ph} hi := by
    obtain hst | ⟨-, -, rfl⟩ := of_stage_accept hi
    · exact hd.stages hst
    · exact .of_none rfl fun s ho => by cases ho
  jobs {id j} hm := by
    obtain ⟨hw, ha⟩ := hd.jobs hm
    exact ⟨work_accept_of hw c, ha⟩

theorem answersSound_change (h : Change R d d') (hd : AnswersSound d.config d.pool) :
    AnswersSound d'.config d'.pool := by
  cases h with
  | pool h => exact hd.effect h.effect
  | tell e => exact hd.grow rfl rfl rfl (Classpath.grows_deliver _ _ _)
  | install | replace => exact hd.grow rfl rfl rfl (.of_eq rfl rfl)
  | add p => exact hd.grow rfl rfl rfl (Classpath.grows_of_addFile rfl)
  | submit => exact AnswersSound.accept hd _
  | observe => exact hd.grow rfl rfl rfl (.refl _)

theorem answersSound_of_build {b : Builder} {files : FileTree}
    {environment : String → Option Bytes} (h : b.build files environment = .ok d) :
    AnswersSound d.config d.pool := by
  obtain ⟨limit, classpath, hp, -⟩ := pool_of_build h
  rw [hp]
  exact ⟨fun hi => by simp [Pool.stages, Pool.withLimit] at hi,
    fun hm => absurd hm List.not_mem_nil⟩

theorem answers_change (h : Change R d d') : d.answers ⊆ d'.answers := by
  cases h with
  | pool h => exact answers_effect h.effect
  | tell | install | replace | add | submit | observe => exact List.Subset.refl _

theorem answers_changes (h : Changes R d d') : d.answers ⊆ d'.answers := by
  induction h with
  | refl => exact List.Subset.refl _
  | tail _ h ih => exact List.Subset.trans ih (answers_change h)

end Downloader

end ArtifactFetch
