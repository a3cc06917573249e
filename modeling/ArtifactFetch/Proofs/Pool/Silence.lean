import ArtifactFetch.Proofs.Pool.Resting

/-! # Pools that notice nothing

That a task is slow is noticed and remembered, and nothing else comes of it but that the runtime has
been at work once more. So a pool goes on as one of the same workload without a notice does, on a
runtime that decides alike between its queues (`Workload.silent`). Both go alike, only that some
tasks may be ready in the first that are not in the second (`Beside`). Every operation takes two
such pools to two such pools, in particular looking at a task (`Beside.poll`) and running a job
(`Beside.runJob`); and looking at a task at rest, nothing happens but that it may be noticed to be
slow (`beside_of_rests`). -/

namespace ArtifactFetch

/-- The workload without a notice, on a runtime that decides between its queues as is laid down,
whatever its tick. -/
def Workload.silent {World Work Job Result : Type} (w : Workload World Work Job Result)
    (decided : List Bool → Bool) : Workload World Work Job Result :=
  { w with
    notice := none
    runtime := { w.runtime with outsideFirst := fun _ => decided } }

/-- The task as if it had not been noticed. -/
def Task.unnoticed {Work Job Result : Type} (t : Task Work Job Result) : Task Work Job Result :=
  { t with noticed := false }

namespace Pool

variable {World Work Job Result : Type} {w : Workload World Work Job Result}
  {s s' s₀ s₀' : Pool World Work Job Result} {id i : Nat} {E : List Nat} {t : Task Work Job Result}
  {decided : List Bool → Bool}

/-- The pool but for its gates and its ticks, which of its tasks are ready, and which were noticed
to be slow. -/
def core (s : Pool World Work Job Result) : Pool World Work Job Result :=
  { s with tasks := s.tasks.map Task.unnoticed, gates := [], ready := [], ticks := 0 }

/-- **Two pools go alike**, but for some tasks that are ready in the first only. In which order the
gates are kept is of no importance. -/
structure Beside (E : List Nat) (s s₀ : Pool World Work Job Result) : Prop where
  core : s.core = s₀.core
  gate : ∀ name, s.gate name = s₀.gate name
  ready : s₀.ready = s.ready.filter (· ∉ E)

theorem active_congr (h : s.stages = s'.stages) : s.active = s'.active := by
  have he : ∀ l : List (Task Work Job Result), l.countP Task.isLive =
      (l.map fun t => (t.work, t.phase)).countP fun st => st.2.isLive := fun l => by
    rw [List.countP_map]
    exact List.countP_congr fun t _ => by rw [← Task.isLive_phase]; rfl
  rw [active, active, he, he s'.tasks]
  exact congrArg (List.countP fun st => st.2.isLive) h

namespace Beside

theorem refl (s : Pool World Work Job Result) : Beside [] s s :=
  ⟨rfl, fun _ => rfl, by simp⟩

theorem ready_eq (h : Beside [] s s₀) : s₀.ready = s.ready := by
  rw [h.ready]
  simp

theorem symm (h : Beside [] s s₀) : Beside [] s₀ s :=
  ⟨h.core.symm, fun name => (h.gate name).symm, by rw [h.ready_eq]; simp⟩

theorem trans {a b c : Pool World Work Job Result} (h : Beside [] a b) (h' : Beside E b c) :
    Beside E a c :=
  ⟨h.core.trans h'.core, fun name => (h.gate name).trans (h'.gate name), by
    rw [h'.ready, h.ready_eq]⟩

section Views
variable (h : Beside E s s₀)
include h

theorem slots : s.slots = s₀.slots := congrArg (fun p => p.slots) h.core
theorem called : s.called = s₀.called := congrArg (fun p => p.called) h.core
theorem jobs : s.jobs = s₀.jobs := congrArg (fun p => p.jobs) h.core
theorem now : s.now = s₀.now := congrArg (fun p => p.now) h.core
theorem closed : s.closed = s₀.closed := congrArg (fun p => p.closed) h.core
theorem cancelled : s.cancelled = s₀.cancelled := congrArg (fun p => p.cancelled) h.core
theorem teardown : s.teardown = s₀.teardown := congrArg (fun p => p.teardown) h.core
theorem contests : s.contests = s₀.contests := congrArg (fun p => p.contests) h.core
theorem world : s.world = s₀.world := congrArg (fun p => p.world) h.core

theorem tasks : s.tasks.map Task.unnoticed = s₀.tasks.map Task.unnoticed :=
  congrArg (fun p => p.tasks) h.core

theorem length : s.tasks.length = s₀.tasks.length := by
  simpa using congrArg List.length h.tasks

theorem task? (i : Nat) :
    s.tasks[i]?.map Task.unnoticed = s₀.tasks[i]?.map Task.unnoticed := by
  rw [← List.getElem?_map, ← List.getElem?_map, h.tasks]

/-- The task of the second pool is that of the first, noticed or not. -/
theorem task (ht : s.tasks[i]? = some t) :
    ∃ b, s₀.tasks[i]? = some { t with noticed := b } := by
  have hi := h.task? i
  rw [ht, Option.map_some, eq_comm, Option.map_eq_some_iff] at hi
  obtain ⟨t₀, ht₀, he⟩ := hi
  refine ⟨t₀.noticed, ht₀.trans ?_⟩
  cases t
  cases t₀
  simp_all [Task.unnoticed]

theorem no_task (ht : s.tasks[i]? = none) : s₀.tasks[i]? = none := by
  have hi := h.task? i
  rwa [ht, Option.map_none, eq_comm, Option.map_eq_none_iff] at hi

theorem stages : s.stages = s₀.stages := by
  have he : ∀ l : List (Task Work Job Result), l.map (fun t => (t.work, t.phase)) =
      (l.map Task.unnoticed).map fun t => (t.work, t.phase) := fun l => by
    rw [List.map_map]
    rfl
  rw [Pool.stages, Pool.stages, he, he s₀.tasks, h.tasks]

/-- Nobody sees which tasks were noticed to be slow. -/
theorem result? (i : Nat) : s.result? i = s₀.result? i := by
  rw [result?_eq, result?_eq, h.stages]

theorem active : s.active = s₀.active := active_congr h.stages

/-- What does not depend on it holds of a task in both. -/
theorem any {f : Task Work Job Result → Bool} (hf : ∀ t, f t.unnoticed = f t) (i : Nat) :
    s.tasks[i]?.any f = s₀.tasks[i]?.any f := by
  have he : ∀ o : Option (Task Work Job Result), o.any f = (o.map Task.unnoticed).any f :=
    fun o => by cases o <;> simp [hf]
  rw [he, h.task? i, ← he]

theorem live : s.live = s₀.live := by
  rw [Pool.live, Pool.live, h.length]
  exact List.filter_congr fun i _ => h.any (fun _ => rfl) i

theorem isQueued (hi : i ∉ E) : s.isQueued i = s₀.isQueued i := by
  unfold Pool.isQueued
  rw [h.called, h.ready]
  simp [List.mem_filter, hi]

end Views

/-! ### The small operations -/

/-- What concerns the cores alike, and neither gates nor ready tasks. -/
theorem of (h : Beside E s s₀) (hc : s'.core = s₀'.core) (hg : s'.gates = s.gates)
    (hg₀ : s₀'.gates = s₀.gates) (hr : s'.ready = s.ready) (hr₀ : s₀'.ready = s₀.ready) :
    Beside E s' s₀' where
  core := hc
  gate name := by
    have hgate := h.gate name
    unfold Pool.gate at hgate ⊢
    rwa [hg, hg₀]
  ready := by rw [hr, hr₀, h.ready]

theorem withSlots (h : Beside E s s₀) {x x₀ : Turnstile} (he : x = x₀) :
    Beside E { s with slots := x } { s₀ with slots := x₀ } :=
  he ▸ h.of (congrArg (fun p => { p with slots := x }) h.core) rfl rfl rfl rfl

theorem withWorld (h : Beside E s s₀) {x x₀ : World} (he : x = x₀) :
    Beside E { s with world := x } { s₀ with world := x₀ } :=
  he ▸ h.of (congrArg (fun p => { p with world := x }) h.core) rfl rfl rfl rfl

theorem withJobs (h : Beside E s s₀) {x x₀ : List (Nat × Job)} (he : x = x₀) :
    Beside E { s with jobs := x } { s₀ with jobs := x₀ } :=
  he ▸ h.of (congrArg (fun p => { p with jobs := x }) h.core) rfl rfl rfl rfl

theorem withCalled (h : Beside E s s₀) {x x₀ : List Nat} (he : x = x₀) :
    Beside E { s with called := x } { s₀ with called := x₀ } :=
  he ▸ h.of (congrArg (fun p => { p with called := x }) h.core) rfl rfl rfl rfl

/-- How often the runtime has been at work is of no importance. -/
theorem withTicks (h : Beside E s s₀) (n n₀ : Nat) :
    Beside E { s with ticks := n } { s₀ with ticks := n₀ } :=
  ⟨h.core, h.gate, h.ready⟩

theorem record (h : Beside E s s₀) (m : Milestone) : Beside E (s.record m) (s₀.record m) :=
  h.of (congrArg (Pool.record m) h.core) rfl rfl rfl rfl

theorem setGate (h : Beside E s s₀) (name : String) {g g₀ : Turnstile} (he : g = g₀) :
    Beside E (s.setGate name g) (s₀.setGate name g₀) where
  core := h.core
  gate name' := by rw [gate_setGate, gate_setGate, h.gate, he]
  ready := h.ready

theorem modifyTask (h : Beside E s s₀) (id : Nat)
    {f f₀ : Task Work Job Result → Task Work Job Result} (he : f = f₀)
    (hf : ∀ t, (f t).unnoticed = f t.unnoticed) :
    Beside E (s.modifyTask id f) (s₀.modifyTask id f₀) := by
  subst he
  have hmodify : ∀ s : Pool World Work Job Result,
      (s.modifyTask id f).core = s.core.modifyTask id f := fun s => by
    have hmap : (s.tasks.modify id f).map Task.unnoticed =
        (s.tasks.map Task.unnoticed).modify id f := by
      refine List.ext_getElem? fun n => ?_
      rw [List.getElem?_map, List.getElem?_modify, List.getElem?_modify, List.getElem?_map]
      cases s.tasks[n]? with
      | none => rfl
      | some t => by_cases hn : id = n <;> simp [hn, hf]
    unfold Pool.core Pool.modifyTask
    rw [hmap]
  refine h.of ?_ rfl rfl rfl rfl
  rw [hmodify, hmodify, h.core]

theorem setPhase (h : Beside E s s₀) (id : Nat) {ph ph₀ : Phase Job Result} (he : ph = ph₀) :
    Beside E (s.setPhase id ph) (s₀.setPhase id ph₀) :=
  h.modifyTask id (by rw [he]) fun _ => rfl

/-- Noticing that a task is slow leaves the pool beside the other. -/
theorem notice (h : Beside E s s₀) (id : Nat) :
    Beside E (s.modifyTask id fun t => { t with noticed := true }) s₀ := by
  refine h.of (Eq.trans ?_ h.core) rfl rfl rfl rfl
  unfold Pool.core Pool.modifyTask
  rw [map_modify_same Task.unnoticed (fun t => { t with noticed := true }) fun _ => rfl]

/-- Tasks that are woken in both. -/
theorem wake (h : Beside E s s₀) {ids : List Nat} (hids : ∀ i ∈ ids, i ∉ E) :
    Beside E (s.wake ids) (s₀.wake ids) where
  core := h.core
  gate := h.gate
  ready := by
    have hnew : (ids.filter (!s.isQueued ·)).filter (· ∉ E) = ids.filter (!s₀.isQueued ·) := by
      rw [List.filter_filter]
      refine List.filter_congr fun i hi => ?_
      rw [h.isQueued (hids i hi), decide_eq_true (hids i hi), Bool.true_and]
    show s₀.ready ++ _ = (s.ready ++ _).filter _
    rw [List.filter_append, hnew, h.ready]

theorem call (h : Beside [] s s₀) (ids : List Nat) : Beside [] (s.call ids) (s₀.call ids) := by
  have hq : (fun i => !s.isQueued i) = fun i => !s₀.isQueued i := by
    funext i
    rw [h.isQueued List.not_mem_nil]
  refine h.withCalled ?_
  rw [hq, h.called]

theorem releaseSlot (h : Beside E s s₀) (hq : ∀ i ∈ s.slots.queue, i ∉ E) :
    Beside E s.releaseSlot s₀.releaseSlot := by
  unfold Pool.releaseSlot
  rw [← h.slots]
  exact (h.withSlots rfl).wake fun i hi => hq i (List.mem_of_mem_take hi)

theorem leaveSlots (h : Beside E s s₀) (hq : ∀ i ∈ s.slots.queue, i ∉ E) (id : Nat) :
    Beside E (s.leaveSlots id) (s₀.leaveSlots id) := by
  unfold Pool.leaveSlots
  rw [← h.slots]
  exact (h.withSlots rfl).wake fun i hi => hq i (Turnstile.mem_of_leave hi).2

theorem leaveGate (h : Beside E s s₀) {name : String}
    (hu : E = [] ∨ id ∉ (s.gate name).granted) :
    Beside E (s.leaveGate name id) (s₀.leaveGate name id) := by
  unfold Pool.leaveGate
  rw [← h.gate]
  refine (h.setGate name rfl).wake fun i hi => ?_
  obtain rfl | hg := hu
  · exact List.not_mem_nil
  · exact absurd (Turnstile.mem_of_leave hi).1 hg

/-! ### Looking at a task -/

theorem letGo (h : Beside E s s₀) (hq : ∀ i ∈ s.slots.queue, i ∉ E)
    (hu : E = [] ∨ Ungranted s id t) :
    Beside E (s.letGo id t.phase) (s₀.letGo id t.phase) := by
  unfold Pool.letGo
  split
  · exact h
  · exact h.leaveSlots hq id
  · next name waits e hp =>
    have hungranted : E = [] ∨ id ∉ (s.gate name).granted :=
      hu.imp_right fun hu => hu name waits e hp
    exact (h.leaveGate hungranted).releaseSlot hq
  · exact h.releaseSlot hq

theorem finish (h : Beside E s s₀) (ht : s.tasks[id]? = some t) (hq : ∀ i ∈ s.slots.queue, i ∉ E)
    (hu : E = [] ∨ Ungranted s id t) (r : Result) :
    Beside E (s.finish w id r) (s₀.finish (w.silent decided) id r) := by
  obtain ⟨b, ht₀⟩ := h.task ht
  have hended := (h.withWorld (congrArg (w.leave id t.work) h.world)).setPhase id
    (congrArg (Phase.ended · r) h.now)
  rw [finish_eq ht, finish_eq ht₀]
  exact hended.letGo hq hu

theorem stay (h : Beside E s s₀) (ht : s.tasks[id]? = some t) (hq : ∀ i ∈ s.slots.queue, i ∉ E)
    (hu : E = [] ∨ Ungranted s id t) : Beside E (s.stay w id) (s₀.stay (w.silent decided) id) := by
  obtain ⟨b, ht₀⟩ := h.task ht
  have hsilent :
      ({ t with noticed := b } : Task Work Job Result).noticeAt (w.silent decided) = none := by
    cases b <;> simp [Task.noticeAt, Workload.silent]
  have hdeadline :
      (({ t with noticed := b } : Task Work Job Result).deadline (w.silent decided)).any
        (· ≤ s₀.now) = (t.deadline w).any (· ≤ s.now) := by
    rw [h.now]
    rfl
  unfold Pool.stay
  rw [ht, ht₀]
  dsimp only
  rw [hsilent, hdeadline, Option.any_none, if_neg Bool.false_ne_true]
  split_ifs
  · exact h.finish ht hq hu _
  · exact h.notice id
  · exact h

theorem walk : ∀ (waits : List Wait) {e : Ending Job Result} {s s₀ : Pool World Work Job Result}
    {t : Task Work Job Result}, Beside E s s₀ → s.tasks[id]? = some t →
      t.phase = .working waits e → (∀ i ∈ s.slots.queue, i ∉ E) →
        Beside E (s.walk w id waits e) (s₀.walk (w.silent decided) id waits e)
  | [], .done r, s, s₀, t, h, ht, hp, hq =>
    (h.record _).finish ht hq (.inr (ungranted_of_phase hp (by simp))) r
  | [], .job j, s, s₀, t, h, ht, hp, hq => by
    have hover : Beside E ((s.record (.finished id)).handOver id j)
        ((s₀.record (.finished id)).handOver id j) :=
      ((h.record _).setPhase id rfl).withJobs (congrArg (· ++ [(id, j)]) h.jobs)
    rw [walk_job, walk_job]
    exact hover.stay (getElem?_tasks_setPhase (s := s.record (.finished id)) ht .inJob) hq
      (.inr (ungranted_of_phase rfl (by simp)))
  | .gate name :: waits, e, s, s₀, t, h, ht, hp, hq => by
    unfold Pool.walk
    rw [← h.gate]
    rcases he : (s.gate name).enter id with ⟨g, _ | _⟩ <;> dsimp only
    · exact ((h.setGate name rfl).setPhase id rfl).stay
        (getElem?_tasks_setPhase (s := s.setGate name g) ht _) hq
        (.inr (ungranted_of_enter he waits e))
    · have ht' := getElem?_tasks_setPhase (s := s.setGate name g) ht (.working waits e)
      exact walk waits ((h.setGate name rfl).setPhase id rfl) ht' rfl hq
  | .sleep d :: waits, e, s, s₀, t, h, ht, hp, hq => by
    unfold Pool.walk
    split_ifs
    · exact walk waits (h.setPhase id rfl) (getElem?_tasks_setPhase ht _) rfl hq
    · have hasleep := h.setPhase id (congrArg (fun n => Phase.asleep (n + d) waits e) h.now)
      exact hasleep.stay (getElem?_tasks_setPhase ht _) hq
        (.inr (ungranted_of_phase rfl (by simp)))

theorem begin (h : Beside E s s₀) (ht : s.tasks[id]? = some t)
    (hq : ∀ i ∈ s.slots.queue, i ∉ E) (b : Bool) :
    Beside E (s.begin w id t) (s₀.begin (w.silent decided) id { t with noticed := b }) := by
  have hstart : w.start id t.work s.world = w.start id t.work s₀.world := by rw [h.world]
  have hlaunch :
      Beside E (s.launch w id t) (s₀.launch (w.silent decided) id { t with noticed := b }) := by
    refine Beside.record (.modifyTask (h.withWorld (congrArg Prod.fst hstart)) id ?_ ?_) _
    · exact congrArg₂ (fun (plan : Plan Job Result) (now : Instant) (t : Task Work Job Result) =>
        { t with phase := .working plan.waits plan.ending, startedAt := some now })
        (congrArg Prod.snd hstart) h.now
    · exact fun _ => rfl
  rw [begin_eq, begin_eq]
  show Beside E _ ((s₀.launch (w.silent decided) id _).walk (w.silent decided) id
    (w.start id t.work s₀.world).2.waits (w.start id t.work s₀.world).2.ending)
  rw [← hstart]
  exact hlaunch.walk _ (getElem?_tasks_launch ht) rfl hq

/-- A task goes on in both pools. -/
theorem goOn (h : Beside E s s₀) (hq : ∀ i ∈ s.slots.queue, i ∉ E) (id : Nat) :
    Beside E (s.goOn w id) (s₀.goOn (w.silent decided) id) := by
  unfold Pool.goOn
  rcases ht : s.tasks[id]? with _ | t
  · rw [h.no_task ht]
    exact h
  obtain ⟨b, ht₀⟩ := h.task ht
  rw [ht₀]
  dsimp only
  cases hp : t.phase with
  | queued =>
    dsimp only
    by_cases hc : s.teardown = .locked
    · rw [if_pos hc, if_pos (h.teardown ▸ hc)]
      exact h
    rw [if_neg hc, if_neg (h.teardown ▸ hc), ← h.slots]
    rcases he : s.slots.enter id with ⟨slots, _ | _⟩ <;> dsimp only
    · exact h.withSlots rfl
    · have hsub : ∀ i ∈ slots.queue, i ∉ E := by
        obtain ⟨-, rfl⟩ | ⟨-, -, -, rfl⟩ := Turnstile.enter_true he <;> exact hq
      rw [← hp]
      exact (h.withSlots (x := slots) rfl).begin ht hsub b
  | working waits e => exact h.walk waits ht hp hq
  | asleep wake waits e =>
    have hwake : (wake ≤ s₀.now) = (wake ≤ s.now) := by rw [h.now]
    simp only [hwake]
    split_ifs
    · exact (h.setPhase id rfl).walk waits (getElem?_tasks_setPhase ht _) rfl hq
    · exact h.stay ht hq (.inr (ungranted_of_phase hp (by simp)))
  | inJob => exact h.stay ht hq (.inr (ungranted_of_phase hp (by simp)))
  | reported r => exact h.finish ht hq (.inr (ungranted_of_phase hp (by simp))) r
  | ended time r => exact h

/-- A task is abandoned in both pools. -/
theorem giveUp (h : Beside [] s s₀) (id : Nat) :
    Beside [] (s.giveUp w id) (s₀.giveUp (w.silent decided) id) := by
  unfold Pool.giveUp
  rcases ht : s.tasks[id]? with _ | t
  · rw [h.no_task ht]
    exact h
  obtain ⟨b, ht₀⟩ := h.task ht
  have hlive : ({ t with noticed := b } : Task Work Job Result).isLive = t.isLive := rfl
  rw [ht₀]
  dsimp only
  rw [hlive]
  split_ifs
  · exact h.finish ht (fun i _ => List.not_mem_nil) (.inl rfl) _
  · exact h

/-- **Looking at a task** in both pools. -/
theorem poll (h : Beside E s s₀) (hq : ∀ i ∈ s.slots.queue, i ∉ E)
    (hE : E = [] ∨ s.cancelled = false) (id : Nat) :
    Beside E (s.poll w id) (s₀.poll (w.silent decided) id) := by
  rcases hc : s.cancelled with _ | _ <;> have hc₀ := h.cancelled.symm.trans hc
  · rw [poll_of_running hc, poll_of_running hc₀]
    exact h.goOn hq id
  · obtain rfl : E = [] := hE.resolve_right fun hk => by rw [hc] at hk; cases hk
    have hfirst : (w.silent decided).runtime.workFirst id = w.runtime.workFirst id := rfl
    unfold Pool.poll
    rw [if_pos hc, if_pos hc₀, hfirst]
    split_ifs
    · exact (h.goOn hq id).giveUp id
    · exact h.giveUp id

/-- The next task is taken out of its queue in both pools. -/
theorem taking (h : Beside [] s s₀) (ready called : List Nat) (contests : List Bool) :
    Beside [] (s.taking ready called contests) (s₀.taking ready called contests) where
  core := congrArg (fun p => { p with called := called, contests := contests }) h.core
  gate := h.gate
  ready := by simp [Pool.taking]

theorem runJob (h : Beside E s s₀)
    (hE : ∀ t, s.tasks[id]? = some t → t.phase = .inJob → id ∉ E) (j : Job) :
    Beside E (s.runJob w id j) (s₀.runJob (w.silent decided) id j) := by
  have hphase : s₀.tasks[id]?.map Task.phase = s.tasks[id]?.map Task.phase := by
    have he : ∀ o : Option (Task Work Job Result), o.map Task.phase =
        (o.map Task.unnoticed).map Task.phase := fun o => by cases o <;> rfl
    rw [he, ← h.task? id, ← he]
  have hrun : w.run id j s.world = w.run id j s₀.world := by rw [h.world]
  have hworld := (h.withWorld (congrArg Prod.fst hrun)).withTicks (s.ticks + 1) (s₀.ticks + 1)
  unfold Pool.runJob
  dsimp only
  rw [hphase]
  split
  · next hp =>
    obtain ⟨t, ht, htp⟩ := Option.map_eq_some_iff.mp hp
    refine (hworld.setPhase id (congrArg (fun r => Phase.reported r.2) hrun)).wake fun i hi => ?_
    rw [List.mem_singleton.mp hi]
    exact hE t ht htp
  · exact hworld

end Beside

/-! ### Looking at a task at rest -/

theorem setPhase_same (ht : s.tasks[id]? = some t) : s.setPhase id t.phase = s := by
  have hsame : s.tasks.modify id (fun u => { u with phase := t.phase }) = s.tasks := by
    refine List.ext_getElem? fun n => ?_
    rw [List.getElem?_modify]
    by_cases hn : id = n
    · subst hn
      simp [ht]
    · simp [hn]
  unfold setPhase modifyTask
  rw [hsame]

theorem setGate_same (s : Pool World Work Job Result) (name : String) :
    Beside [] (s.setGate name (s.gate name)) s where
  core := rfl
  gate name' := by
    rw [gate_setGate]
    split_ifs with hn
    · rw [hn]
    · rfl
  ready := (Beside.refl s).ready

/-- A task that may work for a while yet and stays is noticed to be slow, or nothing happens. -/
theorem beside_stay (ht : s.tasks[id]? = some t) (hd : ∀ a, t.deadline w = some a → s.now < a) :
    Beside [] (s.stay w id) s := by
  have htime : (t.deadline w).any (· ≤ s.now) = false := by
    rcases hd' : t.deadline w with _ | a
    · rfl
    · simpa using hd a hd'
  unfold stay
  rw [ht]
  dsimp only
  rw [htime, if_neg Bool.false_ne_true]
  split_ifs
  · exact (Beside.refl s).notice id
  · exact .refl s

/-- **Looking at a task at rest**, nothing happens but that it may be noticed to be slow. -/
theorem beside_of_rests (h : Rests w s i t) (ht : s.tasks[i]? = some t)
    (hc : s.cancelled = false) : Beside [] (s.poll w i) s := by
  rw [poll_of_running hc]
  unfold goOn
  rw [ht]
  dsimp only
  obtain ⟨wake, waits, e, hp, hlt⟩ | ⟨name, waits, e, hp, hline⟩ := h.wait
  · rw [hp]
    dsimp only
    rw [if_neg (Nat.not_le_of_lt hlt)]
    exact beside_stay ht h.deadline
  · have henter : (s.gate name).enter i = (s.gate name, false) := by
      unfold Turnstile.enter
      rw [if_neg hline.granted, if_pos hline.queue]
    rw [hp]
    dsimp only
    unfold walk
    rw [henter]
    dsimp only
    rw [← hp, setPhase_same (s := s.setGate name (s.gate name)) ht]
    have hstay := beside_stay (s := s.setGate name (s.gate name)) ht h.deadline
    exact hstay.trans (setGate_same s name)

end Pool

end ArtifactFetch
