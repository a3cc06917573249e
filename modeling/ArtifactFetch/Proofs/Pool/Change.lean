import ArtifactFetch.Pool
import Mathlib.Logic.Relation
import Mathlib.Tactic.SplitIfs

/-! # What can happen to a pool

Whatever a pool does, it does in small changes: a task in line gets no slot or starts, a task at
work comes through a wait, hands its job over or ends, a job is run, the clock moves, the pool is
closed, cancelled or locked. `Change` lists them, each with all that has to hold before it, and
every operation of a pool but `spawn` is a chain of them (`Changes`, one lemma for each operation).
What every change keeps, a pool keeps however its tasks are looked at, its jobs are run and its
clock moves.

Those that concern one task while it is looked at are a `Look`, and looking at a task is a chain of
these (`looks_poll`): a task at work always stands at the waits that its phase names, so `walk` is a
chain from there. A pool that is left to itself does nothing but to take turns, in which it looks at
a task or runs a job, and to move its clock (`Lapse`). -/

namespace ArtifactFetch

namespace Phase

variable {Job Result : Type}

/-- The task asks or waits for something, and its work will end in this way. -/
def endsIn : Phase Job Result → Option (Ending Job Result)
  | .working _ e | .asleep _ _ e => some e
  | _ => none

end Phase

namespace Teardown

theorem cancels_cancel (t : Teardown) : t.cancel.cancels = true := by cases t <;> rfl

theorem cancels_lock (t : Teardown) : t.lock.cancels = t.cancels := by cases t <;> rfl

theorem lock_cancel (t : Teardown) : t.cancel.lock = .locked := by cases t <;> rfl

theorem lock_of_cancels {t : Teardown} (h : t.cancels = true) : t.lock = .locked := by
  cases t with
  | standing => cases h
  | cancelled | locked => rfl

theorem lock_of_not_cancels {t : Teardown} (h : t.cancels = false) : t.lock = t := by
  cases t with
  | standing => rfl
  | cancelled | locked => cases h

end Teardown

namespace Pool

variable {World Work Job Result : Type}

/-- A task of the given phase gives up what it holds or waits for. -/
def letGo (id : Nat) (phase : Phase Job Result) (s : Pool World Work Job Result) :
    Pool World Work Job Result :=
  match phase with
  | .ended _ _ => s
  | .queued => s.leaveSlots id
  | .working (.gate name :: _) _ => (s.leaveGate name id).releaseSlot
  | _ => s.releaseSlot

/-! ### What the small operations leave alone -/

section Fields
variable (s : Pool World Work Job Result)

@[simp] theorem tasks_wake (ids : List Nat) : (s.wake ids).tasks = s.tasks := rfl
@[simp] theorem jobs_wake (ids : List Nat) : (s.wake ids).jobs = s.jobs := rfl
@[simp] theorem world_wake (ids : List Nat) : (s.wake ids).world = s.world := rfl
@[simp] theorem closed_wake (ids : List Nat) : (s.wake ids).closed = s.closed := rfl
@[simp] theorem teardown_wake (ids : List Nat) : (s.wake ids).teardown = s.teardown := rfl
@[simp] theorem now_wake (ids : List Nat) : (s.wake ids).now = s.now := rfl

@[simp] theorem tasks_setPhase (id : Nat) (phase : Phase Job Result) :
    (s.setPhase id phase).tasks = s.tasks.modify id fun t => { t with phase := phase } := rfl

@[simp] theorem jobs_setPhase (id : Nat) (phase : Phase Job Result) :
    (s.setPhase id phase).jobs = s.jobs := rfl

@[simp] theorem world_setPhase (id : Nat) (phase : Phase Job Result) :
    (s.setPhase id phase).world = s.world := rfl

@[simp] theorem tasks_releaseSlot : s.releaseSlot.tasks = s.tasks := rfl
@[simp] theorem jobs_releaseSlot : s.releaseSlot.jobs = s.jobs := rfl
@[simp] theorem world_releaseSlot : s.releaseSlot.world = s.world := rfl
@[simp] theorem closed_releaseSlot : s.releaseSlot.closed = s.closed := rfl
@[simp] theorem teardown_releaseSlot : s.releaseSlot.teardown = s.teardown := rfl
@[simp] theorem now_releaseSlot : s.releaseSlot.now = s.now := rfl

variable (id : Nat) (phase : Phase Job Result)

@[simp] theorem tasks_letGo : (s.letGo id phase).tasks = s.tasks := by
  unfold letGo; split <;> rfl

@[simp] theorem jobs_letGo : (s.letGo id phase).jobs = s.jobs := by
  unfold letGo; split <;> rfl

@[simp] theorem world_letGo : (s.letGo id phase).world = s.world := by
  unfold letGo; split <;> rfl

@[simp] theorem closed_letGo : (s.letGo id phase).closed = s.closed := by
  unfold letGo; split <;> rfl

@[simp] theorem teardown_letGo : (s.letGo id phase).teardown = s.teardown := by
  unfold letGo; split <;> rfl

@[simp] theorem history_letGo : (s.letGo id phase).history = s.history := by
  unfold letGo; split <;> rfl

@[simp] theorem called_letGo : (s.letGo id phase).called = s.called := by
  unfold letGo; split <;> rfl

@[simp] theorem contests_letGo : (s.letGo id phase).contests = s.contests := by
  unfold letGo; split <;> rfl

@[simp] theorem now_letGo : (s.letGo id phase).now = s.now := by
  unfold letGo; split <;> rfl

end Fields

variable (w : Workload World Work Job Result)

/-- A task takes the slot it got, and its work is begun. -/
def launch (id : Nat) (t : Task Work Job Result) (s : Pool World Work Job Result) :
    Pool World Work Job Result :=
  let (world, plan) := w.start id t.work s.world
  let s := { s with world := world }.modifyTask id fun t =>
    { t with phase := .working plan.waits plan.ending, startedAt := some s.now }
  s.record (.started id)

theorem begin_eq (id : Nat) (t : Task Work Job Result) (s : Pool World Work Job Result) :
    s.begin w id t = (s.launch w id t).walk w id (w.start id t.work s.world).2.waits
      (w.start id t.work s.world).2.ending := rfl

/-- A task hands its job over. -/
def handOver (id : Nat) (j : Job) (s : Pool World Work Job Result) : Pool World Work Job Result :=
  { s.setPhase id .inJob with jobs := s.jobs ++ [(id, j)] }

theorem walk_job (id : Nat) (j : Job) (s : Pool World Work Job Result) :
    s.walk w id [] (.job j) = ((s.record (.finished id)).handOver id j).stay w id := rfl

/-- What can end a task that has not ended, and with which result. -/
inductive Ends (s : Pool World Work Job Result) (t : Task Work Job Result) : Result → Prop
  | done {r : Result} (h : t.phase = .working [] (.done r)) : Ends s t r
  | reported {r : Result} (h : t.phase = .reported r) : Ends s t r
  | timedOut (h : (t.deadline w).any (· ≤ s.now)) (hp : t.phase = .inJob ∨ t.phase.endsIn.isSome) :
    Ends s t (w.timedOut t.work)
  | abandoned (h : s.cancelled = true) : Ends s t (w.abandoned t.work)

/-- **What can happen while a task is looked at.** -/
inductive Look (id : Nat) : Pool World Work Job Result → Pool World Work Job Result → Prop
  | gate (s : Pool World Work Job Result) (name : String) (g : Turnstile) :
    Look id s (s.setGate name g)
  /-- The task finds no slot. -/
  | line {s : Pool World Work Job Result} {t : Task Work Job Result} {slots : Turnstile}
    (ht : s.tasks[id]? = some t) (hp : t.phase = .queued) (he : s.slots.enter id = (slots, false)) :
    Look id s { s with slots := slots }
  | start {s : Pool World Work Job Result} {t : Task Work Job Result} {slots : Turnstile}
    (ht : s.tasks[id]? = some t) (hp : t.phase = .queued) (he : s.slots.enter id = (slots, true))
    (hc : s.teardown ≠ .locked) : Look id s ({ s with slots := slots }.launch w id t)
  /-- The task comes through a wait, or to one. -/
  | proceed {s : Pool World Work Job Result} {t : Task Work Job Result}
    (phase : Phase Job Result) (ht : s.tasks[id]? = some t) (hp : t.phase.endsIn.isSome)
    (he : phase.endsIn = t.phase.endsIn) : Look id s (s.setPhase id phase)
  | notice (s : Pool World Work Job Result) :
    Look id s (s.modifyTask id fun t => { t with noticed := true })
  /-- The task has come through all its waits. -/
  | through {s : Pool World Work Job Result} {t : Task Work Job Result} {e : Ending Job Result}
    (ht : s.tasks[id]? = some t) (hp : t.phase = .working [] e) :
    Look id s (s.record (.finished id))
  | handOver {s : Pool World Work Job Result} {t : Task Work Job Result} {j : Job}
    (ht : s.tasks[id]? = some t) (hp : t.phase = .working [] (.job j))
    (hm : .finished id ∈ s.history) : Look id s (s.handOver id j)
  | finish {s : Pool World Work Job Result} {t : Task Work Job Result} {r : Result}
    (ht : s.tasks[id]? = some t) (hl : t.isLive = true) (he : Ends w s t r) :
    Look id s (s.finish w id r)

/-- A task is looked at for as long as it goes on. -/
abbrev Looks (id : Nat) : Pool World Work Job Result → Pool World Work Job Result → Prop :=
  Relation.ReflTransGen (Look w id)

/-- **What can happen to a pool**, but for new tasks. -/
inductive Change : Pool World Work Job Result → Pool World Work Job Result → Prop
  /-- The tasks to be looked at are others. -/
  | queue (s : Pool World Work Job Result) (ready called : List Nat) (ticks : Nat)
    (contests : List Bool) :
    Change s { s with ready := ready, called := called, ticks := ticks, contests := contests }
  | tick (s : Pool World Work Job Result) {time : Instant} (h : s.now ≤ time) :
    Change s { s with now := time }
  | gate (s : Pool World Work Job Result) (name : String) (g : Turnstile) :
    Change s (s.setGate name g)
  /-- A task finds no slot. -/
  | line {s : Pool World Work Job Result} {id : Nat} {t : Task Work Job Result} {slots : Turnstile}
    (ht : s.tasks[id]? = some t) (hp : t.phase = .queued) (he : s.slots.enter id = (slots, false)) :
    Change s { s with slots := slots }
  | start {s : Pool World Work Job Result} {id : Nat} {t : Task Work Job Result} {slots : Turnstile}
    (ht : s.tasks[id]? = some t) (hp : t.phase = .queued) (he : s.slots.enter id = (slots, true))
    (hc : s.teardown ≠ .locked) : Change s ({ s with slots := slots }.launch w id t)
  /-- A task comes through a wait, or to one. -/
  | proceed {s : Pool World Work Job Result} {id : Nat} {t : Task Work Job Result}
    (phase : Phase Job Result) (ht : s.tasks[id]? = some t) (hp : t.phase.endsIn.isSome)
    (he : phase.endsIn = t.phase.endsIn) : Change s (s.setPhase id phase)
  | notice (s : Pool World Work Job Result) (id : Nat) :
    Change s (s.modifyTask id fun t => { t with noticed := true })
  /-- A task has come through all its waits. -/
  | through {s : Pool World Work Job Result} {id : Nat} {t : Task Work Job Result}
    {e : Ending Job Result} (ht : s.tasks[id]? = some t) (hp : t.phase = .working [] e) :
    Change s (s.record (.finished id))
  | handOver {s : Pool World Work Job Result} {id : Nat} {t : Task Work Job Result} {j : Job}
    (ht : s.tasks[id]? = some t) (hp : t.phase = .working [] (.job j))
    (hm : .finished id ∈ s.history) : Change s (s.handOver id j)
  | run {s : Pool World Work Job Result} {i id : Nat} {j : Job} (hj : s.jobs[i]? = some (id, j)) :
    Change s ({ s with jobs := s.jobs.eraseIdx i }.runJob w id j)
  | finish {s : Pool World Work Job Result} {id : Nat} {t : Task Work Job Result} {r : Result}
    (ht : s.tasks[id]? = some t) (hl : t.isLive = true) (he : Ends w s t r) :
    Change s (s.finish w id r)
  | close (s : Pool World Work Job Result) : Change s { s with closed := true }
  | cancel (s : Pool World Work Job Result) : Change s { s with teardown := s.teardown.cancel }
  | lock (s : Pool World Work Job Result) : Change s { s with teardown := s.teardown.lock }

/-- A chain of changes. -/
abbrev Changes : Pool World Work Job Result → Pool World Work Job Result → Prop :=
  Relation.ReflTransGen (Change w)

/-! ### Looking at a task -/

section Chains
variable {w} {s s' : Pool World Work Job Result} {id : Nat} {t : Task Work Job Result}

open Relation.ReflTransGen (refl single trans)

theorem Look.change (h : Look w id s s') : Change w s s' := by
  cases h with
  | gate name g => exact .gate s name g
  | line ht hp he => exact .line ht hp he
  | start ht hp he hc => exact .start ht hp he hc
  | proceed phase ht hp he => exact .proceed phase ht hp he
  | notice => exact .notice s id
  | through ht hp => exact .through ht hp
  | handOver ht hp hm => exact .handOver ht hp hm
  | finish ht hl he => exact .finish ht hl he

theorem Looks.changes (h : Looks w id s s') : Changes w s s' := by
  induction h with
  | refl => exact refl
  | tail _ h ih => exact ih.tail h.change

theorem getElem?_tasks_setPhase (ht : s.tasks[id]? = some t) (phase : Phase Job Result) :
    (s.setPhase id phase).tasks[id]? = some { t with phase := phase } := by
  simp [List.getElem?_modify_eq, ht]

theorem isLive_of_endsIn (h : t.phase.endsIn.isSome) : t.isLive = true := by
  cases hp : t.phase <;> simp_all [Phase.endsIn, Task.isLive, Task.result?]

theorem looks_stay (ht : s.tasks[id]? = some t)
    (hp : t.phase = .inJob ∨ t.phase.endsIn.isSome) : Looks w id s (s.stay w id) := by
  have hl : t.isLive = true := by
    rcases hp with hp | hp
    · simp [Task.isLive, Task.result?, hp]
    · exact isLive_of_endsIn hp
  unfold stay
  rw [ht]
  dsimp only
  split_ifs with hd
  · exact single (.finish ht hl (.timedOut hd hp))
  · exact single (.notice s)
  · exact refl

/-- **The walk** of a task starts from the waits that its phase names. -/
theorem looks_walk : ∀ (waits : List Wait) {e : Ending Job Result}
    {s : Pool World Work Job Result} {t : Task Work Job Result}, s.tasks[id]? = some t →
      t.phase = .working waits e → Looks w id s (s.walk w id waits e)
  | [], .done r, s, t, ht, hp => by
    have hl : t.isLive = true := isLive_of_endsIn (by rw [hp]; rfl)
    exact .head (.through ht hp)
      (single (.finish (s := s.record (.finished id)) ht hl (.done hp)))
  | [], .job j, s, t, ht, hp => by
    rw [walk_job]
    have hm : .finished id ∈ (s.record (.finished id)).history :=
      List.mem_append_right _ List.mem_cons_self
    refine .head (.through ht hp) (.head (.handOver (s := s.record (.finished id)) ht hp hm) ?_)
    exact looks_stay (getElem?_tasks_setPhase (s := s.record (.finished id)) ht _) (.inl rfl)
  | .gate name :: waits, e, s, t, ht, hp => by
    have he : t.phase.endsIn = some e := by rw [hp]; rfl
    have hs : t.phase.endsIn.isSome := by rw [he]; rfl
    unfold walk
    rcases (s.gate name).enter id with ⟨g, _ | _⟩ <;> dsimp only
    · refine .head (.gate s name g) (.head
        (.proceed (s := s.setGate name g) (.working (.gate name :: waits) e) ht hs he.symm) ?_)
      exact looks_stay (getElem?_tasks_setPhase (s := s.setGate name g) ht _) (.inr rfl)
    · refine .head (.gate s name g) (.head
        (.proceed (s := s.setGate name g) (.working waits e) ht hs he.symm) ?_)
      exact looks_walk waits (getElem?_tasks_setPhase (s := s.setGate name g) ht _) rfl
  | .sleep d :: waits, e, s, t, ht, hp => by
    have he : t.phase.endsIn = some e := by rw [hp]; rfl
    have hs : t.phase.endsIn.isSome := by rw [he]; rfl
    unfold walk
    split_ifs with hd
    · refine .head (.proceed (.working waits e) ht hs he.symm) ?_
      exact looks_walk waits (getElem?_tasks_setPhase ht _) rfl
    · refine .head (.proceed (.asleep (s.now + d) waits e) ht hs he.symm) ?_
      exact looks_stay (getElem?_tasks_setPhase ht _) (.inr rfl)

theorem getElem?_tasks_launch (ht : s.tasks[id]? = some t) :
    (s.launch w id t).tasks[id]? = some { t with
      phase := .working (w.start id t.work s.world).2.waits (w.start id t.work s.world).2.ending
      startedAt := some s.now } := by
  simp [launch, record, modifyTask, List.getElem?_modify_eq, ht]

/-! ### While the clock stands -/

/-- The clock stands, and the pool is neither closed nor torn down meanwhile. -/
structure Stands (s s' : Pool World Work Job Result) : Prop where
  now : s'.now = s.now
  closed : s'.closed = s.closed
  teardown : s'.teardown = s.teardown

theorem Stands.cancelled (h : Stands s s') : s'.cancelled = s.cancelled :=
  congrArg Teardown.cancels h.teardown

theorem Stands.refl (s : Pool World Work Job Result) : Stands s s := ⟨rfl, rfl, rfl⟩

theorem Stands.trans {a b c : Pool World Work Job Result} (h : Stands a b) (h' : Stands b c) :
    Stands a c :=
  ⟨h'.now.trans h.now, h'.closed.trans h.closed, h'.teardown.trans h.teardown⟩

theorem finish_eq (ht : s.tasks[id]? = some t) (r : Result) :
    s.finish w id r = letGo id t.phase
      ({ s with world := w.leave id t.work s.world }.setPhase id (.ended s.now r)) := by
  unfold finish
  rw [ht]
  dsimp only
  unfold letGo leaveLine giveBack
  rcases t.phase with _ | ⟨_ | ⟨_ | _, _⟩, _⟩ | _ | _ | _ | _ <;> rfl

theorem stands_finish (ht : s.tasks[id]? = some t) (r : Result) : Stands s (s.finish w id r) := by
  rw [finish_eq ht]
  exact ⟨now_letGo _ _ _, closed_letGo _ _ _, teardown_letGo _ _ _⟩

theorem Look.stands (h : Look w id s s') : Stands s s' := by
  cases h with
  | finish ht => exact stands_finish ht _
  | gate | line | start | proceed | notice | through | handOver => exact ⟨rfl, rfl, rfl⟩

theorem Looks.stands (h : Looks w id s s') : Stands s s' := by
  induction h with
  | refl => exact .refl s
  | tail _ h ih => exact ih.trans h.stands

/-- Looking at a task, none is called from outside, and nothing is decided about those that were. -/
theorem Looks.outside (h : Looks w id s s') :
    s'.called = s.called ∧ s'.contests = s.contests := by
  induction h with
  | refl => exact ⟨rfl, rfl⟩
  | tail _ h ih =>
    cases h with
    | finish ht =>
      rw [finish_eq ht, called_letGo, contests_letGo]
      exact ih
    | gate | line | start | proceed | notice | through | handOver => exact ih

/-- Only what was cancelled is locked. -/
theorem not_locked (hc : s.cancelled = false) : s.teardown ≠ .locked := fun hk => by
  rw [Pool.cancelled, hk] at hc
  cases hc

/-- A task in line that gets a slot starts. -/
theorem goOn_start {slots : Turnstile} (ht : s.tasks[id]? = some t) (hp : t.phase = .queued)
    (hk : s.teardown ≠ .locked) (he : s.slots.enter id = (slots, true)) :
    s.goOn w id = { s with slots := slots }.begin w id t := by
  unfold goOn
  rw [ht]
  dsimp only
  rw [hp]
  dsimp only
  rw [if_neg hk, he]

/-- A task in line that gets no slot stays there. -/
theorem goOn_line {slots : Turnstile} (ht : s.tasks[id]? = some t) (hp : t.phase = .queued)
    (hk : s.teardown ≠ .locked) (he : s.slots.enter id = (slots, false)) :
    s.goOn w id = { s with slots := slots } := by
  unfold goOn
  rw [ht]
  dsimp only
  rw [hp]
  dsimp only
  rw [if_neg hk, he]

/-- A task that goes on. -/
theorem looks_goOn (s : Pool World Work Job Result) (id : Nat) : Looks w id s (s.goOn w id) := by
  unfold goOn
  rcases ht : s.tasks[id]? with _ | t
  · exact refl
  dsimp only
  cases hp : t.phase with
  | queued =>
    dsimp only
    split_ifs with hc
    · exact refl
    rcases he : s.slots.enter id with ⟨slots, _ | _⟩ <;> dsimp only
    · exact single (.line ht hp he)
    · rw [begin_eq]
      refine .head (.start ht hp he hc) ?_
      exact looks_walk _ (getElem?_tasks_launch (s := { s with slots := slots }) ht) rfl
  | working waits e => exact looks_walk waits ht hp
  | asleep wake waits e =>
    dsimp only
    have he : t.phase.endsIn = some e := by rw [hp]; rfl
    have hs : t.phase.endsIn.isSome := by rw [he]; rfl
    split_ifs with hw
    · refine .head (.proceed (.working waits e) ht hs he.symm) ?_
      exact looks_walk waits (getElem?_tasks_setPhase ht _) rfl
    · exact looks_stay ht (.inr hs)
  | inJob => exact looks_stay ht (.inl hp)
  | reported r =>
    have hl : t.isLive = true := by simp [Task.isLive, Task.result?, hp]
    exact single (.finish ht hl (.reported hp))
  | ended time r => exact refl

/-- A task that is abandoned. -/
theorem looks_giveUp (hc : s.cancelled = true) (id : Nat) : Looks w id s (s.giveUp w id) := by
  unfold giveUp
  rcases ht : s.tasks[id]? with _ | t
  · exact refl
  dsimp only
  split_ifs with hl
  · exact single (.finish ht hl (.abandoned hc))
  · exact refl

theorem poll_of_running (hc : s.cancelled = false) (id : Nat) : s.poll w id = s.goOn w id := by
  unfold poll
  rw [if_neg (by rw [hc]; exact Bool.false_ne_true)]

/-- A task of a cancelled pool is abandoned, at once or after it has gone on once more. -/
theorem poll_of_cancelled (w : Workload World Work Job Result) (hc : s.cancelled = true)
    (id : Nat) :
    ∃ s₁, (s₁ = s ∨ s₁ = s.goOn w id) ∧ s.poll w id = s₁.giveUp w id := by
  unfold poll
  rw [if_pos hc]
  split_ifs
  · exact ⟨_, .inr rfl, rfl⟩
  · exact ⟨_, .inl rfl, rfl⟩

/-- **Looking at a task.** -/
theorem looks_poll (s : Pool World Work Job Result) (id : Nat) : Looks w id s (s.poll w id) := by
  rcases hc : s.cancelled with _ | _
  · rw [poll_of_running hc]
    exact looks_goOn s id
  · obtain ⟨s₁, hs₁, he⟩ := poll_of_cancelled w hc id
    have hlooks : Looks w id s s₁ := by
      obtain rfl | rfl := hs₁
      · exact refl
      · exact looks_goOn s id
    rw [he]
    exact hlooks.trans (looks_giveUp (hlooks.stands.cancelled.trans hc) id)

theorem changes_poll (s : Pool World Work Job Result) (id : Nat) : Changes w s (s.poll w id) :=
  (looks_poll s id).changes

theorem stands_runJob (id : Nat) (j : Job) (jobs : List (Nat × Job))
    (s : Pool World Work Job Result) : Stands s ({ s with jobs := jobs }.runJob w id j) := by
  unfold runJob
  dsimp only
  split <;> exact ⟨rfl, rfl, rfl⟩

theorem outside_runJob (id : Nat) (j : Job) (s : Pool World Work Job Result) :
    (s.runJob w id j).called = s.called ∧ (s.runJob w id j).contests = s.contests := by
  unfold runJob
  dsimp only
  split <;> exact ⟨rfl, rfl⟩

/-- The clock does not go back, and what is closed, cancelled or locked stays so. -/
structure Onward (s s' : Pool World Work Job Result) : Prop where
  now : s.now ≤ s'.now
  closed : s.closed = true → s'.closed = true
  cancelled : s.cancelled = true → s'.cancelled = true
  locked : s.teardown = .locked → s'.teardown = .locked

theorem Stands.onward (h : Stands s s') : Onward s s' :=
  ⟨Nat.le_of_eq h.now.symm, h.closed.trans, h.cancelled.trans, h.teardown.trans⟩

theorem Change.onward (h : Change w s s') : Onward s s' := by
  cases h with
  | tick h => exact ⟨h, fun hc => hc, fun hc => hc, fun hs => hs⟩
  | close => exact ⟨Nat.le_refl _, fun _ => rfl, fun hc => hc, fun hs => hs⟩
  | cancel =>
    exact ⟨Nat.le_refl _, fun hc => hc, fun _ => s.teardown.cancels_cancel,
      fun hk => congrArg Teardown.cancel hk⟩
  | lock =>
    exact ⟨Nat.le_refl _, fun hc => hc, s.teardown.cancels_lock.trans,
      fun hk => congrArg Teardown.lock hk⟩
  | run => exact (stands_runJob _ _ _ s).onward
  | finish ht => exact (stands_finish ht _).onward
  | queue | gate | line | start | proceed | notice | through | handOver =>
    exact ⟨Nat.le_refl _, fun hc => hc, fun hc => hc, fun hs => hs⟩

theorem now_le_of_changes (h : Changes w s s') : s.now ≤ s'.now := by
  induction h with
  | refl => exact Nat.le_refl _
  | tail _ h ih => exact Nat.le_trans ih h.onward.now

/-! ### Turns -/

/-- The task is to be looked at. -/
def Called (s : Pool World Work Job Result) (i : Nat) : Prop := i ∈ s.ready ∨ i ∈ s.called

section
variable (w)

/-- **The next task** is taken out of its queue. The lists are what is left in the queues, and what
was decided so far. -/
inductive Pick (s : Pool World Work Job Result) (id : Nat) : List Nat → List Nat → List Bool → Prop
  | ready {ready : List Nat} (hr : s.ready = id :: ready) (hc : s.called = []) :
    Pick s id ready [] s.contests
  | called {called : List Nat} (hr : s.ready = []) (hc : s.called = id :: called) :
    Pick s id [] called s.contests
  /-- There are tasks in both queues, and a ready one is next. -/
  | inside {ready : List Nat} (hr : s.ready = id :: ready) (hc : s.called ≠ [])
    (ho : s.outsideNext w = false) : Pick s id ready s.called (s.contests ++ [false])
  /-- There are tasks in both queues, and one that was called from outside is next. -/
  | outside {called : List Nat} (hr : s.ready ≠ []) (hc : s.called = id :: called)
    (ho : s.outsideNext w = true) : Pick s id s.ready called (s.contests ++ [true])

/-- **A turn**: a task that is called is looked at, and if there is none, the first job is run. -/
inductive Turn (s : Pool World Work Job Result) : Pool World Work Job Result → Prop
  | look {id : Nat} {ready called : List Nat} {contests : List Bool}
    (hq : Pick w s id ready called contests) :
    Turn s ((s.taking ready called contests).poll w id)
  | job {id : Nat} {j : Job} {jobs : List (Nat × Job)} (hq : s.ready ++ s.called = [])
    (hj : s.jobs = (id, j) :: jobs) : Turn s ({ s with jobs := jobs }.runJob w id j)
  | rest (hq : s.ready ++ s.called = []) (hj : s.jobs = []) : Turn s s

end

theorem called_iff {i : Nat} : s.Called i ↔ i ∈ s.ready ++ s.called := List.mem_append.symm

namespace Pick

variable {ready called : List Nat} {contests : List Bool}

/-- The task was called, and the others still are. -/
theorem called_iff (hq : Pick w s id ready called contests) {i : Nat} :
    s.Called i ↔ i = id ∨ i ∈ ready ∨ i ∈ called := by
  unfold Called
  cases hq with
  | ready hr hc | inside hr hc => simp [hr, hc, or_assoc]
  | called hr hc | outside hr hc => simp [hr, hc, or_left_comm]

theorem called_of_ne (hq : Pick w s id ready called contests) {i : Nat} (hne : i ≠ id)
    (h : s.Called i) : i ∈ ready ∨ i ∈ called :=
  (hq.called_iff.mp h).resolve_left hne

/-- What was decided before stays as it is. -/
theorem contests_grow (hq : Pick w s id ready called contests) : s.contests <+: contests := by
  cases hq with
  | ready | called => exact List.prefix_refl _
  | inside | outside => exact List.prefix_append _ _

theorem length (hq : Pick w s id ready called contests) :
    ready.length + called.length + 1 = s.ready.length + s.called.length := by
  cases hq with
  | ready hr hc | called hr hc => simp [hr, hc]
  | inside hr => rw [hr, List.length_cons, Nat.add_right_comm]
  | outside _ hc => rw [hc, List.length_cons, Nat.add_assoc]

end Pick

theorem idle_iff : s.idle = true ↔ s.ready ++ s.called = [] ∧ s.jobs = [] := by
  simp [idle, List.append_eq_nil_iff]

theorem not_called (hq : s.ready ++ s.called = []) (i : Nat) : ¬ s.Called i := by
  rw [called_iff, hq]
  exact List.not_mem_nil

theorem turn_cases (s : Pool World Work Job Result) : Turn w s (s.turn w) := by
  unfold turn
  split
  · next id ready id' called hr hc =>
    split_ifs with ho
    · exact .look (.outside (by rw [hr]; exact List.cons_ne_nil _ _) hc ho)
    · exact .look (.inside hr (by rw [hc]; exact List.cons_ne_nil _ _) (by simpa using ho))
  · next id ready hr hc => exact .look (.ready hr hc)
  · next id called hr hc => exact .look (.called hr hc)
  · next id j jobs hr hc hj => exact .job (by rw [hr, hc]; rfl) hj
  · next hr hc hj => exact .rest (by rw [hr, hc]; rfl) hj

theorem Turn.stands (h : Turn w s s') : Stands s s' := by
  cases h with
  | @look id ready called contests =>
    have h := (looks_poll (w := w) (s.taking ready called contests) id).stands
    exact ⟨h.now, h.closed, h.teardown⟩
  | job => exact stands_runJob _ _ _ s
  | rest => exact .refl s

theorem Turn.contests_grow (h : Turn w s s') : s.contests <+: s'.contests := by
  cases h with
  | look hq =>
    rw [(looks_poll _ _).outside.2]
    exact hq.contests_grow
  | @job id j jobs =>
    have hsame := (outside_runJob (w := w) id j { s with jobs := jobs }).2
    exact ⟨[], (List.append_nil _).trans hsame.symm⟩
  | rest => exact List.prefix_refl _

theorem Turn.changes (h : Turn w s s') : Changes w s s' := by
  cases h with
  | look => exact .head (.queue s _ _ _ _) (changes_poll _ _)
  | @job id j jobs hq hj =>
    have h0 : s.jobs[0]? = some (id, j) := by rw [hj]; rfl
    have h := Change.run (w := w) h0
    rw [hj, List.eraseIdx_cons_zero] at h
    exact single h
  | rest => exact refl

/-! ### The pool at work -/

section
variable (w)

/-- **What a pool does by itself**: it takes turns, and its clock moves. -/
inductive Lapse : Pool World Work Job Result → Pool World Work Job Result → Prop
  | turn (s : Pool World Work Job Result) : Lapse s (s.turn w)
  | tick {s : Pool World Work Job Result} {looks : Nat} {time : Instant} (h : s.now ≤ time) :
    Lapse s (s.moveTo w looks time)

/-- A pool is left to itself for a while. -/
abbrev Lapses : Pool World Work Job Result → Pool World Work Job Result → Prop :=
  Relation.ReflTransGen (Lapse w)

end

theorem changes_wake (ids : List Nat) (s : Pool World Work Job Result) :
    Changes w s (s.wake ids) :=
  single (.queue s (s.ready ++ ids.filter (!s.isQueued ·)) s.called s.ticks s.contests)

theorem changes_call (ids : List Nat) (s : Pool World Work Job Result) :
    Changes w s (s.call ids) :=
  single (.queue s s.ready (s.called ++ ids.filter (!s.isQueued ·)) s.ticks s.contests)

theorem changes_releaseGate (name : String) (n : Nat) (s : Pool World Work Job Result) :
    Changes w s (s.releaseGate name n) :=
  .head (.gate s name ((s.gate name).release n).1) (changes_call _ _)

theorem changes_moveTo {looks : Nat} {time : Instant} (h : s.now ≤ time) :
    Changes w s (s.moveTo w looks time) :=
  .head (.tick s h)
    (.head (.queue _ s.ready s.called (s.ticks + looks) s.contests) (changes_wake _ _))

theorem Lapse.changes (h : Lapse w s s') : Changes w s s' := by
  cases h with
  | turn => exact (turn_cases s).changes
  | tick h => exact changes_moveTo h

theorem Lapses.changes (h : Lapses w s s') : Changes w s s' := by
  induction h with
  | refl => exact refl
  | tail _ h ih => exact ih.trans h.changes

/-- A pool neither closes nor cancels itself. -/
theorem Lapses.flags (h : Lapses w s s') :
    s'.closed = s.closed ∧ s'.cancelled = s.cancelled := by
  induction h with
  | refl => exact ⟨rfl, rfl⟩
  | @tail s₁ s₂ _ h ih =>
    cases h with
    | turn =>
      have hs := (turn_cases (w := w) s₁).stands
      exact ⟨hs.closed.trans ih.1, hs.cancelled.trans ih.2⟩
    | tick => exact ih

/-- What every turn keeps, a pool that settles keeps. -/
theorem of_settle {P : Pool World Work Job Result → Prop} (hP : ∀ s, P s → P (s.turn w))
    (hs : P s) : P (s.settle w) := by
  unfold settle
  generalize s.effort = n
  induction n with
  | zero => exact hs
  | succ n ih => exact hP _ ih

theorem stands_settle (s : Pool World Work Job Result) : Stands s (s.settle w) :=
  of_settle (P := Stands s) (fun s hs => hs.trans (turn_cases s).stands) (.refl s)

theorem lapses_settle (s : Pool World Work Job Result) : Lapses w s (s.settle w) :=
  of_settle (P := Lapses w s) (fun s hs => hs.tail (.turn s)) refl

theorem lt_of_nextAlarm {a : Instant} (h : s.nextAlarm w = some a) : s.now < a := by
  have h := List.min?_mem h
  rw [List.mem_filter] at h
  simpa using h.2

theorem lapses_runTo (stop : Pool World Work Job Result → Bool) (goal : Instant) :
    ∀ (n : Nat) {s : Pool World Work Job Result}, s.now ≤ goal → Lapses w s (s.runTo w stop goal n)
  | 0, s, _ => refl
  | n + 1, s, h => by
    have hs := lapses_settle (w := w) s
    have hn : (s.settle w).now ≤ goal := by rw [(stands_settle s).now]; exact h
    unfold runTo
    dsimp only
    split_ifs with hstop
    · exact hs
    split
    · next a ha =>
      split_ifs with hg
      · have ht : Lapses w s ((s.settle w).moveTo w 1 a) :=
          hs.tail (.tick (Nat.le_of_lt (lt_of_nextAlarm ha)))
        exact ht.trans (lapses_runTo stop goal n (Nat.le_of_lt hg))
      · exact hs.tail (.tick hn)
    · exact hs.tail (.tick hn)

theorem lapses_advance (millis : Nat) (s : Pool World Work Job Result) :
    Lapses w s (s.advance w millis) :=
  lapses_runTo _ _ _ (Nat.le_add_right _ _)

theorem lapses_await (id : Nat) (patience : Nat) (s : Pool World Work Job Result) :
    Lapses w s (s.await w id patience) := by
  unfold await
  split_ifs
  · exact refl
  · exact lapses_runTo _ _ _ (Nat.le_add_right _ _)

theorem lapses_drain (drain : Nat) (s : Pool World Work Job Result) :
    Lapses w { s with closed := true } (s.drain w drain) := by
  unfold Pool.drain
  dsimp only
  split_ifs
  · exact refl
  · exact lapses_runTo _ _ _ (Nat.le_add_right _ _)

theorem changes_settle (s : Pool World Work Job Result) : Changes w s (s.settle w) :=
  (lapses_settle s).changes

theorem changes_advance (millis : Nat) (s : Pool World Work Job Result) :
    Changes w s (s.advance w millis) :=
  (lapses_advance millis s).changes

theorem changes_await (id : Nat) (patience : Nat) (s : Pool World Work Job Result) :
    Changes w s (s.await w id patience) :=
  (lapses_await id patience s).changes

theorem changes_drain (drain : Nat) (s : Pool World Work Job Result) :
    Changes w s (s.drain w drain) :=
  .head (.close s) (lapses_drain drain s).changes

/-- A pool is cancelled first, and then locked. -/
theorem changes_lockUp (s : Pool World Work Job Result) :
    Changes w s { s with teardown := .locked } := by
  rw [← s.teardown.lock_cancel]
  exact .tail (single (.cancel s)) (.lock _)

theorem changes_abandon (s : Pool World Work Job Result) : Changes w s (s.abandon w) :=
  (changes_lockUp s).trans ((changes_wake _ _).trans (changes_settle _))

theorem changes_shutdown (drain : Nat) (s : Pool World Work Job Result) :
    Changes w s (s.shutdown w drain).1 :=
  (changes_drain drain s).trans (changes_abandon _)

end Chains

end Pool

end ArtifactFetch
