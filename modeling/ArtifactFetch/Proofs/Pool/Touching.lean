import ArtifactFetch.Proofs.Pool.Run

/-! # Changes of the shared state that no task sees

Others may change the state that the tasks of a pool share. If no work depends on such a change, and
the change on no work (`Workload.Ignores`), it makes no difference to the pool: whether it is made
before an operation or after, the pool comes to the same. So every operation commutes with the
change (`touch`), one lemma for each. -/

namespace ArtifactFetch

/-- All work comes to the same before the change and after. -/
structure Workload.Ignores {World Work Job Result : Type} (w : Workload World Work Job Result)
    (f : World → World) : Prop where
  start : ∀ id c x, w.start id c (f x) = (f (w.start id c x).1, (w.start id c x).2)
  run : ∀ id j x, w.run id j (f x) = (f (w.run id j x).1, (w.run id j x).2)
  leave : ∀ id c x, w.leave id c (f x) = f (w.leave id c x)

namespace Pool

variable {World Work Job Result : Type} {w : Workload World Work Job Result} {f : World → World}

/-- Changes the shared state. -/
def touch (f : World → World) (s : Pool World Work Job Result) : Pool World Work Job Result :=
  { s with world := f s.world }

/-! ### What does not concern the shared state -/

section Views
variable (f) (s : Pool World Work Job Result)

@[simp] theorem world_touch : (s.touch f).world = f s.world := rfl
@[simp] theorem tasks_touch : (s.touch f).tasks = s.tasks := rfl
@[simp] theorem slots_touch : (s.touch f).slots = s.slots := rfl
@[simp] theorem gate_touch (name : String) : (s.touch f).gate name = s.gate name := rfl
@[simp] theorem ready_touch : (s.touch f).ready = s.ready := rfl
@[simp] theorem called_touch : (s.touch f).called = s.called := rfl
@[simp] theorem jobs_touch : (s.touch f).jobs = s.jobs := rfl
@[simp] theorem now_touch : (s.touch f).now = s.now := rfl
@[simp] theorem cancelled_touch : (s.touch f).cancelled = s.cancelled := rfl
@[simp] theorem teardown_touch : (s.touch f).teardown = s.teardown := rfl
@[simp] theorem active_touch : (s.touch f).active = s.active := rfl
@[simp] theorem result?_touch (id : Nat) : (s.touch f).result? id = s.result? id := rfl
@[simp] theorem nextAlarm_touch : (s.touch f).nextAlarm w = s.nextAlarm w := rfl

theorem touch_letGo (id : Nat) (phase : Phase Job Result) :
    (s.touch f).letGo id phase = (s.letGo id phase).touch f := by
  unfold letGo
  split <;> rfl

end Views

/-! ### Looking at tasks and running jobs -/

section Turns
variable (hf : w.Ignores f)
include hf

theorem touch_finish (id : Nat) (r : Result) (s : Pool World Work Job Result) :
    (s.touch f).finish w id r = (s.finish w id r).touch f := by
  rcases ht : s.tasks[id]? with _ | t
  · unfold finish
    rw [tasks_touch, ht]
  · rw [finish_eq ht, finish_eq (s := s.touch f) ht, world_touch, hf.leave]
    exact touch_letGo f ({ s with world := w.leave id t.work s.world }.setPhase id _) id _

theorem touch_stay (id : Nat) (s : Pool World Work Job Result) :
    (s.touch f).stay w id = (s.stay w id).touch f := by
  unfold stay
  rw [tasks_touch, now_touch]
  rcases s.tasks[id]? with _ | t
  · rfl
  · dsimp only
    split_ifs
    · exact touch_finish hf id _ s
    · rfl
    · rfl

theorem touch_walk (id : Nat) : ∀ (waits : List Wait) (e : Ending Job Result)
    (s : Pool World Work Job Result),
      (s.touch f).walk w id waits e = (s.walk w id waits e).touch f
  | [], .done r, s => touch_finish hf id r (s.record (.finished id))
  | [], .job j, s => touch_stay hf id ((s.record (.finished id)).handOver id j)
  | .gate name :: waits, e, s => by
    unfold walk
    rw [gate_touch]
    rcases (s.gate name).enter id with ⟨g, _ | _⟩
    · exact touch_stay hf id ((s.setGate name g).setPhase id (.working (.gate name :: waits) e))
    · exact touch_walk id waits e ((s.setGate name g).setPhase id (.working waits e))
  | .sleep d :: waits, e, s => by
    unfold walk
    split_ifs
    · exact touch_walk id waits e (s.setPhase id (.working waits e))
    · exact touch_stay hf id (s.setPhase id (.asleep (s.now + d) waits e))

theorem touch_begin (id : Nat) (t : Task Work Job Result) (s : Pool World Work Job Result) :
    (s.touch f).begin w id t = (s.begin w id t).touch f := by
  have hlaunch : (s.touch f).launch w id t = (s.launch w id t).touch f := by
    unfold launch
    rw [world_touch, hf.start]
    rfl
  rw [begin_eq, begin_eq, world_touch, hf.start, hlaunch]
  exact touch_walk hf id _ _ _

theorem touch_goOn (id : Nat) (s : Pool World Work Job Result) :
    (s.touch f).goOn w id = (s.goOn w id).touch f := by
  unfold goOn
  rw [tasks_touch, teardown_touch, slots_touch, now_touch]
  rcases s.tasks[id]? with _ | t
  · rfl
  dsimp only
  cases t.phase with
  | queued =>
    dsimp only
    split_ifs
    · rfl
    rcases s.slots.enter id with ⟨slots, _ | _⟩
    · rfl
    · exact touch_begin hf id t { s with slots := slots }
  | working waits e => exact touch_walk hf id waits e s
  | asleep wake waits e =>
    dsimp only
    split_ifs
    · exact touch_walk hf id waits e (s.setPhase id (.working waits e))
    · exact touch_stay hf id s
  | inJob => exact touch_stay hf id s
  | reported r => exact touch_finish hf id r s
  | ended time r => rfl

theorem touch_giveUp (id : Nat) (s : Pool World Work Job Result) :
    (s.touch f).giveUp w id = (s.giveUp w id).touch f := by
  unfold giveUp
  rw [tasks_touch]
  rcases s.tasks[id]? with _ | t
  · rfl
  dsimp only
  split_ifs
  · exact touch_finish hf id _ s
  · rfl

/-- **Looking at a task**, the change makes no difference. -/
theorem touch_poll (id : Nat) (s : Pool World Work Job Result) :
    (s.touch f).poll w id = (s.poll w id).touch f := by
  unfold poll
  rw [cancelled_touch]
  split_ifs
  · rw [touch_goOn hf, touch_giveUp hf]
  · exact touch_giveUp hf id s
  · exact touch_goOn hf id s

theorem touch_runJob (id : Nat) (j : Job) (s : Pool World Work Job Result) :
    (s.touch f).runJob w id j = (s.runJob w id j).touch f := by
  unfold runJob
  rw [world_touch, hf.run]
  dsimp only
  rw [tasks_touch]
  split <;> rfl

theorem touch_runJobAt (i : Nat) (s : Pool World Work Job Result) :
    (s.touch f).runJobAt w i = (s.runJobAt w i).touch f := by
  unfold runJobAt
  rw [jobs_touch]
  rcases s.jobs[i]? with _ | ⟨id, j⟩
  · rfl
  · exact touch_runJob hf id j { s with jobs := s.jobs.eraseIdx i }

theorem touch_turn (s : Pool World Work Job Result) :
    (s.touch f).turn w = (s.turn w).touch f := by
  have hnext : (s.touch f).outsideNext w = s.outsideNext w := rfl
  unfold turn
  rw [ready_touch, called_touch, jobs_touch, hnext]
  rcases s.ready with _ | ⟨id, ready⟩ <;> rcases s.called with _ | ⟨id', called⟩
  · rcases s.jobs with _ | ⟨⟨id, j⟩, jobs⟩
    · rfl
    · exact touch_runJob hf id j { s with ready := [], called := [], jobs := jobs }
  · exact touch_poll hf id' (s.taking [] called s.contests)
  · exact touch_poll hf id (s.taking ready [] s.contests)
  · dsimp only
    split_ifs
    · exact touch_poll hf id' (s.taking (id :: ready) called (s.contests ++ [true]))
    · exact touch_poll hf id (s.taking ready (id' :: called) (s.contests ++ [false]))

/-! ### Letting time pass -/

theorem touch_settle (s : Pool World Work Job Result) :
    (s.touch f).settle w = (s.settle w).touch f := by
  have hturns : ∀ n, Nat.repeat (turn w) n (s.touch f) = (Nat.repeat (turn w) n s).touch f := by
    intro n
    induction n with
    | zero => rfl
    | succ n ih =>
      show turn w (Nat.repeat (turn w) n (s.touch f)) = _
      rw [ih]
      exact touch_turn hf _
  exact hturns s.effort

/-- Time passes alike, if when to stop does not depend on the change. -/
theorem touch_runTo {stop : Pool World Work Job Result → Bool}
    (hs : ∀ s, stop (s.touch f) = stop s) (goal : Instant) :
    ∀ (n : Nat) (s : Pool World Work Job Result),
      (s.touch f).runTo w stop goal n = (s.runTo w stop goal n).touch f
  | 0, _ => rfl
  | n + 1, s => by
    unfold runTo
    rw [touch_settle hf]
    dsimp only
    rw [hs, nextAlarm_touch]
    split_ifs
    · rfl
    · rcases (s.settle w).nextAlarm w with _ | a
      · rfl
      · dsimp only
        split_ifs
        · exact touch_runTo hs goal n ((s.settle w).moveTo w 1 a)
        · rfl

theorem touch_advance (millis : Nat) (s : Pool World Work Job Result) :
    (s.touch f).advance w millis = (s.advance w millis).touch f :=
  touch_runTo hf (fun _ => rfl) _ _ s

theorem touch_await (id patience : Nat) (s : Pool World Work Job Result) :
    (s.touch f).await w id patience = (s.await w id patience).touch f := by
  unfold await
  rw [result?_touch]
  split_ifs
  · rfl
  · exact touch_runTo hf (fun s => by rw [result?_touch]) _ _ s

theorem touch_drain (window : Nat) (s : Pool World Work Job Result) :
    (s.touch f).drain w window = (s.drain w window).touch f := by
  have hstop : ∀ s : Pool World Work Job Result, ((s.touch f).active == 0) = (s.active == 0) :=
    fun s => by rw [active_touch]
  unfold drain
  show (if s.active = 0 then _ else _) = touch f (if s.active = 0 then _ else _)
  split_ifs
  · rfl
  · exact touch_runTo hf hstop (s.now + window) window { s with closed := true }

theorem touch_shutdown (window : Nat) (s : Pool World Work Job Result) :
    (s.touch f).shutdown w window = ((s.shutdown w window).1.touch f, (s.shutdown w window).2) := by
  unfold shutdown
  rw [touch_drain hf]
  exact Prod.ext (touch_settle hf (s.drain w window).tearDown) rfl

end Turns

end Pool

end ArtifactFetch
