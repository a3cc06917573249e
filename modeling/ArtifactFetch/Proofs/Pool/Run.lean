import ArtifactFetch.Proofs.Pool.Change

/-! # Runs of a pool

A pool is used in moves, in any order: new tasks come, a task is looked at, whether it was called or
not, a job is run, passes through a gate are released, time passes, others change the shared state,
and a shutdown closes the pool, cancels what is left and locks the pool, in one move or in three.
Moves that let time pass are made of smaller ones, so a run is a chain of `Step`s (`steps_moveAll`).
What every change of a pool keeps, a run keeps if new tasks and others do (`of_steps`). -/

namespace ArtifactFetch.Pool

variable {World Work Job Result : Type}

/-- Runs the job at a place in the line of jobs. -/
def runJobAt (w : Workload World Work Job Result) (i : Nat) (s : Pool World Work Job Result) :
    Pool World Work Job Result :=
  match s.jobs[i]? with
  | some (id, j) => { s with jobs := s.jobs.eraseIdx i }.runJob w id j
  | none => s

/-- The pool with a new task. -/
def accept (work : Work) (s : Pool World Work Job Result) : Pool World Work Job Result :=
  { s with tasks := s.tasks ++ [Task.new work] }.call [s.tasks.length]

/-- The tasks that are left are to be abandoned. -/
def cancel (s : Pool World Work Job Result) : Pool World Work Job Result :=
  { s with teardown := s.teardown.cancel }.wake s.live

/-- A pool that was cancelled gives no slot any more. -/
def lock (s : Pool World Work Job Result) : Pool World Work Job Result :=
  { s with teardown := s.teardown.lock }

/-- The tasks that are left are to be abandoned, and no slot is given any more. -/
def tearDown (s : Pool World Work Job Result) : Pool World Work Job Result :=
  { s with teardown := .locked }.wake s.live

/-- What can happen to a pool. -/
inductive Move (World Work : Type) where
  | spawn (work : Work)
  /-- A task is looked at. -/
  | look (id : Nat)
  /-- The job at a place in the line is run. -/
  | job (place : Nat)
  /-- What is next happens. -/
  | turn
  /-- The clock moves on, and nothing else happens. -/
  | tick (millis : Nat)
  | release (gate : String) (n : Nat)
  | advance (millis : Nat)
  | await (id patience : Nat)
  | close
  | cancel
  | lock
  | shutdown (drain : Nat)
  /-- Others change the shared state. -/
  | touch (f : World → World)

section
variable (w : Workload World Work Job Result)

/-- Makes a move. A closed pool refuses a new task. -/
def move (s : Pool World Work Job Result) : Move World Work → Pool World Work Job Result
  | .spawn work => (s.spawn work).elim s Prod.snd
  | .look id => s.poll w id
  | .job i => s.runJobAt w i
  | .turn => s.turn w
  | .tick millis => s.moveTo w 1 (s.now + millis)
  | .release gate n => s.releaseGate gate n
  | .advance millis => s.advance w millis
  | .await id patience => s.await w id patience
  | .close => { s with closed := true }
  | .cancel => s.cancel
  | .lock => s.lock
  | .shutdown drain => (s.shutdown w drain).1
  | .touch f => { s with world := f s.world }

/-- Makes the moves of a run. -/
def moveAll (s : Pool World Work Job Result) (ms : List (Move World Work)) :
    Pool World Work Job Result :=
  ms.foldl (move w) s

/-- **One step of a pool.** -/
inductive Step : Pool World Work Job Result → Pool World Work Job Result → Prop
  | spawn (s : Pool World Work Job Result) (work : Work) (h : s.closed = false) :
    Step s (s.accept work)
  | touch (s : Pool World Work Job Result) (world : World) : Step s { s with world := world }
  | look (s : Pool World Work Job Result) (id : Nat) : Step s (s.poll w id)
  | job (s : Pool World Work Job Result) (i : Nat) : Step s (s.runJobAt w i)
  | turn (s : Pool World Work Job Result) : Step s (s.turn w)
  | tick {s : Pool World Work Job Result} {looks : Nat} {time : Instant} (h : s.now ≤ time) :
    Step s (s.moveTo w looks time)
  | release (s : Pool World Work Job Result) (gate : String) (n : Nat) :
    Step s (s.releaseGate gate n)
  | close (s : Pool World Work Job Result) : Step s { s with closed := true }
  | cancel (s : Pool World Work Job Result) : Step s s.cancel
  | lock (s : Pool World Work Job Result) : Step s s.lock

/-- A chain of steps. -/
abbrev Steps : Pool World Work Job Result → Pool World Work Job Result → Prop :=
  Relation.ReflTransGen (Step w)

end

variable {w : Workload World Work Job Result} {s s' : Pool World Work Job Result}

open Relation.ReflTransGen (refl single)

theorem changes_runJobAt (i : Nat) (s : Pool World Work Job Result) :
    Changes w s (s.runJobAt w i) := by
  unfold runJobAt
  split
  · next hj => exact single (.run hj)
  · exact refl

theorem changes_cancel (s : Pool World Work Job Result) : Changes w s s.cancel :=
  .head (.cancel s) (changes_wake _ _)

/-- What is torn down is cancelled first, and then locked. -/
theorem tearDown_eq (s : Pool World Work Job Result) : s.tearDown = s.cancel.lock := by
  unfold lock cancel
  rw [teardown_wake, s.teardown.lock_cancel]
  rfl

/-! ### Moves are made of steps -/

theorem Lapse.step (h : Lapse w s s') : Step w s s' := by
  cases h with
  | turn => exact .turn s
  | tick h => exact .tick h

theorem Lapses.steps (h : Lapses w s s') : Steps w s s' :=
  Relation.ReflTransGen.mono (fun _ _ => Lapse.step) _ _ h

theorem steps_tearDown (s : Pool World Work Job Result) : Steps w s s.tearDown := by
  rw [tearDown_eq]
  exact .tail (single (.cancel s)) (.lock _)

theorem steps_shutdown (drain : Nat) (s : Pool World Work Job Result) :
    Steps w s (s.shutdown w drain).1 := by
  have hdrain : Steps w s (s.drain w drain) := .head (.close s) (lapses_drain drain s).steps
  exact (hdrain.trans (steps_tearDown _)).trans (lapses_settle _).steps

theorem spawn_of_open (h : s.closed = false) (work : Work) :
    s.spawn work = some (s.tasks.length, s.accept work) := by
  unfold Pool.spawn
  rw [if_neg (by rw [h]; exact Bool.false_ne_true)]
  rfl

theorem spawn_of_closed (h : s.closed = true) (work : Work) : s.spawn work = none := by
  unfold Pool.spawn
  rw [if_pos h]

theorem steps_move (s : Pool World Work Job Result) (m : Move World Work) :
    Steps w s (s.move w m) := by
  cases m with
  | spawn work =>
    show Steps w s ((s.spawn work).elim s Prod.snd)
    by_cases h : s.closed = true
    · rw [spawn_of_closed h]
      exact refl
    · have ho : s.closed = false := by simpa using h
      rw [spawn_of_open ho]
      exact single (.spawn s work ho)
  | look id => exact single (.look s id)
  | job i => exact single (.job s i)
  | turn => exact single (.turn s)
  | tick millis => exact single (.tick (Nat.le_add_right _ _))
  | release gate n => exact single (.release s gate n)
  | advance millis => exact (lapses_advance millis s).steps
  | await id patience => exact (lapses_await id patience s).steps
  | close => exact single (.close s)
  | cancel => exact single (.cancel s)
  | lock => exact single (.lock s)
  | shutdown drain => exact steps_shutdown drain s
  | touch f => exact single (.touch s _)

/-- **Every run is a chain of steps.** -/
theorem steps_moveAll (ms : List (Move World Work)) :
    ∀ s : Pool World Work Job Result, Steps w s (s.moveAll w ms) := by
  induction ms with
  | nil => exact fun _ => refl
  | cons m ms ih => exact fun s => (steps_move s m).trans (ih _)

/-! ### What a run keeps -/

/-- The runtime decides between its queues in turns only. -/
theorem Step.contests (h : Step w s s') : s'.contests = s.contests ∨ s' = s.turn w := by
  cases h with
  | look => exact .inl (looks_poll _ _).outside.2
  | job =>
    left
    unfold runJobAt
    split
    · exact (outside_runJob _ _ _).2
    · rfl
  | turn => exact .inr rfl
  | spawn | touch | tick | release | close | cancel | lock => exact .inl rfl

/-- What every turn keeps of the decisions of the runtime, a run keeps. -/
theorem of_contests {P : List Bool → Prop}
    (hP : ∀ s s' : Pool World Work Job Result, Turn w s s' → P s.contests → P s'.contests)
    (h : Steps w s s') (hs : P s.contests) : P s'.contests := by
  induction h with
  | refl => exact hs
  | @tail s₁ _ _ hstep ih =>
    obtain he | rfl := hstep.contests
    · rwa [he]
    · exact hP s₁ _ (turn_cases s₁) ih

/-- What the runtime has decided stays as it is. -/
theorem contests_grow_of_steps (h : Steps w s s') : s.contests <+: s'.contests :=
  of_contests (P := fun contests => s.contests <+: contests)
    (fun _ _ ht hs => hs.trans ht.contests_grow) h (List.prefix_refl _)

/-- A step is a chain of changes, unless a task is new or others change the shared state. -/
theorem Step.changes (h : Step w s s') : Changes w s s' ∨ (∃ work, s' = s.accept work) ∨
    ∃ world, s' = { s with world := world } := by
  cases h with
  | spawn work => exact .inr (.inl ⟨work, rfl⟩)
  | touch world => exact .inr (.inr ⟨world, rfl⟩)
  | look id => exact .inl (changes_poll s id)
  | job i => exact .inl (changes_runJobAt i s)
  | turn => exact .inl (turn_cases s).changes
  | tick h => exact .inl (changes_moveTo h)
  | release gate n => exact .inl (changes_releaseGate gate n s)
  | close => exact .inl (single (.close s))
  | cancel => exact .inl (changes_cancel s)
  | lock => exact .inl (single (.lock s))

theorem of_changes {P : Pool World Work Job Result → Prop}
    (hc : ∀ s s', Change w s s' → P s → P s') (h : Changes w s s') (hs : P s) : P s' := by
  induction h with
  | refl => exact hs
  | tail _ h ih => exact hc _ _ h ih

/-- **What every change keeps holds throughout every run**, if new tasks and others keep it too. -/
theorem of_steps {P : Pool World Work Job Result → Prop}
    (hc : ∀ s s', Change w s s' → P s → P s') (hn : ∀ s work, P s → P (s.accept work))
    (ht : ∀ s world, P s → P { s with world := world }) (h : Steps w s s') (hs : P s) : P s' := by
  induction h with
  | refl => exact hs
  | tail _ hstep ih =>
    obtain hchanges | ⟨work, rfl⟩ | ⟨world, rfl⟩ := hstep.changes
    · exact of_changes hc hchanges ih
    · exact hn _ work ih
    · exact ht _ world ih

end ArtifactFetch.Pool
