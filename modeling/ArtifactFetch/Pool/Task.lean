import ArtifactFetch.Duration

/-! # Tasks of a pool

A task first waits for a slot. Then its work says what it has to wait for, gates and spans of time,
and how it ends: with a result, or with a job for the one thread that may block, whose result the
task then reports. A `Workload` is the work of all tasks of a pool with the state they share, and
the runtime that runs them. -/

namespace ArtifactFetch

/-- The instants of the pool's clock are whole milliseconds since its start. -/
abbrev Instant := Nat

/-- The first instant at which a span from `now` on is over. -/
def Instant.after (now : Instant) (d : Duration) : Instant := now + d.ceilMillis

/-- What a task at work may have to wait for. -/
inductive Wait where
  /-- A pass through the named gate. -/
  | gate (name : String)
  /-- A span of whole milliseconds. -/
  | sleep (millis : Nat)
  deriving DecidableEq, Repr

/-- How the work of a task ends. -/
inductive Ending (Job Result : Type) where
  | done (r : Result)
  | job (j : Job)
  deriving DecidableEq, Repr

/-- What a task has to do once it has a slot. -/
structure Plan (Job Result : Type) where
  waits : List Wait
  ending : Ending Job Result
  deriving DecidableEq, Repr

/-- How far a task has come. -/
inductive Phase (Job Result : Type) where
  /-- Without a slot. -/
  | queued
  /-- At work, with these waits to come. -/
  | working (waits : List Wait) (ending : Ending Job Result)
  /-- At work, waiting for an instant before the other waits. -/
  | asleep (wake : Instant) (waits : List Wait) (ending : Ending Job Result)
  /-- Its job is to be run. -/
  | inJob
  /-- Its job was run. -/
  | reported (r : Result)
  | ended (time : Instant) (r : Result)
  deriving DecidableEq, Repr

/-- A task: its work, how far it has come, since when it works, and whether it was noticed that it
is slow. -/
structure Task (Work Job Result : Type) where
  work : Work
  phase : Phase Job Result
  startedAt : Option Instant
  noticed : Bool
  deriving DecidableEq, Repr

/-- What the runtime decides that runs the tasks of a pool. Nothing is said here of how it does. -/
structure Runtime where
  /-- Where tasks stand in both queues, one that was called from outside is next, at this tick and
  after these earlier decisions. -/
  outsideFirst : Nat → List Bool → Bool
  /-- A task that is looked at after the pool was cancelled goes on once more before it is
  abandoned: what is ready at that time may still end it. -/
  workFirst : Nat → Bool

/-- A runtime that takes a task that was called from outside first at every 31st tick. A cancelled
pool abandons its tasks at once. -/
def Runtime.standard : Runtime where
  outsideFirst ticks _ := ticks % 31 == 0
  workFirst _ := false

/-- The work of the tasks of a pool, and how it changes the state `World` that they share. Every
task is known by its number. -/
structure Workload (World Work Job Result : Type) where
  runtime : Runtime
  /-- Starts the work of a task that got its slot. -/
  start : Nat → Work → World → World × Plan Job Result
  /-- Runs the job of a task. -/
  run : Nat → Job → World → World × Result
  /-- Puts the shared state in order when a task ends, however it ends. -/
  leave : Nat → Work → World → World
  /-- The result of a task that the pool abandons. -/
  abandoned : Work → Result
  /-- The result of a task that has worked for too long. -/
  timedOut : Work → Result
  /-- How long a task may work. -/
  limit : Option Duration
  /-- When a task at work is noticed to be slow. -/
  notice : Option Duration

variable {World Work Job Result : Type}

namespace Task

/-- A new task. -/
def new (work : Work) : Task Work Job Result := ⟨work, .queued, none, false⟩

/-- The result of a task that has ended. -/
def result? (t : Task Work Job Result) : Option Result :=
  match t.phase with
  | .ended _ r => some r
  | _ => none

/-- The task has not ended. -/
def isLive (t : Task Work Job Result) : Bool := t.result?.isNone

/-- The task has a slot. -/
def holdsSlot (t : Task Work Job Result) : Bool :=
  match t.phase with
  | .queued | .ended _ _ => false
  | _ => true

/-- When the task will have worked for too long. -/
def deadline (w : Workload World Work Job Result) (t : Task Work Job Result) : Option Instant :=
  match t.startedAt, w.limit with
  | some start, some limit => some (start.after limit)
  | _, _ => none

/-- When the task will be noticed to be slow, unless it was. -/
def noticeAt (w : Workload World Work Job Result) (t : Task Work Job Result) : Option Instant :=
  match t.noticed, t.startedAt, w.notice with
  | false, some start, some notice => some (start.after notice)
  | _, _, _ => none

/-- When the task stops sleeping. -/
def wakesAt (t : Task Work Job Result) : Option Instant :=
  match t.phase with
  | .asleep wake _ _ => some wake
  | _ => none

/-- The instants at which the task has to be looked at. -/
def alarms (w : Workload World Work Job Result) (t : Task Work Job Result) : List Instant :=
  if t.isLive then t.wakesAt.toList ++ (t.deadline w).toList ++ (t.noticeAt w).toList else []

end Task

end ArtifactFetch
