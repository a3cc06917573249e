import ArtifactFetch.FetchError
import ArtifactFetch.Pool

/-! # Scripted tasks

Tasks that do nothing but wait and then give a value, fail or panic. Their pool has no shared state
and no jobs, and does not limit how long they work. -/

namespace ArtifactFetch

/-- How a task ends that was waited for. -/
inductive TaskOutcome (Value : Type) where
  | value (v : Value)
  | failed (e : FetchError)
  | panicked (p : Panic)
  deriving DecidableEq, Repr

/-- A task of a given name: what it waits for, and how it ends after that. -/
structure Script (Value : Type) where
  name : String
  waits : List Wait
  outcome : TaskOutcome Value
  deriving DecidableEq, Repr

/-- A pool of scripted tasks. -/
abbrev ScriptPool (Value : Type) := Pool Unit (Script Value) Empty (TaskOutcome Value)

namespace Script

variable {Value : Type}

/-- What scripted tasks do on a runtime. -/
def workloadOn (runtime : Runtime) : Workload Unit (Script Value) Empty (TaskOutcome Value) where
  runtime := runtime
  start := fun _ s u => (u, ⟨s.waits, .done s.outcome⟩)
  run := fun _ j _ => nomatch j
  leave := fun _ _ u => u
  abandoned := fun s => .failed (.cancelled s.name)
  timedOut := fun s => .failed (.cancelled s.name)
  limit := none
  notice := none

/-- What scripted tasks do. -/
def workload : Workload Unit (Script Value) Empty (TaskOutcome Value) := workloadOn .standard

/-- The text that is shown when a pool is made without a runtime to run its tasks. -/
def noRuntime : String :=
  "there is no reactor running, must be called from the context of a Tokio 1.x runtime"

/-- The text that is shown when a pool is to have too many slots. -/
def tooManySlots : String :=
  "a semaphore may not have more than MAX_PERMITS permits (" ++ toString Pool.maxSlots ++ ")"

/-- The history of a pool in words. -/
def log (s : ScriptPool Value) : List String :=
  s.history.filterMap fun
    | .started id => s.tasks[id]?.map fun t => "start " ++ t.work.name
    | .finished id => s.tasks[id]?.map fun t => "end " ++ t.work.name

end Script

end ArtifactFetch
