import ArtifactFetch.Pool.Task
import ArtifactFetch.Pool.Turnstile

/-! # Worker pools

A pool runs tasks, a limited number of them at work at once. Tasks that can go on stand in two
queues: those that another task or the clock made ready, and those that were called from outside.
Each queue is worked off in order, and where there are tasks in both, the runtime says from which
one the next is taken. A task that is looked at goes on as far as it can (`poll`); when both queues
are empty, the oldest job is run; when no job is left either, the clock may move. Each of these is
one `turn`. A task that ends (`finish`) leaves the line in which it stands, puts the shared state in
order, makes its result known, and gives its slot to the next task in line, in this order.

What a task waits for is read off its phase, so a task that is looked at for no reason stays where
it is. Alarms are read off the tasks as well. -/

namespace ArtifactFetch

/-- A step in the history of a pool. -/
inductive Milestone where
  /-- The task got its slot and started its work. -/
  | started (task : Nat)
  /-- The task has nothing left to wait for but its job. -/
  | finished (task : Nat)
  deriving DecidableEq, Repr

/-- How far a pool is torn down. -/
inductive Teardown where
  | standing
  /-- The tasks that are left are abandoned. -/
  | cancelled
  /-- No slot is given any more, either. -/
  | locked
  deriving DecidableEq, Repr

namespace Teardown

/-- The tasks that are left are to be abandoned. -/
def cancel : Teardown → Teardown
  | .standing => .cancelled
  | t => t

/-- Nobody is to get a slot any more. Only what was cancelled is locked. -/
def lock : Teardown → Teardown
  | .standing => .standing
  | _ => .locked

/-- The tasks that are left are abandoned. -/
def cancels : Teardown → Bool
  | .standing => false
  | _ => true

end Teardown

/-- A pool. A task's number is its place in the list of tasks. -/
structure Pool (World Work Job Result : Type) where
  limit : Nat
  slots : Turnstile
  gates : List (String × Turnstile)
  tasks : List (Task Work Job Result)
  /-- The tasks to be looked at, in this order. -/
  ready : List Nat
  /-- The tasks that were called from outside, to be looked at in this order. -/
  called : List Nat
  /-- The jobs to be run, in this order, each with the task it came from. -/
  jobs : List (Nat × Job)
  now : Instant
  /-- No task is accepted any more. -/
  closed : Bool
  teardown : Teardown
  history : List Milestone
  /-- How many times the runtime has looked for what is next. -/
  ticks : Nat
  /-- Whether a task called from outside was next, each time that tasks stood in both queues. -/
  contests : List Bool
  world : World

namespace Pool

variable {World Work Job Result : Type}

/-- The greatest number of slots. -/
def maxSlots : Nat := 2305843009213693951

/-- A pool of `limit` slots, at least one. -/
def withLimit (limit : Nat) (world : World) : Pool World Work Job Result where
  limit := max limit 1
  slots := .withFree (max limit 1)
  gates := []
  tasks := []
  ready := []
  called := []
  jobs := []
  now := 0
  closed := false
  teardown := .standing
  history := []
  ticks := 0
  contests := []
  world := world

/-- A pool of `limit` slots, refused if there cannot be as many. -/
def create (limit : Nat) (world : World) : Except Nat (Pool World Work Job Result) :=
  if maxSlots < limit then .error maxSlots else .ok (withLimit limit world)

/-! ### Views -/

/-- The result of a task that has ended. -/
def result? (s : Pool World Work Job Result) (id : Nat) : Option Result :=
  s.tasks[id]?.bind Task.result?

/-- The numbers of the tasks that have not ended. -/
def live (s : Pool World Work Job Result) : List Nat :=
  (List.range s.tasks.length).filter fun id => (s.tasks[id]?.any Task.isLive)

/-- The tasks that are left are abandoned. -/
def cancelled (s : Pool World Work Job Result) : Bool := s.teardown.cancels

/-- How many tasks have not ended. -/
def active (s : Pool World Work Job Result) : Nat := s.tasks.countP Task.isLive

/-- The gate of a name. -/
def gate (s : Pool World Work Job Result) (name : String) : Turnstile :=
  (s.gates.lookup name).getD (.withFree 0)

/-- Nothing can happen before the clock moves. -/
def idle (s : Pool World Work Job Result) : Bool :=
  s.ready.isEmpty && s.called.isEmpty && s.jobs.isEmpty

/-- The pool as it is shown. -/
def describe (s : Pool World Work Job Result) : String :=
  "DownloadPool \x7b max_concurrent: " ++ toString s.limit ++ ", active: " ++ toString s.active
    ++ ", closed: " ++ (if s.closed then "true" else "false") ++ " \x7d"

/-! ### Small changes -/

/-- A task stands in one of the queues. -/
def isQueued (s : Pool World Work Job Result) (id : Nat) : Bool := id ∈ s.ready || id ∈ s.called

/-- Puts tasks behind the ready ones, except those that stand in a queue. -/
def wake (ids : List Nat) (s : Pool World Work Job Result) : Pool World Work Job Result :=
  { s with ready := s.ready ++ ids.filter (!s.isQueued ·) }

/-- Calls tasks from outside, except those that stand in a queue. -/
def call (ids : List Nat) (s : Pool World Work Job Result) : Pool World Work Job Result :=
  { s with called := s.called ++ ids.filter (!s.isQueued ·) }

/-- Changes one task. -/
def modifyTask (id : Nat) (f : Task Work Job Result → Task Work Job Result)
    (s : Pool World Work Job Result) : Pool World Work Job Result :=
  { s with tasks := s.tasks.modify id f }

/-- Takes a task to another phase. -/
def setPhase (id : Nat) (phase : Phase Job Result) (s : Pool World Work Job Result) :
    Pool World Work Job Result :=
  s.modifyTask id fun t => { t with phase := phase }

/-- Replaces a gate. -/
def setGate (name : String) (g : Turnstile) (s : Pool World Work Job Result) :
    Pool World Work Job Result :=
  { s with gates := s.gates.filter (·.1 != name) ++ [(name, g)] }

/-- Adds a step to the history. -/
def record (m : Milestone) (s : Pool World Work Job Result) : Pool World Work Job Result :=
  { s with history := s.history ++ [m] }

/-- Releases passes through a gate, and calls the tasks that get one. -/
def releaseGate (name : String) (n : Nat) (s : Pool World Work Job Result) :
    Pool World Work Job Result :=
  let (g, served) := (s.gate name).release n
  (s.setGate name g).call served

/-- Takes a task out of the line at a gate. -/
def leaveGate (name : String) (id : Nat) (s : Pool World Work Job Result) :
    Pool World Work Job Result :=
  let (g, woken) := (s.gate name).leave id
  (s.setGate name g).wake woken

/-- Takes a task out of the line for slots. -/
def leaveSlots (id : Nat) (s : Pool World Work Job Result) : Pool World Work Job Result :=
  let (slots, woken) := s.slots.leave id
  { s with slots := slots }.wake woken

/-- Gives a slot back. -/
def releaseSlot (s : Pool World Work Job Result) : Pool World Work Job Result :=
  let (slots, woken) := s.slots.release 1
  { s with slots := slots }.wake woken

/-! ### Turns -/

variable (w : Workload World Work Job Result)

/-- A task of the given phase leaves the line in which it stands. -/
def leaveLine (id : Nat) (phase : Phase Job Result) (s : Pool World Work Job Result) :
    Pool World Work Job Result :=
  match phase with
  | .queued => s.leaveSlots id
  | .working (.gate name :: _) _ => s.leaveGate name id
  | _ => s

/-- The shared state is put in order for a task. -/
def tidy (id : Nat) (work : Work) (s : Pool World Work Job Result) : Pool World Work Job Result :=
  { s with world := w.leave id work s.world }

/-- The result of a task can be seen. -/
def reveal (id : Nat) (r : Result) (s : Pool World Work Job Result) : Pool World Work Job Result :=
  s.setPhase id (.ended s.now r)

/-- A task of the given phase gives its slot back, if it has one. -/
def giveBack (phase : Phase Job Result) (s : Pool World Work Job Result) :
    Pool World Work Job Result :=
  match phase with
  | .queued | .ended _ _ => s
  | _ => s.releaseSlot

/-- Ends a task with a result. -/
def finish (id : Nat) (r : Result) (s : Pool World Work Job Result) : Pool World Work Job Result :=
  match s.tasks[id]? with
  | none => s
  | some t => (((s.leaveLine id t.phase).tidy w id t.work).reveal id r).giveBack t.phase

/-- A task that cannot go on ends if it has worked for too long. Otherwise it stays, and if it is
slow, that is noticed. -/
def stay (id : Nat) (s : Pool World Work Job Result) : Pool World Work Job Result :=
  match s.tasks[id]? with
  | none => s
  | some t =>
    if (t.deadline w).any (· ≤ s.now) then s.finish w id (w.timedOut t.work)
    else if (t.noticeAt w).any (· ≤ s.now) then s.modifyTask id fun t => { t with noticed := true }
    else s

/-- A task goes through its waits as far as it can, and from there to its ending. -/
def walk (id : Nat) : List Wait → Ending Job Result → Pool World Work Job Result →
    Pool World Work Job Result
  | [], .done r, s => (s.record (.finished id)).finish w id r
  | [], .job j, s =>
    let s := (s.record (.finished id)).setPhase id .inJob
    { s with jobs := s.jobs ++ [(id, j)] }.stay w id
  | .gate name :: waits, e, s =>
    match (s.gate name).enter id with
    | (g, true) => ((s.setGate name g).setPhase id (.working waits e)).walk id waits e
    | (g, false) =>
      ((s.setGate name g).setPhase id (.working (.gate name :: waits) e)).stay w id
  | .sleep d :: waits, e, s =>
    if d = 0 then (s.setPhase id (.working waits e)).walk id waits e
    else (s.setPhase id (.asleep (s.now + d) waits e)).stay w id

/-- A task that got its slot starts its work. -/
def begin (id : Nat) (t : Task Work Job Result) (s : Pool World Work Job Result) :
    Pool World Work Job Result :=
  let (world, plan) := w.start id t.work s.world
  let s := { s with world := world }.modifyTask id fun t =>
    { t with phase := .working plan.waits plan.ending, startedAt := some s.now }
  (s.record (.started id)).walk w id plan.waits plan.ending

/-- A task goes on as far as it can. A locked pool has no slot for anybody. -/
def goOn (id : Nat) (s : Pool World Work Job Result) : Pool World Work Job Result :=
  match s.tasks[id]? with
  | none => s
  | some t =>
    match t.phase with
    | .queued =>
      if s.teardown = .locked then s
      else match s.slots.enter id with
        | (slots, true) => { s with slots := slots }.begin w id t
        | (slots, false) => { s with slots := slots }
    | .working waits e => s.walk w id waits e
    | .asleep wake waits e =>
      if wake ≤ s.now then (s.setPhase id (.working waits e)).walk w id waits e else s.stay w id
    | .inJob => s.stay w id
    | .reported r => s.finish w id r
    | .ended _ _ => s

/-- A task is abandoned, unless it has ended. -/
def giveUp (id : Nat) (s : Pool World Work Job Result) : Pool World Work Job Result :=
  match s.tasks[id]? with
  | none => s
  | some t => if t.isLive then s.finish w id (w.abandoned t.work) else s

/-- Looks at a task. -/
def poll (id : Nat) (s : Pool World Work Job Result) : Pool World Work Job Result :=
  if s.cancelled then (if w.runtime.workFirst id then s.goOn w id else s).giveUp w id
  else s.goOn w id

/-- Runs a job, after the runtime has looked for a task in vain. Its result is lost if its task has
ended meanwhile. -/
def runJob (id : Nat) (j : Job) (s : Pool World Work Job Result) : Pool World Work Job Result :=
  let (world, r) := w.run id j s.world
  let s := { s with world := world, ticks := s.ticks + 1 }
  match s.tasks[id]?.map Task.phase with
  | some .inJob => (s.setPhase id (.reported r)).wake [id]
  | _ => s

/-- Where tasks stand in both queues, a task that was called from outside is next. -/
def outsideNext (s : Pool World Work Job Result) : Bool :=
  w.runtime.outsideFirst (s.ticks + 1) s.contests

/-- The runtime has taken the next task out of its queue. What is left in the queues and what was
decided so far is given. -/
def taking (ready called : List Nat) (contests : List Bool) (s : Pool World Work Job Result) :
    Pool World Work Job Result :=
  { s with ready := ready, called := called, ticks := s.ticks + 1, contests := contests }

/-- What happens next while the clock stands. -/
def turn (s : Pool World Work Job Result) : Pool World Work Job Result :=
  match s.ready, s.called, s.jobs with
  | id :: ready, id' :: called, _ =>
    if s.outsideNext w then (s.taking s.ready called (s.contests ++ [true])).poll w id'
    else (s.taking ready s.called (s.contests ++ [false])).poll w id
  | id :: ready, [], _ => (s.taking ready [] s.contests).poll w id
  | [], id :: called, _ => (s.taking [] called s.contests).poll w id
  | [], [], (id, j) :: jobs => { s with jobs := jobs }.runJob w id j
  | [], [], [] => s

/-- How many turns a task can still cause, itself and by what it hands on. -/
def taskEffort (t : Task Work Job Result) : Nat :=
  match t.phase with
  | .ended _ _ => 0
  | .inJob | .reported _ => 3
  | _ => 6

/-- More than the turns that are left until the pool is idle. -/
def effort (s : Pool World Work Job Result) : Nat :=
  (s.tasks.map taskEffort).foldl Nat.add 0 + s.ready.length + s.called.length + 2 * s.jobs.length

/-- Takes turns until the pool is idle. -/
def settle (s : Pool World Work Job Result) : Pool World Work Job Result :=
  Nat.repeat (turn w) s.effort s

/-! ### The clock -/

/-- The next instant at which a task has to be looked at. -/
def nextAlarm (s : Pool World Work Job Result) : Option Instant :=
  ((s.tasks.flatMap (Task.alarms w)).filter (s.now < ·)).min?

/-- The clock moves on to an instant, after the runtime has looked so many times in vain for a task,
and the tasks whose alarms went off on the way become ready. -/
def moveTo (looks : Nat) (time : Instant) (s : Pool World Work Job Result) :
    Pool World Work Job Result :=
  let due := (List.range s.tasks.length).filter fun id =>
    (s.tasks[id]?.any fun t => (t.alarms w).any fun a => s.now < a && a ≤ time)
  { s with now := time, ticks := s.ticks + looks }.wake due

/-- Lets the pool work while the clock moves on to `goal`, but not once `stop` holds when it is
idle. The tasks that become ready at `goal` itself are not looked at. Of the first argument one is
used for every move of the clock, which is at least a millisecond each. The runtime looks in vain
before every move, and once more for the host when the time is up. -/
def runTo (stop : Pool World Work Job Result → Bool) (goal : Instant) :
    Nat → Pool World Work Job Result → Pool World Work Job Result
  | 0, s => s
  | n + 1, s =>
    let s := s.settle w
    if stop s then s
    else match s.nextAlarm w with
      | some a => if a < goal then runTo stop goal n (s.moveTo w 1 a) else s.moveTo w 2 goal
      | none => s.moveTo w 2 goal

/-- Lets a span of time pass. -/
def advance (millis : Nat) (s : Pool World Work Job Result) : Pool World Work Job Result :=
  s.runTo w (fun _ => false) (s.now + millis) millis

/-- Lets time pass until a task has ended, but not more than `patience`. -/
def await (id : Nat) (patience : Nat) (s : Pool World Work Job Result) :
    Pool World Work Job Result :=
  if (s.result? id).isSome then s
  else s.runTo w (fun s => (s.result? id).isSome) (s.now + patience) patience

/-! ### Accepting and refusing -/

/-- A new task, with its number. A closed pool refuses it. -/
def spawn (work : Work) (s : Pool World Work Job Result) :
    Option (Nat × Pool World Work Job Result) :=
  if s.closed then none
  else some (s.tasks.length, { s with tasks := s.tasks ++ [Task.new work] }.call [s.tasks.length])

/-- How closing a pool went: whether all tasks ended by themselves in time, and how many had to be
abandoned. -/
structure ShutdownReport where
  drained : Bool
  abandoned : Nat
  deriving DecidableEq, Repr

/-- Refuses new tasks and lets time pass until the others have ended, but not more than `drain`. -/
def drain (drain : Nat) (s : Pool World Work Job Result) : Pool World Work Job Result :=
  let s := { s with closed := true }
  if s.active = 0 then s
  else s.runTo w (fun s => s.active == 0) (s.now + drain) drain

/-- Abandons the tasks that are left. -/
def abandon (s : Pool World Work Job Result) : Pool World Work Job Result :=
  ({ s with teardown := .locked }.wake s.live).settle w

/-- Closes the pool for good. -/
def shutdown (drain : Nat) (s : Pool World Work Job Result) :
    Pool World Work Job Result × ShutdownReport :=
  let s := s.drain w drain
  (s.abandon w, ⟨s.active == 0, s.active⟩)

end Pool

end ArtifactFetch
