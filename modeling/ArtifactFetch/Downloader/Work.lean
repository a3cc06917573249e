import ArtifactFetch.Pool
import ArtifactFetch.Registration
import ArtifactFetch.Resolver

/-! # Download tasks

The task of a coordinate asks the resolver for it and then has what was found registered, as a job
of its own that runs to its end even if the task has ended meanwhile. While a task has not ended,
its key is in the registry. A panic of the resolver, of a listener or of the class loader ends the
task with a failure like any other. -/

namespace ArtifactFetch

/-- How a download ends. -/
abbrev Outcome := Except FetchError Summary

/-- The artifacts that are to be registered for a coordinate. -/
structure Found where
  coordinate : Coordinate
  artifacts : List Artifact
  deriving DecidableEq, Repr

/-- What does not change while a downloader is in use. -/
structure Config where
  settings : Settings
  /-- How long a download may work. -/
  timeout : Option Duration
  resolver : Resolver
  runtime : Runtime

/-- A call of the resolver. -/
structure Call where
  task : Nat
  request : Request
  deriving DecidableEq, Repr

/-- A file that a task added to the class loader. -/
structure Append where
  task : Nat
  artifact : Artifact
  deriving DecidableEq, Repr

/-- What the download tasks share: the files, the classpath, the tasks that have not ended by their
keys, the calls of the resolver and the files that tasks added, in the order of time. -/
structure Shared where
  files : FileTree
  classpath : Classpath
  registry : List (String × Nat)
  calls : List Call
  appends : List Append

namespace Shared

/-- The requests so far. -/
def requests (s : Shared) : List Request := s.calls.map Call.request

/-- Takes a key out of the registry. -/
def forget (s : Shared) (key : String) : Shared :=
  { s with registry := s.registry.filter (·.1 != key) }

end Shared

namespace Config

/-- What follows an answer of the resolver: what was found is registered, and a failure is the end.
-/
def ending (c : Coordinate) : Answer → Ending Found Outcome
  | .artifacts found => .job ⟨c, found⟩
  | .error e => .done (.error e)
  | .panic p => .done (.error (.taskPanicked c.key p.message))

/-- Asks the resolver. -/
def ask (config : Config) (task : Nat) (c : Coordinate) (s : Shared) :
    Shared × Plan Found Outcome :=
  let request := Request.for config.settings c
  let reply := config.resolver s.requests request
  ({ s with calls := s.calls ++ [⟨task, request⟩] }, ⟨reply.waits, ending c reply.answer⟩)

/-- Registers what was found for a task. -/
def registerFound (config : Config) (task : Nat) (found : Found) (s : Shared) : Shared × Outcome :=
  let r := Registration.all s.files (some task) config.settings.verifyArtifacts found.coordinate
    found.artifacts s.classpath
  ({ s with
      classpath := r.classpath
      appends := s.appends ++ r.appended.map (⟨task, ·⟩) },
    match r.result with
    | .ok summary => .ok summary
    | .error (.error e) => .error e
    | .error (.panic p) => .error (.taskPanicked found.coordinate.key (p.report task)))

/-- The failure of a download that has worked for too long. -/
def timedOut (config : Config) (c : Coordinate) : Outcome :=
  .error (.timeout c.key (config.timeout.getD ⟨0⟩))

/-- What download tasks do. -/
def workload (config : Config) : Workload Shared Coordinate Found Outcome where
  runtime := config.runtime
  start := config.ask
  run := config.registerFound
  leave := fun _ c s => s.forget c.key
  abandoned := fun c => .error (.cancelled c.key)
  timedOut := config.timedOut
  limit := config.timeout
  notice := some config.settings.slowDownloadNotice

end Config

end ArtifactFetch
