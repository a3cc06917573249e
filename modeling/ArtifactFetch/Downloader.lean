import ArtifactFetch.Downloader.Work
import ArtifactFetch.Pool.Script

/-! # Downloaders

A downloader makes coordinates loadable at run time and fetches each at most once at a time. A
request (`ensure`) is told to the listener, and then joins the download of its key if there is one,
is skipped if the artifact is present, is refused after shutdown, and otherwise starts a download.
Everybody who waits for a download gets the same result, and after one of them has got it, it can be
seen without waiting (`peek`). -/

namespace ArtifactFetch

/-- A downloader. `observed` are the tasks whose results somebody has waited for. -/
structure Downloader where
  config : Config
  pool : Pool Shared Coordinate Found Outcome
  observed : List Nat

/-- A way to the result of a download. -/
structure Handle where
  key : String
  task : Nat
  deriving DecidableEq, Repr

/-- The handle as it is shown. -/
def Handle.describe (h : Handle) : String :=
  "DownloadHandle \x7b key: " ++ Text.quoted h.key ++ ", .. \x7d"

/-- What a request led to. -/
inductive Ensured where
  /-- The artifact is present. -/
  | skipped (hit : Hit)
  /-- A download was started. -/
  | submitted (h : Handle)
  /-- There is a download of the same key. -/
  | joined (h : Handle)
  deriving DecidableEq, Repr

namespace Ensured

/-- The way to the result, if there is something to wait for. -/
def handle? : Ensured → Option Handle
  | .skipped _ => none
  | .submitted h | .joined h => some h

def isSubmitted : Ensured → Bool
  | .submitted _ => true
  | _ => false

end Ensured

namespace Downloader

/-! ### Making one -/

/-- What a downloader is made from. What is left out is taken from the environment or from the
settings. -/
structure Builder where
  settings : Settings
  boot : Option BootClasspath
  loader : Option ClassLoader
  listener : Option Listener
  /-- A runtime was given or found. -/
  hasRuntime : Bool
  /-- A limit, or none, instead of the one in the settings. -/
  timeout : Option (Option Duration)
  resolver : Resolver
  runtime : Runtime := .standard

/-- Makes a downloader over the given files and environment. -/
def Builder.build (b : Builder) (files : FileTree) (environment : String → Option Bytes) :
    Except Failure Downloader :=
  if !b.hasRuntime then
    .error (.error (.other ("No tokio runtime for download pool: " ++ Script.noRuntime)))
  else
    let classpath : Classpath :=
      { boot := b.boot.getD (.ofVariable (environment b.settings.bootClasspathEnv))
        loader := b.loader.getD .regular
        slot := .holding b.listener }
    match Pool.create b.settings.workerLimit (⟨files, classpath, [], [], []⟩ : Shared) with
    | .error _ => .error (.panic ⟨some Script.tooManySlots⟩)
    | .ok pool =>
      .ok { config := ⟨b.settings, b.timeout.getD b.settings.taskTimeout, b.resolver, b.runtime⟩
            pool := pool
            observed := [] }

/-! ### Views -/

def shared (d : Downloader) : Shared := d.pool.world

def classpath (d : Downloader) : Classpath := d.shared.classpath

/-- How many downloads are registered. -/
def inFlight (d : Downloader) : Nat := d.shared.registry.length

/-- The result behind a handle, once the download has ended. -/
def result? (d : Downloader) (h : Handle) : Option Outcome := d.pool.result? h.task

/-- The result behind a handle, once somebody has waited for it. -/
def peek (d : Downloader) (h : Handle) : Option Outcome :=
  if h.task ∈ d.observed then d.result? h else none

/-- The downloader as it is shown. -/
def describe (d : Downloader) : String :=
  "DependencyDownloader \x7b index: " ++ d.classpath.describe ++ ", pool: " ++ d.pool.describe
    ++ ", in_flight: " ++ toString d.inFlight ++ " \x7d"

/-! ### Changes by the host -/

/-- Changes what the tasks share. -/
def modifyShared (d : Downloader) (f : Shared → Shared) : Downloader :=
  { d with pool := { d.pool with world := f d.pool.world } }

def setClasspath (d : Downloader) (cp : Classpath) : Downloader :=
  d.modifyShared fun s => { s with classpath := cp }

/-- Installs a listener, or none. -/
def setListener (d : Downloader) (l : Option Listener) : Downloader :=
  d.setClasspath (d.classpath.setListener l)

/-- Replaces the files. -/
def setFiles (d : Downloader) (files : FileTree) : Downloader :=
  d.modifyShared fun s => { s with files := files }

/-- Adds a file to the class loader. -/
def addFile (d : Downloader) (p : Path) : Downloader × Except Failure Unit :=
  let (cp, r) := d.classpath.addFile d.shared.files p
  (d.setClasspath cp, r)

/-- Whether an artifact is present, which the listener is told. -/
def alreadyAvailable (d : Downloader) (c : Coordinate) : Downloader × Except Panic Bool :=
  let (cp, r) := d.classpath.alreadyAvailable c
  (d.setClasspath cp, r)

/-- Releases passes through a gate. -/
def release (d : Downloader) (gate : String) (n : Nat) : Downloader :=
  { d with pool := d.pool.releaseGate gate n }

/-! ### Requests -/

/-- Starts a download of a coordinate whose key is not registered. -/
def submit (d : Downloader) (c : Coordinate) : Downloader × Except Failure Ensured :=
  match d.pool.spawn c with
  | none => (d, .error (.error .shuttingDown))
  | some (id, pool) =>
    (({ d with pool := pool } : Downloader).modifyShared fun s =>
        { s with registry := s.registry ++ [(c.key, id)] },
      .ok (.submitted ⟨c.key, id⟩))

/-- Serves a request that the listener has been told of. -/
def serve (d : Downloader) (c : Coordinate) : Downloader × Except Failure Ensured :=
  match d.shared.registry.lookup c.key with
  | some id => (d, .ok (.joined ⟨c.key, id⟩))
  | none =>
    match d.classpath.lookup c with
    | some hit =>
      match d.classpath.notifyHit none c hit with
      | (cp, some p) => (d.setClasspath cp, .error (.panic p))
      | (cp, none) => (d.setClasspath cp, .ok (.skipped hit))
    | none => d.submit c

/-- Sees to it that a coordinate and what it depends on become loadable. -/
def ensure (d : Downloader) (c : Coordinate) : Downloader × Except Failure Ensured :=
  match d.classpath.deliver none (.requested c) with
  | (cp, some p) => (d.setClasspath cp, .error (.panic p))
  | (cp, none) => (d.setClasspath cp).serve c

/-! ### Time -/

/-- Lets a span of time pass. -/
def advance (d : Downloader) (millis : Nat) : Downloader :=
  { d with pool := d.pool.advance d.config.workload millis }

/-- Waits for a download, but not longer than `patience`. -/
def wait (d : Downloader) (h : Handle) (patience : Nat) : Downloader × Option Outcome :=
  let pool := d.pool.await d.config.workload h.task patience
  match pool.result? h.task with
  | some r => ({ d with pool := pool, observed := h.task :: d.observed }, some r)
  | none => ({ d with pool := pool }, none)

/-- Refuses new downloads, gives the others some time to end, and abandons the rest. -/
def shutdown (d : Downloader) (drain : Nat) : Downloader × Pool.ShutdownReport :=
  let (pool, report) := d.pool.shutdown d.config.workload drain
  ({ d with pool := pool }, report)

end Downloader

end ArtifactFetch
