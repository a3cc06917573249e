import ArtifactFetch.Downloader.Session
import ArtifactFetch.Proofs.Pool.Run

/-! # Runs of a downloader

A session looks at the tasks of a downloader in one fixed order. A run leaves the order open:
between the actions of the host, any task may be looked at, whether it was woken or not, any job
that was handed over may be run, the clock may move on by any span, and a shutdown may close the
pool, later cancel what is left and then lock the pool, all as moves of their own. A run is a list
of moves, with the responses to them in order. Every session is a run (`moveAll_act`), so what holds
of all runs holds of all sessions. -/

namespace ArtifactFetch

namespace Downloader

/-- What can happen to a downloader. -/
inductive Move where
  /-- The host does something. -/
  | act (a : Action)
  /-- A task is looked at. -/
  | look (id : Nat)
  /-- The job at a place in the line is run. -/
  | job (place : Nat)
  /-- The clock moves on. -/
  | tick (millis : Nat)
  /-- No download is accepted any more. -/
  | close
  /-- The downloads that are left are to be abandoned. -/
  | cancel
  /-- No download gets a slot any more, if those that are left are to be abandoned. -/
  | lock

/-- Makes a move. -/
def move (d : Downloader) : Move → Downloader × Response
  | .act a => d.perform a
  | .look id => ({ d with pool := d.pool.poll d.config.workload id }, .done)
  | .job i => ({ d with pool := d.pool.runJobAt d.config.workload i }, .done)
  | .tick millis =>
    ({ d with pool := d.pool.moveTo d.config.workload 1 (d.pool.now + millis) }, .done)
  | .close => ({ d with pool := { d.pool with closed := true } }, .done)
  | .cancel => ({ d with pool := Pool.cancel { d.pool with closed := true } }, .done)
  | .lock => ({ d with pool := d.pool.lock }, .done)

/-- Makes the moves of a run. -/
def moveAll (d : Downloader) : List Move → Downloader × List Response
  | [] => (d, [])
  | m :: ms =>
    let (d, r) := d.move m
    let (d, rs) := d.moveAll ms
    (d, r :: rs)

@[simp] theorem moveAll_nil (d : Downloader) : d.moveAll [] = (d, []) := rfl

@[simp] theorem moveAll_cons (d : Downloader) (m : Move) (ms : List Move) :
    d.moveAll (m :: ms) =
      (((d.move m).1.moveAll ms).1, (d.move m).2 :: ((d.move m).1.moveAll ms).2) :=
  rfl

theorem moveAll_append (d : Downloader) (ms ns : List Move) :
    d.moveAll (ms ++ ns) =
      (((d.moveAll ms).1.moveAll ns).1, (d.moveAll ms).2 ++ ((d.moveAll ms).1.moveAll ns).2) := by
  induction ms generalizing d with
  | nil => rfl
  | cons m ms ih => simp [ih]

/-- **Every session is a run.** -/
theorem moveAll_act (d : Downloader) (as : List Action) :
    d.moveAll (as.map .act) = d.performAll as := by
  induction as generalizing d with
  | nil => rfl
  | cons a as ih => simp [ih, move]

/-- A builder over the standard settings, with an empty boot classpath. -/
def Builder.plain (resolver : Resolver) (listener : Option Listener)
    (timeout : Option (Option Duration)) : Builder where
  settings := .standard
  boot := some ⟨[]⟩
  loader := none
  listener := listener
  hasRuntime := true
  timeout := timeout
  resolver := resolver

/-- What such a builder makes. -/
def plain (resolver : Resolver) (listener : Option Listener) (timeout : Option (Option Duration))
    (files : FileTree) : Downloader where
  config := ⟨.standard, timeout.getD Settings.standard.taskTimeout, resolver, .standard⟩
  pool := .withLimit Settings.standard.workerLimit
    ⟨files, ⟨⟨[]⟩, .regular, .holding listener⟩, [], [], []⟩
  observed := []

theorem build_plain (resolver : Resolver) (listener : Option Listener)
    (timeout : Option (Option Duration)) (files : FileTree) (environment : String → Option Bytes) :
    (Builder.plain resolver listener timeout).build files environment =
      .ok (plain resolver listener timeout files) := rfl

/-- A downloader that was just made is as its builder says. -/
theorem eq_of_build {b : Builder} {files : FileTree} {environment : String → Option Bytes}
    {d : Downloader} (h : b.build files environment = .ok d) : ∃ boot loader,
      d = { config := ⟨b.settings, b.timeout.getD b.settings.taskTimeout, b.resolver, b.runtime⟩
            pool := .withLimit b.settings.workerLimit
              ⟨files, ⟨boot, loader, .holding b.listener⟩, [], [], []⟩
            observed := [] } := by
  unfold Builder.build Pool.create at h
  split at h
  · cases h
  · dsimp only at h
    split_ifs at h
    cases h
    exact ⟨_, _, rfl⟩

/-- It has no tasks, and nothing has happened to it. -/
theorem pool_of_build {b : Builder} {files : FileTree} {environment : String → Option Bytes}
    {d : Downloader} (h : b.build files environment = .ok d) :
    ∃ limit classpath, d.pool = .withLimit limit ⟨files, classpath, [], [], []⟩ ∧
      classpath.slot.deliveries = [] := by
  obtain ⟨boot, loader, rfl⟩ := eq_of_build h
  exact ⟨_, _, rfl, rfl⟩

theorem settings_of_build {b : Builder} {files : FileTree} {environment : String → Option Bytes}
    {d : Downloader} (h : b.build files environment = .ok d) :
    d.config.settings = b.settings := by
  obtain ⟨boot, loader, rfl⟩ := eq_of_build h
  rfl

/-! ### What a run shows -/

/-- The handle of a download that was started. -/
def Response.submitted? : Response → Option Handle
  | .ensured (.ok (.submitted h)) => some h
  | _ => none

/-- The handles of the downloads that were started, in the order of time. -/
def submitted (rs : List Response) : List Handle := rs.filterMap Response.submitted?

/-- The coordinate that is requested. -/
def Move.request? : Move → Option Coordinate
  | .act (.ensure c) => some c
  | _ => none

/-- The coordinates that are requested in a run. -/
def requested (ms : List Move) : List Coordinate := ms.filterMap Move.request?

@[simp] theorem requested_append (ms ms' : List Move) :
    requested (ms ++ ms') = requested ms ++ requested ms' := by
  simp [requested]

end Downloader

end ArtifactFetch
