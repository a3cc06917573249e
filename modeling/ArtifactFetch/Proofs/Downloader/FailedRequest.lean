import ArtifactFetch.Proofs.Downloader.Request
import ArtifactFetch.Proofs.Pool.Touching
import ArtifactFetch.Proofs.Registration.Events

/-! # A request that fails does nothing

A request fails if the listener panics, when it is told of the request or of the artifact that is
present, or if the pool is closed. Up to there nothing has happened but that the listener was told,
and that has no effect on anything else: deliveries are recorded and never read. So a downloader
with other deliveries goes through every run in the same way (`moveAll_withDeliveries`), and after a
request that failed everything goes on as if it had not been made (`failed_request`). It would be
the same if a request registered its key before it asked the pool, as long as the key is forgotten
when the pool refuses (`submit_of_register`).

Deliveries come one behind the other, so what came first is best thought of as put in front of all
others (`behind`): this commutes with all that a downloader does. -/

namespace ArtifactFetch

/-! ### Classpaths behind deliveries -/

namespace Classpath

/-- The classpath as if these had been delivered first. -/
def behind (ds : List Delivery) (cp : Classpath) : Classpath :=
  { cp with slot := { cp.slot with deliveries := ds ++ cp.slot.deliveries } }

variable {cp cp' : Classpath} {p : Option Panic} (ds : List Delivery)

theorem lookup_behind (cp : Classpath) (c : Coordinate) :
    (cp.behind ds).lookup c = cp.lookup c := rfl

theorem behind_deliver {task : Option Nat} {e : Event} (h : cp.deliver task e = (cp', p)) :
    (cp.behind ds).deliver task e = (cp'.behind ds, p) := by
  obtain ⟨boot, loader, installed, deliveries⟩ := cp
  cases h
  cases installed with
  | none => rfl
  | some l => simp [behind, deliver, ListenerSlot.deliver]

theorem behind_notifyHit {task : Option Nat} {c : Coordinate} {hit : Hit}
    (h : cp.notifyHit task c hit = (cp', p)) :
    (cp.behind ds).notifyHit task c hit = (cp'.behind ds, p) := by
  unfold notifyHit at h ⊢
  split_ifs at h ⊢
  · cases h
    rfl
  · exact behind_deliver ds h

theorem behind_addFile {t : FileTree} {p : Path} {r : Except Failure Unit}
    (h : cp.addFile t p = (cp', r)) : (cp.behind ds).addFile t p = (cp'.behind ds, r) := by
  cases h
  rfl

theorem behind_alreadyAvailable (cp : Classpath) (c : Coordinate) :
    (cp.behind ds).alreadyAvailable c =
      ((cp.alreadyAvailable c).1.behind ds, (cp.alreadyAvailable c).2) := by
  unfold alreadyAvailable
  rw [lookup_behind]
  rcases cp.lookup c with _ | hit
  · rfl
  · dsimp only
    rcases hn : cp.notifyHit none c hit with ⟨cp', _ | p⟩ <;> rw [behind_notifyHit ds hn]

end Classpath

/-! ### Registrations behind deliveries -/

/-- What a registration leaves behind, as if these had been delivered first. -/
def Registered.behind (ds : List Delivery) (r : Registered) : Registered :=
  { r with classpath := r.classpath.behind ds }

namespace Registration

variable {t : FileTree} {task : Option Nat}

theorem Registers.behind {as : List Artifact} {cp : Classpath} {s : Summary} {r : Registered}
    (h : Registers t task as cp s r) (ds : List Delivery) :
    Registers t task as (cp.behind ds) s (r.behind ds) := by
  induction h with
  | done => exact .done
  | reportPanic hl hn => exact .reportPanic hl (Classpath.behind_notifyHit ds hn)
  | report hl hn _ ih => exact .report hl (Classpath.behind_notifyHit ds hn) ih
  | refuse hl ha => exact .refuse hl (Classpath.behind_addFile ds ha)
  | addPanic hl ha hn =>
    exact .addPanic hl (Classpath.behind_addFile ds ha) (Classpath.behind_deliver ds hn)
  | add hl ha hn _ ih =>
    have hl' := (Classpath.lookup_behind ds _ _).trans hl
    exact Registers.add hl' (Classpath.behind_addFile ds ha) (Classpath.behind_deliver ds hn) ih

theorem behind_all (ds : List Delivery) (t : FileTree) (task : Option Nat) (verify : Bool)
    (root : Coordinate) (artifacts : List Artifact) (cp : Classpath) :
    all t task verify root artifacts (cp.behind ds) =
      (all t task verify root artifacts cp).behind ds := by
  have hp : (cp.behind ds).pending artifacts = cp.pending artifacts := rfl
  unfold all
  rw [hp]
  dsimp only
  split
  · rfl
  · exact ((registers_each artifacts cp _).behind ds).eq_each

end Registration

/-! ### Downloaders behind deliveries -/

/-- What the tasks share, as if these had been delivered first. -/
def Shared.behind (ds : List Delivery) (s : Shared) : Shared :=
  { s with classpath := s.classpath.behind ds }

/-- No task sees what was delivered. -/
theorem Config.ignores_behind (config : Config) (ds : List Delivery) :
    config.workload.Ignores (Shared.behind ds) where
  start _ _ _ := rfl
  run id found s := by
    show config.registerFound id found (s.behind ds) = _
    have hall := Registration.behind_all ds s.files (some id) config.settings.verifyArtifacts
      found.coordinate found.artifacts s.classpath
    show (_, _) = (_, _)
    dsimp only [registerFound, Shared.behind]
    rw [hall]
    rfl
  leave _ _ _ := rfl

namespace Downloader

variable {d : Downloader} {c : Coordinate} {f : Failure}

/-- The downloader as if these had been delivered first. -/
def behind (ds : List Delivery) (d : Downloader) : Downloader :=
  d.modifyShared (Shared.behind ds)

section Behind
variable (ds : List Delivery) (d : Downloader)

theorem pool_behind : (d.behind ds).pool = d.pool.touch (Shared.behind ds) := rfl

theorem config_behind : (d.behind ds).config = d.config := rfl

theorem classpath_behind : (d.behind ds).classpath = d.classpath.behind ds := rfl

theorem behind_submit (c : Coordinate) :
    (d.behind ds).submit c = ((d.submit c).1.behind ds, (d.submit c).2) := by
  rcases hc : d.pool.closed with _ | _
  · rw [submit_of_open hc, submit_of_open (d := d.behind ds) hc]
    rfl
  · rw [submit_of_closed hc, submit_of_closed (d := d.behind ds) hc]

theorem behind_serve (c : Coordinate) :
    (d.behind ds).serve c = ((d.serve c).1.behind ds, (d.serve c).2) := by
  have hr : (d.behind ds).shared.registry = d.shared.registry := rfl
  unfold serve
  rw [hr, classpath_behind, Classpath.lookup_behind]
  rcases d.shared.registry.lookup c.key with _ | id
  · rcases d.classpath.lookup c with _ | hit
    · exact behind_submit ds d c
    · dsimp only
      rcases hn : d.classpath.notifyHit none c hit with ⟨cp, _ | p⟩ <;>
        rw [Classpath.behind_notifyHit ds hn] <;> rfl
  · rfl

theorem behind_ensure (c : Coordinate) :
    (d.behind ds).ensure c = ((d.ensure c).1.behind ds, (d.ensure c).2) := by
  unfold ensure
  rw [classpath_behind]
  rcases hn : d.classpath.deliver none (.requested c) with ⟨cp, _ | p⟩ <;>
    rw [Classpath.behind_deliver ds hn]
  · exact behind_serve ds (d.setClasspath cp) c
  · rfl

theorem behind_wait (h : Handle) (patience : Nat) :
    (d.behind ds).wait h patience = ((d.wait h patience).1.behind ds, (d.wait h patience).2) := by
  unfold wait
  rw [pool_behind, config_behind, Pool.touch_await (d.config.ignores_behind ds)]
  dsimp only
  rw [Pool.result?_touch]
  rcases (d.pool.await d.config.workload h.task patience).result? h.task with _ | r <;> rfl

theorem behind_alreadyAvailable (c : Coordinate) : (d.behind ds).alreadyAvailable c =
    ((d.alreadyAvailable c).1.behind ds, (d.alreadyAvailable c).2) := by
  unfold alreadyAvailable
  rw [classpath_behind, Classpath.behind_alreadyAvailable]
  rfl

/-- **A move** does not see what was delivered first. -/
theorem behind_move (m : Move) :
    (d.behind ds).move m = ((d.move m).1.behind ds, (d.move m).2) := by
  have hi := d.config.ignores_behind ds
  have hpool : ∀ {p p' : DownloadPool}, p' = p.touch (Shared.behind ds) →
      (({ d.behind ds with pool := p' } : Downloader), Response.done) =
        (({ d with pool := p } : Downloader).behind ds, .done) := by
    rintro p _ rfl
    rfl
  cases m with
  | act a =>
    cases a with
    | ensure c => exact congrArg (Prod.map id Response.ensured) (behind_ensure ds d c)
    | wait h patience => exact congrArg (Prod.map id Response.waited) (behind_wait ds d h patience)
    | advance millis => exact hpool (Pool.touch_advance hi millis d.pool)
    | release gate n => rfl
    | shutdown window =>
      have hshut := Pool.touch_shutdown hi window d.pool
      show Prod.map id Response.closed ((d.behind ds).shutdown window) = _
      unfold shutdown
      rw [pool_behind, config_behind, hshut]
      rfl
    | setListener l => rfl
    | setFiles files => rfl
    | addFile p => rfl
    | inquire c => exact congrArg (Prod.map id Response.present) (behind_alreadyAvailable ds d c)
  | look id => exact hpool (Pool.touch_poll hi id d.pool)
  | job i => exact hpool (Pool.touch_runJobAt hi i d.pool)
  | tick millis => rfl
  | close => rfl
  | cancel => rfl
  | lock => rfl

/-- **A run** does not see what was delivered first. -/
theorem behind_moveAll : ∀ (ms : List Move) (d : Downloader),
    (d.behind ds).moveAll ms = ((d.moveAll ms).1.behind ds, (d.moveAll ms).2)
  | [], _ => rfl
  | m :: ms, d => by
    rw [moveAll_cons, moveAll_cons, behind_move, behind_moveAll ms (d.move m).1]

end Behind

/-! ### Other deliveries -/

/-- All that listeners were told. -/
def deliveries (d : Downloader) : List Delivery := d.classpath.slot.deliveries

/-- The downloader with other deliveries, and nothing else changed. -/
def withDeliveries (ds : List Delivery) (d : Downloader) : Downloader :=
  d.setClasspath { d.classpath with slot := { d.classpath.slot with deliveries := ds } }

theorem behind_withDeliveries (ds : List Delivery) (d : Downloader) :
    (d.withDeliveries []).behind ds = d.withDeliveries ds := by
  have hnil : ds ++ [] = ds := List.append_nil ds
  show d.withDeliveries (ds ++ []) = d.withDeliveries ds
  rw [hnil]

/-- **Deliveries have no effect.** Whatever was delivered before a run, the run goes the same way,
and the same is delivered during it. -/
theorem moveAll_withDeliveries (d : Downloader) (ms : List Move) :
    ∃ later, (d.moveAll ms).1.deliveries = d.deliveries ++ later ∧ ∀ ds,
      (d.withDeliveries ds).moveAll ms =
        ((d.moveAll ms).1.withDeliveries (ds ++ later), (d.moveAll ms).2) := by
  have hrun : ∀ ds, (d.withDeliveries ds).moveAll ms =
      (((d.withDeliveries []).moveAll ms).1.behind ds, ((d.withDeliveries []).moveAll ms).2) :=
    fun ds => by rw [← behind_withDeliveries, behind_moveAll]
  have hself : d.moveAll ms = _ := hrun d.deliveries
  refine ⟨((d.withDeliveries []).moveAll ms).1.deliveries, by rw [hself]; rfl, fun ds => ?_⟩
  rw [hrun ds, hself]
  rfl

/-! ### A registration that is taken back -/

/-- The downloader after a key was registered for the next download. -/
def register (d : Downloader) (c : Coordinate) : Downloader :=
  d.modifyShared fun s => { s with registry := s.registry ++ [(c.key, d.pool.tasks.length)] }

theorem forget_register (h : d.shared.registry.lookup c.key = none) :
    (d.register c).modifyShared (Shared.forget · c.key) = d := by
  have hfree : d.shared.registry.filter (·.1 != c.key) = d.shared.registry :=
    List.filter_eq_self.mpr fun r hr => by
      rw [bne_comm]
      exact List.lookup_eq_none_iff.mp h r hr
  have hback : (d.shared.registry ++ [(c.key, d.pool.tasks.length)]).filter (·.1 != c.key) =
      d.shared.registry := by
    rw [List.filter_append, hfree]
    simp
  exact congrArg (fun registry => d.modifyShared fun s => { s with registry := registry }) hback

/-- **A registration that comes to nothing is taken back.** Starting a download, its key may be
registered before the pool is asked: if the pool refuses and the key is forgotten, nothing has
changed. -/
theorem submit_of_register (h : d.shared.registry.lookup c.key = none) :
    d.submit c = match (d.register c).pool.spawn c with
      | none => ((d.register c).modifyShared (Shared.forget · c.key), .error (.error .shuttingDown))
      | some (id, pool) => ({ d.register c with pool := pool }, .ok (.submitted ⟨c.key, id⟩)) := by
  rcases hc : d.pool.closed with _ | _
  · rw [submit_of_open hc, Pool.spawn_of_open (s := (d.register c).pool) hc]
    rfl
  · rw [submit_of_closed hc, Pool.spawn_of_closed (s := (d.register c).pool) hc]
    exact Prod.ext (forget_register h).symm rfl

/-! ### A request that fails -/

/-- The downloader after its listener was told of events of the host, if there is one. -/
def tell (es : List Event) (d : Downloader) : Downloader :=
  d.withDeliveries (d.classpath.slot.tell none es).deliveries

theorem setClasspath_eq_tell {cp : Classpath} {es : List Event} (hb : cp.boot = d.classpath.boot)
    (hl : cp.loader = d.classpath.loader) (hs : cp.slot = d.classpath.slot.tell none es) :
    d.setClasspath cp = d.tell es := by
  obtain ⟨boot, loader, slot⟩ := cp
  subst hb hl hs
  rfl

theorem told_eq_tell (d : Downloader) (c : Coordinate) : d.told c = d.tell [.requested c] :=
  setClasspath_eq_tell rfl rfl (Classpath.slot_of_deliver rfl)

theorem tell_notifyHit {cp : Classpath} {hit : Hit} {p : Option Panic}
    (hn : (d.told c).classpath.notifyHit none c hit = (cp, p)) :
    (d.told c).setClasspath cp = d.tell (.requested c :: hit.events c) := by
  have hboot := (Classpath.grows_of_notifyHit hn).boot
  have hloader := Classpath.loader_of_notifyHit hn
  have hslot := Classpath.slot_of_notifyHit hn
  have htold : (d.told c).classpath.slot = d.classpath.slot.tell none [.requested c] :=
    Classpath.slot_of_deliver rfl
  rw [htold, ListenerSlot.tell_append] at hslot
  exact setClasspath_eq_tell (d := d) hboot hloader hslot

/-- When a request fails, nothing has happened but that the listener was told. -/
theorem tell_of_error (hf : (d.ensure c).2 = .error f) : (d.ensure c).1 = d.tell [.requested c] ∨
    (d.ensure c).1 = d.tell [.requested c, .available c] := by
  have he := ensures_ensure d c
  generalize d.ensure c = r at he hf ⊢
  cases he with
  | requestPanic | refuse => exact .inl (told_eq_tell d c)
  | @skipPanic hit cp p hr hp hn =>
    have htell := tell_notifyHit hn
    cases hit with
    | trivial => exact .inl htell
    | static | dynamic => exact .inr htell
  | join | skip | submit => cases hf

/-- **A request that fails** has no effect but that the listener was told of it, and perhaps of the
artifact that is present. -/
structure Fails (d : Downloader) (c : Coordinate) : Prop where
  /-- Registry, pool, class loader and calls of the resolver are as before. -/
  told : (d.ensure c).1 = d.tell [.requested c] ∨
    (d.ensure c).1 = d.tell [.requested c, .available c]
  handles : (d.ensure c).1.handles = d.handles ∧
    ∀ h, (d.ensure c).1.result? h = d.result? h ∧ (d.ensure c).1.peek h = d.peek h
  /-- Every run goes on as if the request had not been made. -/
  later : ∀ ms, ∃ later, (d.moveAll ms).1.deliveries = d.deliveries ++ later ∧
    (d.ensure c).1.moveAll ms =
      ((d.moveAll ms).1.withDeliveries ((d.ensure c).1.deliveries ++ later), (d.moveAll ms).2)
  /-- The resolver is called for the same as without the request. -/
  calls : ∀ ms, ((d.ensure c).1.moveAll ms).1.shared.calls = (d.moveAll ms).1.shared.calls

/-- **A request that fails changes nothing.** -/
theorem failed_request (hf : (d.ensure c).2 = .error f) : Fails d c := by
  have htold := tell_of_error hf
  obtain ⟨es, hes⟩ : ∃ es, (d.ensure c).1 = d.tell es := htold.elim (⟨_, ·⟩) (⟨_, ·⟩)
  have hlater : ∀ ms, ∃ later, (d.moveAll ms).1.deliveries = d.deliveries ++ later ∧
      (d.ensure c).1.moveAll ms = ((d.moveAll ms).1.withDeliveries
        ((d.ensure c).1.deliveries ++ later), (d.moveAll ms).2) := by
    intro ms
    obtain ⟨later, hd, hrun⟩ := moveAll_withDeliveries d ms
    refine ⟨later, hd, ?_⟩
    rw [hes]
    exact hrun _
  refine ⟨htold, ?_, hlater, fun ms => ?_⟩
  · rw [hes]
    exact ⟨rfl, fun _ => ⟨rfl, rfl⟩⟩
  · obtain ⟨later, -, hrun⟩ := hlater ms
    rw [hrun]
    rfl

/-- A download is at work, and the file of another artifact is on the classpath. The listener panics
when it is told that this one is present. -/
theorem failed_request_panic :
    let lib (n : String) : Coordinate := ⟨"org", n, some "1.0"⟩
    let listener : Listener := ⟨"l", fun e => match e with
      | .available _ => some ⟨some "broken"⟩
      | _ => none⟩
    let ms : List Move := [.act (.ensure (lib "a")), .look 0, .act (.addFile ⟨"/b-1.0"⟩)]
    let d := ((plain (fun _ _ => ⟨[.gate "g"], .artifacts []⟩) (some listener) none
      ⟨[(["b-1.0"], .file [])], []⟩).moveAll ms).1
    (d.ensure (lib "b")).2 = .error (.panic ⟨some "broken"⟩) ∧ d.inFlight = 1 ∧
      Fails d (lib "b") := by
  intro lib listener ms d
  have hf : (d.ensure (lib "b")).2 = .error (.panic ⟨some "broken"⟩) := by decide +kernel
  exact ⟨hf, by decide +kernel, failed_request hf⟩

end Downloader

end ArtifactFetch
