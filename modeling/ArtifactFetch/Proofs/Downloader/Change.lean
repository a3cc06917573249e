import ArtifactFetch.Proofs.Run

/-! # What can happen to a downloader

A downloader changes with its pool (`Pool.Change`), by what the host does to the files, the
listener, the class loader and the gates, by the events of the caller, and by a new download.
`Change R` lists these, with the coordinates of new downloads among those of which `R` holds. Every
move of a run is a chain of such changes (`changes_move`), so what every change keeps holds
throughout every run (`of_changes`). -/

namespace ArtifactFetch.Downloader

/-- The downloader after a new download was accepted. -/
def accept (d : Downloader) (c : Coordinate) : Downloader :=
  let pool := { d.pool with tasks := d.pool.tasks ++ [Task.new c] }.call [d.pool.tasks.length]
  ({ d with pool := pool } : Downloader).modifyShared fun s =>
    { s with registry := s.registry ++ [(c.key, d.pool.tasks.length)] }

/-- **What can happen to a downloader** while `R` holds of the coordinates that are requested. -/
inductive Change (R : Coordinate → Prop) : Downloader → Downloader → Prop
  | pool {d : Downloader} {p : Pool Shared Coordinate Found Outcome}
    (h : Pool.Change d.config.workload d.pool p) : Change R d { d with pool := p }
  /-- An event of the caller is delivered. -/
  | tell (d : Downloader) (e : Event) : Change R d (d.setClasspath (d.classpath.deliver none e).1)
  | install (d : Downloader) (l : Option Listener) : Change R d (d.setListener l)
  | replace (d : Downloader) (files : FileTree) : Change R d (d.setFiles files)
  | add (d : Downloader) (p : Path) : Change R d (d.addFile p).1
  /-- A download is started that is neither under way nor needless. -/
  | submit {d : Downloader} {c : Coordinate} (hR : R c)
    (hr : d.shared.registry.lookup c.key = none) (hp : d.classpath.lookup c = none)
    (hc : d.pool.closed = false) : Change R d (d.accept c)
  /-- Somebody has waited for a result. -/
  | observe {d : Downloader} {id : Nat} {r : Outcome} (h : d.pool.result? id = some r) :
    Change R d { d with observed := id :: d.observed }

/-- A chain of changes. -/
abbrev Changes (R : Coordinate → Prop) : Downloader → Downloader → Prop :=
  Relation.ReflTransGen (Change R)

/-- A chain of changes, whatever is requested. -/
abbrev Later : Downloader → Downloader → Prop := Changes fun _ => True

variable {R : Coordinate → Prop} {d : Downloader}

open Relation.ReflTransGen (refl single trans)

theorem changes_pool {p : Pool Shared Coordinate Found Outcome}
    (h : Pool.Changes d.config.workload d.pool p) : Changes R d { d with pool := p } := by
  induction h with
  | refl => exact refl
  | tail _ h ih => exact ih.tail (.pool (d := { d with pool := _ }) h)

/-! ### Requests -/

theorem submit_of_open {c : Coordinate} (h : d.pool.closed = false) :
    d.submit c = (d.accept c, .ok (.submitted ⟨c.key, d.pool.tasks.length⟩)) := by
  unfold submit Pool.spawn
  rw [if_neg (by rw [h]; exact Bool.false_ne_true)]
  rfl

theorem submit_of_closed {c : Coordinate} (h : d.pool.closed = true) :
    d.submit c = (d, .error (.error .shuttingDown)) := by
  simp [submit, Pool.spawn, h]

theorem changes_submit {c : Coordinate} (hR : R c) (hr : d.shared.registry.lookup c.key = none)
    (hp : d.classpath.lookup c = none) : Changes R d (d.submit c).1 := by
  rcases hc : d.pool.closed with _ | _
  · rw [submit_of_open hc]
    exact single (.submit hR hr hp hc)
  · rw [submit_of_closed hc]

theorem changes_notifyHit (c : Coordinate) (hit : Hit) :
    Changes R d (d.setClasspath (d.classpath.notifyHit none c hit).1) := by
  unfold Classpath.notifyHit
  split_ifs
  · exact refl
  · exact single (.tell d _)

theorem changes_serve {c : Coordinate} (hR : R c) : Changes R d (d.serve c).1 := by
  unfold serve
  split
  · exact refl
  · next hr =>
    split
    · next hit hp =>
      have h := changes_notifyHit (R := R) (d := d) c hit
      rcases hn : d.classpath.notifyHit none c hit with ⟨cp, _ | p⟩ <;> rw [hn] at h <;> exact h
    · next hp => exact changes_submit hR hr hp

theorem changes_ensure {c : Coordinate} (hR : R c) : Changes R d (d.ensure c).1 := by
  have h := Change.tell (R := R) d (.requested c)
  unfold ensure
  rcases hn : d.classpath.deliver none (.requested c) with ⟨cp, _ | p⟩ <;> rw [hn] at h
  · exact .head h (changes_serve hR)
  · exact single h

theorem changes_alreadyAvailable (c : Coordinate) : Changes R d (d.alreadyAvailable c).1 := by
  unfold alreadyAvailable Classpath.alreadyAvailable
  rcases d.classpath.lookup c with _ | hit
  · exact refl
  · have h := changes_notifyHit (R := R) (d := d) c hit
    dsimp only
    rcases hn : d.classpath.notifyHit none c hit with ⟨cp, _ | p⟩ <;> rw [hn] at h <;> exact h

/-- **What a wait can lead to**: the downloader after it and its answer. -/
inductive Waits (d : Downloader) (h : Handle) (patience : Nat) :
    Downloader × Option Outcome → Prop
  /-- The download has ended by then, and now somebody has seen its result. -/
  | result {r : Outcome}
    (hr : (d.pool.await d.config.workload h.task patience).result? h.task = some r) :
    Waits d h patience ({ d with
      pool := d.pool.await d.config.workload h.task patience
      observed := h.task :: d.observed }, some r)
  | nothing (hr : (d.pool.await d.config.workload h.task patience).result? h.task = none) :
    Waits d h patience
      ({ d with pool := d.pool.await d.config.workload h.task patience }, none)

theorem waits_wait (d : Downloader) (h : Handle) (patience : Nat) :
    Waits d h patience (d.wait h patience) := by
  unfold wait
  dsimp only
  split
  · next r hr => exact .result hr
  · next hr => exact .nothing hr

theorem changes_wait (h : Handle) (patience : Nat) : Changes R d (d.wait h patience).1 := by
  have hp := changes_pool (R := R) (d := d)
    (Pool.changes_await (w := d.config.workload) h.task patience d.pool)
  have hw := waits_wait d h patience
  generalize d.wait h patience = result at hw ⊢
  cases hw with
  | result hr => exact hp.tail (.observe (d := { d with pool := _ }) hr)
  | nothing => exact hp

/-! ### Moves and runs -/

theorem changes_perform {a : Action} (hR : ∀ c, a = .ensure c → R c) :
    Changes R d (d.perform a).1 := by
  cases a with
  | ensure c => exact changes_ensure (hR c rfl)
  | wait h patience => exact changes_wait h patience
  | advance millis => exact changes_pool (Pool.changes_advance millis d.pool)
  | release gate n => exact changes_pool (Pool.changes_releaseGate gate n d.pool)
  | shutdown drain => exact changes_pool (Pool.changes_shutdown drain d.pool)
  | setListener l => exact single (.install d l)
  | setFiles files => exact single (.replace d files)
  | addFile p => exact single (.add d p)
  | inquire c => exact changes_alreadyAvailable c

theorem changes_move {m : Move} (hR : ∀ c, m.request? = some c → R c) :
    Changes R d (d.move m).1 := by
  cases m with
  | act a => exact changes_perform fun c hc => hR c (by rw [hc]; rfl)
  | look id => exact changes_pool (Pool.changes_poll d.pool id)
  | job i => exact changes_pool (Pool.changes_runJobAt i d.pool)
  | tick millis => exact changes_pool (Pool.changes_moveTo (Nat.le_add_right _ _))
  | close => exact changes_pool (single (.close d.pool))
  | cancel =>
    exact changes_pool (.head (.close d.pool) (Pool.changes_cancel { d.pool with closed := true }))
  | lock => exact changes_pool (single (.lock d.pool))

/-- **Every run is a chain of changes.** -/
theorem changes_moveAll : ∀ {ms : List Move} {d : Downloader}, (∀ c ∈ requested ms, R c) →
    Changes R d (d.moveAll ms).1
  | [], d, _ => refl
  | m :: ms, d, hR => by
    have h1 : ∀ c, m.request? = some c → R c := fun c hc => hR c (by simp [requested, hc])
    have h2 : ∀ c ∈ requested ms, R c := fun c hc => by
      refine hR c ?_
      rw [requested, List.filterMap_cons]
      split
      · exact hc
      · exact List.mem_cons_of_mem _ hc
    exact (changes_move h1).trans (changes_moveAll h2)

theorem later_move (d : Downloader) (m : Move) : Later d (d.move m).1 :=
  changes_move fun _ _ => trivial

theorem later_moveAll (d : Downloader) (ms : List Move) : Later d (d.moveAll ms).1 :=
  changes_moveAll fun _ _ => trivial

/-- **What every change keeps holds throughout every run.** -/
theorem of_changes {P : Downloader → Prop} (hP : ∀ d d', Change R d d' → P d → P d')
    {d d' : Downloader} (h : Changes R d d') (hd : P d) : P d' := by
  induction h with
  | refl => exact hd
  | tail _ h ih => exact hP _ _ h ih

theorem config_changes {d d' : Downloader} (hc : Changes R d d') : d'.config = d.config := by
  induction hc with
  | refl => rfl
  | tail _ h ih =>
    rw [← ih]
    cases h <;> rfl

end ArtifactFetch.Downloader
