import ArtifactFetch.Proofs.Downloader.Shutdown
import ArtifactFetch.Proofs.Pool.Looking

/-! # Runs in steps

A change of a downloader may be a part of what happens while a task is looked at. A `Step` is not: a
task is looked at for as long as it goes on, or the host does something. Every run is a chain of
steps (`steps_moveAll`), and every step is one of the pool as well, so what the steps of a pool keep
holds throughout every run: its slots are accounted for (`slotsAccounted_moveAll`), and tasks whose
job was run are called (`reportsSound_moveAll`). -/

namespace ArtifactFetch

namespace Pool

variable {World Work Job Result : Type} {w : Workload World Work Job Result}
  {s s' : Pool World Work Job Result}

/-- A pool that was just made is in order. -/
theorem sound_withLimit {limit : Nat} {world : World} (h : s = withLimit limit world) :
    SlotsSound s ∧ StartsSound s ∧ (∀ i, s.Attends i) ∧ ReportsSound s := by
  subst h
  refine ⟨⟨rfl, Turnstile.sound_withFree _, fun i hi => ?_⟩, startsSound_withLimit limit world,
    fun i => ⟨fun hi => ?_, fun hi => ?_⟩, fun i c r hi => ?_⟩
  · simp [Turnstile.Holds, withLimit, Turnstile.withFree] at hi
  · simp [places, stages, withLimit] at hi
  · simp [withLimit, Turnstile.withFree] at hi
  · simp [stages, withLimit] at hi

theorem limit_of_steps (h : Steps w s s') : s'.limit = s.limit :=
  of_steps (P := fun s' => s'.limit = s.limit) (fun _ _ h hl => h.limit.trans hl)
    (fun _ _ hl => hl) (fun _ _ hl => hl) h rfl

end Pool

namespace Downloader

variable {d d' : Downloader} {c : Coordinate}

/-- **One step of a downloader.** -/
inductive Step (d : Downloader) : Downloader → Prop
  /-- The pool makes a step of its own. -/
  | pool {p : DownloadPool} (h : Pool.Step d.config.workload d.pool p)
    (hc : Pool.Changes d.config.workload d.pool p) : Step d { d with pool := p }
  /-- The host does something. -/
  | host {d' : Downloader} (h : Change (fun _ => True) d d')
    (hp : Pool.Steps d.config.workload d.pool d'.pool)
    (hh : d'.pool.history = d.pool.history) : Step d d'

/-- A chain of steps. -/
abbrev Steps : Downloader → Downloader → Prop := Relation.ReflTransGen Step

open Relation.ReflTransGen (refl single)

theorem Step.later (h : Step d d') : Later d d' := by
  cases h with
  | pool _ hc => exact changes_pool hc
  | host h => exact single h

theorem Step.poolSteps (h : Step d d') : Pool.Steps d.config.workload d.pool d'.pool := by
  cases h with
  | pool h => exact single h
  | host _ hp => exact hp

theorem Steps.later (h : Steps d d') : Later d d' := by
  induction h with
  | refl => exact refl
  | tail _ h ih => exact ih.trans h.later

theorem Steps.pool (h : Steps d d') : Pool.Steps d.config.workload d.pool d'.pool := by
  induction h with
  | refl => exact refl
  | tail hs h ih =>
    have hstep := h.poolSteps
    rw [config_changes (Steps.later hs)] at hstep
    exact ih.trans hstep

/-! ### Moves are made of steps -/

theorem step_told (d : Downloader) (c : Coordinate) : Step d (d.told c) :=
  .host (.tell d _) (single (.touch d.pool _)) rfl

theorem steps_notifyHit (d : Downloader) (c : Coordinate) (hit : Hit) :
    Steps d (d.setClasspath (d.classpath.notifyHit none c hit).1) := by
  unfold Classpath.notifyHit
  split_ifs
  · exact refl
  · exact single (.host (.tell d _) (single (.touch d.pool _)) rfl)

theorem steps_ensure (d : Downloader) (c : Coordinate) : Steps d (d.ensure c).1 := by
  have htold := step_told d c
  have he := ensures_ensure d c
  generalize d.ensure c = r at he ⊢
  cases he with
  | requestPanic | join | refuse => exact single htold
  | @skip hit cp hr hp hn | @skipPanic hit cp p hr hp hn =>
    have hnotify := steps_notifyHit (d.told c) c hit
    rw [hn] at hnotify
    exact .head htold hnotify
  | submit hr hp hc =>
    have hspawn := Pool.Step.spawn (w := d.config.workload) (d.told c).pool c hc
    exact .head htold (single (.host (.submit trivial hr hp hc)
      (.head hspawn (single (.touch _ _))) rfl))

theorem steps_lapses {p : DownloadPool} (h : Pool.Lapses d.config.workload d.pool p) :
    Steps d { d with pool := p } := by
  induction h with
  | refl => exact refl
  | tail _ h ih => exact ih.tail (.pool (d := { d with pool := _ }) h.step h.changes)

theorem steps_wait (d : Downloader) (h : Handle) (patience : Nat) :
    Steps d (d.wait h patience).1 := by
  have hp := steps_lapses (Pool.lapses_await (w := d.config.workload) h.task patience d.pool)
  have hw := waits_wait d h patience
  generalize d.wait h patience = result at hw ⊢
  cases hw with
  | result hr => exact hp.tail (.host (.observe (d := { d with pool := _ }) hr) refl rfl)
  | nothing => exact hp

theorem steps_shutdown (d : Downloader) (window : Nat) : Steps d (d.shutdown window).1 := by
  have hdrain := steps_lapses (d := { d with pool := { d.pool with closed := true } })
    (Pool.lapses_drain window d.pool)
  have hsettle := steps_lapses (d := { d with pool := (d.closing window).pool.tearDown })
    (Pool.lapses_settle _)
  refine .head (.pool (.close d.pool) (single (.close d.pool))) (hdrain.trans (.trans ?_ hsettle))
  rw [Pool.tearDown_eq]
  exact .tail (single (.pool (d := d.closing window) (.cancel _) (Pool.changes_cancel _)))
    (.pool (d := { d.closing window with pool := _ }) (.lock _) (single (.lock _)))

theorem steps_inquire (d : Downloader) (c : Coordinate) : Steps d (d.alreadyAvailable c).1 := by
  unfold alreadyAvailable Classpath.alreadyAvailable
  rcases d.classpath.lookup c with _ | hit
  · exact refl
  · have h := steps_notifyHit d c hit
    dsimp only
    rcases hn : d.classpath.notifyHit none c hit with ⟨cp, _ | p⟩ <;> rw [hn] at h <;> exact h

theorem steps_move (d : Downloader) (m : Move) : Steps d (d.move m).1 := by
  cases m with
  | act a =>
    cases a with
    | ensure c => exact steps_ensure d c
    | wait h patience => exact steps_wait d h patience
    | advance millis => exact steps_lapses (Pool.lapses_advance millis d.pool)
    | release gate n =>
      exact single (.pool (.release d.pool gate n) (Pool.changes_releaseGate gate n d.pool))
    | shutdown window => exact steps_shutdown d window
    | setListener l => exact single (.host (.install d l) (single (.touch d.pool _)) rfl)
    | setFiles files => exact single (.host (.replace d files) (single (.touch d.pool _)) rfl)
    | addFile p => exact single (.host (.add d p) (single (.touch d.pool _)) rfl)
    | inquire c => exact steps_inquire d c
  | look id => exact single (.pool (.look d.pool id) (Pool.changes_poll d.pool id))
  | job i => exact single (.pool (.job d.pool i) (Pool.changes_runJobAt i d.pool))
  | tick millis =>
    exact single (.pool (.tick (Nat.le_add_right _ _)) (Pool.changes_moveTo (Nat.le_add_right _ _)))
  | close => exact single (.pool (.close d.pool) (single (.close d.pool)))
  | cancel =>
    refine .head (.pool (.close d.pool) (single (.close d.pool))) (single ?_)
    exact .pool (d := { d with pool := { d.pool with closed := true } }) (.cancel _)
      (Pool.changes_cancel _)
  | lock => exact single (.pool (.lock d.pool) (single (.lock d.pool)))

/-- **Every run is a chain of steps.** -/
theorem steps_moveAll : ∀ (ms : List Move) (d : Downloader), Steps d (d.moveAll ms).1
  | [], _ => refl
  | m :: ms, d => (steps_move d m).trans (steps_moveAll ms _)

/-! ### What holds throughout every run -/

/-- A downloader that was just made has as many slots as its settings say. -/
theorem limit_of_build {b : Builder} {files : FileTree} {environment : String → Option Bytes}
    (h : b.build files environment = .ok d) : ∃ world : Shared,
      d.pool = .withLimit b.settings.workerLimit world := by
  obtain ⟨boot, loader, rfl⟩ := eq_of_build h
  exact ⟨_, rfl⟩

/-- **The slots of a downloader are accounted for** in every state of every run. -/
theorem slotsAccounted_moveAll {b : Builder} {files : FileTree}
    {environment : String → Option Bytes} (h : b.build files environment = .ok d)
    (ms : List Move) : Pool.SlotsAccounted b.settings.workerLimit (d.moveAll ms).1.pool := by
  obtain ⟨world, hp⟩ := limit_of_build h
  have hrun := Steps.pool (steps_moveAll ms d)
  obtain ⟨hslots, hstarts, hattends, -⟩ := Pool.sound_withLimit hp
  have hlimit : (d.moveAll ms).1.pool.limit = b.settings.workerLimit := by
    rw [Pool.limit_of_steps hrun, hp]
    exact Nat.max_eq_left (Nat.le_max_right _ _)
  rw [← hlimit]
  exact Pool.accounted_of_sound (Pool.slotsSound_steps hrun hslots)
    (Pool.startsSound_steps hrun hstarts) (Pool.attends_steps hrun hslots hattends)

/-- A task whose job was run is called, in every state of every run. -/
theorem reportsSound_moveAll {b : Builder} {files : FileTree}
    {environment : String → Option Bytes} (h : b.build files environment = .ok d)
    (ms : List Move) : Pool.ReportsSound (d.moveAll ms).1.pool := by
  obtain ⟨world, hp⟩ := limit_of_build h
  exact Pool.reportsSound_steps (Steps.pool (steps_moveAll ms d)) (Pool.sound_withLimit hp).2.2.2

end Downloader

end ArtifactFetch
