import ArtifactFetch.Proofs.Downloader.Steps
import ArtifactFetch.Proofs.Pool.Notice

/-! # When a download counts as slow

Two downloaders whose settings differ only in when a download counts as slow have pools that are
alike (`Twins`), and the same actions keep them so (`Twins.perform`): what the host does depends on
nothing else, and what happens while time passes does not either (`Pool.beside_runTo`), as long as
no notice falls due at the very instant at which the time of an action is up, when the task is ready
before the host acts again, and as long as the runtime decides alike between the queues of both.
So nobody can tell one from the other (`notice_unseen`). A runtime that counts its ticks may decide
otherwise, for it has been at work once more when a notice fell due
(`notice_seen_at_thirty_first_tick`). -/

namespace ArtifactFetch

namespace Pool

variable {World Work Job Result : Type} {w w' : Workload World Work Job Result}
  {s s' : Pool World Work Job Result}

theorem orderly_withLimit (w : Workload World Work Job Result) (limit : Nat) (world : World) :
    Orderly w (withLimit limit world) :=
  ⟨(sound_withLimit rfl).1, jobsSound_withLimit limit world,
    inPlace_withLimit w limit world⟩

/-- Two workloads that are the same without a notice do the same to pools that are alike, if each
does the same without a notice. -/
theorem beside_of_silent {decided : List Bool → Bool}
    (op : Workload World Work Job Result → Pool World Work Job Result → Pool World Work Job Result)
    {P : Workload World Work Job Result → Pool World Work Job Result → Prop}
    (hop : ∀ w s s₀, Beside [] s s₀ → P w s → Beside [] (op w s) (op (w.silent decided) s₀))
    (hw : w.silent decided = w'.silent decided) (h : Beside [] s s') (hs : P w s) (hs' : P w' s') :
    Beside [] (op w s) (op w' s') := by
  have hleft := hop w s s' h hs
  have hright := hop w' s' s' (.refl s') hs'
  rw [hw] at hleft
  exact hleft.trans hright.symm

theorem Beside.accept {s s₀ : Pool World Work Job Result} (h : Beside [] s s₀) (work : Work) :
    Beside [] (s.accept work) (s₀.accept work) := by
  have hcore : ∀ s : Pool World Work Job Result,
      Pool.core { s with tasks := s.tasks ++ [Task.new work] } =
        { s.core with tasks := s.core.tasks ++ [Task.new work] } := fun s => by
    unfold Pool.core
    dsimp only
    rw [List.map_append]
    rfl
  have htasks : Beside [] { s with tasks := s.tasks ++ [Task.new work] }
      { s₀ with tasks := s₀.tasks ++ [Task.new work] } := by
    refine h.of ?_ rfl rfl rfl rfl
    rw [hcore, hcore, h.core]
  unfold Pool.accept
  rw [← h.length]
  exact htasks.call _

theorem Beside.releaseGate {s s₀ : Pool World Work Job Result} (h : Beside [] s s₀) (name : String)
    (n : Nat) : Beside [] (s.releaseGate name n) (s₀.releaseGate name n) := by
  unfold Pool.releaseGate
  rw [← h.gate]
  exact (h.setGate name rfl).call _

end Pool

namespace Downloader

/-- The builder with another instant from which on a download counts as slow. -/
def Builder.noticing (b : Builder) (secs : UInt64) : Builder :=
  { b with settings := { b.settings with slowDownloadNoticeSecs := secs } }

/-- The downloader when the time of an action is up. What a shutdown abandons after that takes no
time. -/
def timeUp (d : Downloader) : Action → Downloader
  | .shutdown window => d.closing window
  | a => (d.perform a).1

/-- **Notices come apart from the host**: in a session, none falls due at the very instant at which
the time of an action is up. -/
def NoticesApart (d : Downloader) : List Action → Prop
  | [] => True
  | a :: as => Pool.Unhurried d.config.workload (d.timeUp a).pool ∧ NoticesApart (d.perform a).1 as

instance decidableNoticesApart :
    ∀ (as : List Action) (d : Downloader), Decidable (d.NoticesApart as)
  | [], _ => isTrue trivial
  | a :: as, d =>
    have := decidableNoticesApart as (d.perform a).1
    inferInstanceAs (Decidable (_ ∧ _))

/-- **Nobody can tell two downloaders apart**: they share the same, with what listeners were told
and with the entries of the class loader, have the same downloads in flight with the same results,
which started and finished in the same order, and show themselves alike. -/
structure LooksLike (d d' : Downloader) : Prop where
  shared : d'.shared = d.shared
  history : d'.pool.history = d.pool.history
  inFlight : d'.inFlight = d.inFlight
  result? : ∀ h, d'.result? h = d.result? h
  peek : ∀ h, d'.peek h = d.peek h
  describe : d'.describe = d.describe

theorem LooksLike.entries {d d' : Downloader} (h : LooksLike d d') :
    d'.classpath.loader.entries = d.classpath.loader.entries :=
  congrArg (fun s => s.classpath.loader.entries) h.shared

/-- Two downloaders that differ only in when a download counts as slow, in who was noticed and in
how often the runtime has been at work. -/
structure Twins (d d' : Downloader) : Prop where
  silent : ∀ decided, d.config.workload.silent decided = d'.config.workload.silent decided
  pool : Pool.Beside [] d.pool d'.pool
  observed : d.observed = d'.observed

variable {d d' : Downloader}

namespace Twins

variable (h : Twins d d')
include h

theorem shared : d.shared = d'.shared := h.pool.world

theorem classpath : d.classpath = d'.classpath := congrArg Shared.classpath h.shared

theorem looksLike : LooksLike d d' where
  shared := h.shared.symm
  history := (congrArg (fun p => p.history) h.pool.core).symm
  inFlight := congrArg (fun s => s.registry.length) h.shared.symm
  result? hd := (h.pool.result? hd.task).symm
  peek hd := by
    unfold Downloader.peek Downloader.result?
    rw [h.observed, h.pool.result?]
  describe := by
    have hlimit : d.pool.limit = d'.pool.limit := congrArg (fun p => p.limit) h.pool.core
    unfold Downloader.describe Pool.describe inFlight
    rw [h.classpath, h.shared, hlimit, h.pool.active, h.pool.closed]

theorem modifyShared (f : Shared → Shared) : Twins (d.modifyShared f) (d'.modifyShared f) :=
  ⟨h.silent, h.pool.withWorld (congrArg f h.pool.world), h.observed⟩

theorem setClasspath (cp : Classpath) : Twins (d.setClasspath cp) (d'.setClasspath cp) :=
  h.modifyShared _

/-- Their pools go on alike. -/
theorem withPool {p p' : DownloadPool} (hp : Pool.Beside [] p p') :
    Twins { d with pool := p } { d' with pool := p' } := ⟨h.silent, hp, h.observed⟩

/-! ### What the host does -/

theorem accept (c : Coordinate) : Twins (d.accept c) (d'.accept c) := by
  have hnew := (h.withPool (h.pool.accept c)).modifyShared fun s =>
    { s with registry := s.registry ++ [(c.key, d.pool.tasks.length)] }
  rw [h.pool.length] at hnew
  have he : ({ d with pool := d.pool.accept c } : Downloader).modifyShared (fun s =>
      { s with registry := s.registry ++ [(c.key, d'.pool.tasks.length)] }) = d.accept c := by
    rw [← h.pool.length]
    rfl
  exact he ▸ hnew

theorem submit (c : Coordinate) :
    Twins (d.submit c).1 (d'.submit c).1 ∧ (d.submit c).2 = (d'.submit c).2 := by
  rcases hc : d.pool.closed with _ | _ <;> have hc' := h.pool.closed.symm.trans hc
  · rw [submit_of_open hc, submit_of_open hc', ← h.pool.length]
    exact ⟨h.accept c, rfl⟩
  · rw [submit_of_closed hc, submit_of_closed hc']
    exact ⟨h, rfl⟩

theorem serve (c : Coordinate) :
    Twins (d.serve c).1 (d'.serve c).1 ∧ (d.serve c).2 = (d'.serve c).2 := by
  unfold Downloader.serve
  rw [h.shared, h.classpath]
  rcases d'.shared.registry.lookup c.key with _ | id
  · rcases d'.classpath.lookup c with _ | hit
    · exact h.submit c
    · dsimp only
      rcases d'.classpath.notifyHit none c hit with ⟨cp, _ | p⟩
      · exact ⟨h.setClasspath cp, rfl⟩
      · exact ⟨h.setClasspath cp, rfl⟩
  · exact ⟨h, rfl⟩

theorem ensure (c : Coordinate) :
    Twins (d.ensure c).1 (d'.ensure c).1 ∧ (d.ensure c).2 = (d'.ensure c).2 := by
  unfold Downloader.ensure
  rw [h.classpath]
  rcases d'.classpath.deliver none (.requested c) with ⟨cp, _ | p⟩
  · exact (h.setClasspath cp).serve c
  · exact ⟨h.setClasspath cp, rfl⟩

theorem addFile (p : Path) :
    Twins (d.addFile p).1 (d'.addFile p).1 ∧ (d.addFile p).2 = (d'.addFile p).2 := by
  unfold Downloader.addFile
  rw [h.classpath, h.shared]
  exact ⟨h.setClasspath _, rfl⟩

theorem alreadyAvailable (c : Coordinate) :
    Twins (d.alreadyAvailable c).1 (d'.alreadyAvailable c).1 ∧
      (d.alreadyAvailable c).2 = (d'.alreadyAvailable c).2 := by
  unfold Downloader.alreadyAvailable
  rw [h.classpath]
  exact ⟨h.setClasspath _, rfl⟩

/-! ### While time passes -/

variable (ho : Pool.Orderly d.config.workload d.pool)
  (ho' : Pool.Orderly d'.config.workload d'.pool) {decided : List Bool → Bool}
include ho ho'

/-- Pools to which the same happens, whether anything is noticed or not, and in which it is not. -/
theorem time (op : Workload Shared Coordinate Found Outcome → DownloadPool → DownloadPool)
    (hop : ∀ w s s₀, Pool.Beside [] s s₀ → Pool.Orderly w s ∧ Pool.Unhurried w (op w s) ∧
      Pool.Heeds decided (op w s).contests →
        Pool.Beside [] (op w s) (op (w.silent decided) s₀))
    (hu : Pool.Unhurried d.config.workload (op d.config.workload d.pool))
    (hu' : Pool.Unhurried d'.config.workload (op d'.config.workload d'.pool))
    (hk : Pool.Heeds decided (op d.config.workload d.pool).contests)
    (hk' : Pool.Heeds decided (op d'.config.workload d'.pool).contests) :
    Pool.Beside [] (op d.config.workload d.pool) (op d'.config.workload d'.pool) :=
  Pool.beside_of_silent (P := fun w s => Pool.Orderly w s ∧ Pool.Unhurried w (op w s) ∧
    Pool.Heeds decided (op w s).contests) op hop (h.silent decided) h.pool ⟨ho, hu, hk⟩
      ⟨ho', hu', hk'⟩

theorem advance {millis : Nat}
    (hu : Pool.Unhurried d.config.workload (d.advance millis).pool)
    (hu' : Pool.Unhurried d'.config.workload (d'.advance millis).pool)
    (hk : Pool.Heeds decided (d.advance millis).pool.contests)
    (hk' : Pool.Heeds decided (d'.advance millis).pool.contests) :
    Twins (d.advance millis) (d'.advance millis) :=
  h.withPool (h.time ho ho' (fun w s => s.advance w millis)
    (fun _ _ _ hb hp => Pool.beside_advance hb hp.1 hp.2.1 hp.2.2) hu hu' hk hk')

theorem wait {hd : Handle} {patience : Nat}
    (hu : Pool.Unhurried d.config.workload (d.wait hd patience).1.pool)
    (hu' : Pool.Unhurried d'.config.workload (d'.wait hd patience).1.pool)
    (hk : Pool.Heeds decided (d.wait hd patience).1.pool.contests)
    (hk' : Pool.Heeds decided (d'.wait hd patience).1.pool.contests) :
    Twins (d.wait hd patience).1 (d'.wait hd patience).1 ∧
      (d.wait hd patience).2 = (d'.wait hd patience).2 := by
  rw [pool_wait] at hu hu' hk hk'
  have hp := h.time ho ho' (fun w s => s.await w hd.task patience)
    (fun _ _ _ hb hp => Pool.beside_await hb hp.1 hp.2.1 hp.2.2) hu hu' hk hk'
  have hr := hp.result? hd.task
  unfold Downloader.wait
  dsimp only at hr ⊢
  rw [hr]
  cases (d'.pool.await d'.config.workload hd.task patience).result? hd.task with
  | none => exact ⟨h.withPool hp, rfl⟩
  | some r => exact ⟨⟨h.silent, hp, congrArg (hd.task :: ·) h.observed⟩, rfl⟩

theorem shutdown {window : Nat}
    (hu : Pool.Unhurried d.config.workload (d.closing window).pool)
    (hu' : Pool.Unhurried d'.config.workload (d'.closing window).pool)
    (hk : Pool.Heeds decided (d.shutdown window).1.pool.contests)
    (hk' : Pool.Heeds decided (d'.shutdown window).1.pool.contests) :
    Twins (d.shutdown window).1 (d'.shutdown window).1 ∧
      (d.shutdown window).2 = (d'.shutdown window).2 := by
  have hclosing : ∀ d : Downloader, Pool.Heeds decided (d.shutdown window).1.pool.contests →
      Pool.Heeds decided (d.closing window).pool.contests := fun d hk =>
    hk.before (Pool.contests_grow_of_steps (w := d.config.workload)
      ((Pool.steps_tearDown _).trans (Pool.lapses_settle _).steps))
  have hdrain := h.time ho ho' (fun w s => s.drain w window)
    (fun _ _ _ hb hp => Pool.beside_drain hb hp.1 hp.2.1 hp.2.2) hu hu' (hclosing d hk)
    (hclosing d' hk')
  have hsteps : ∀ d : Downloader, Pool.Steps d.config.workload d.pool (d.closing window).pool :=
    fun d => .head (.close d.pool) (Pool.lapses_drain window d.pool).steps
  have habandon := Pool.beside_of_silent
    (P := fun w s => Pool.Orderly w s ∧ Pool.Heeds decided (s.abandon w).contests)
    (fun w s => s.abandon w) (fun _ _ _ hb hp => Pool.beside_abandon hb hp.1 hp.2)
    (h.silent decided) hdrain ⟨ho.steps (hsteps d), hk⟩ ⟨ho'.steps (hsteps d'), hk'⟩
  refine ⟨h.withPool habandon, ?_⟩
  show (⟨_, _⟩ : Pool.ShutdownReport) = ⟨_, _⟩
  rw [hdrain.active]

/-- **The same action** is answered alike by both, and they stay twins. -/
theorem perform {a : Action} (hu : Pool.Unhurried d.config.workload (d.timeUp a).pool)
    (hu' : Pool.Unhurried d'.config.workload (d'.timeUp a).pool)
    (hk : Pool.Heeds decided (d.perform a).1.pool.contests)
    (hk' : Pool.Heeds decided (d'.perform a).1.pool.contests) :
    Twins (d.perform a).1 (d'.perform a).1 ∧ (d.perform a).2 = (d'.perform a).2 := by
  cases a with
  | ensure c => exact (h.ensure c).imp_right (congrArg Response.ensured)
  | wait hd patience => exact (h.wait ho ho' hu hu' hk hk').imp_right (congrArg Response.waited)
  | advance millis => exact ⟨h.advance ho ho' hu hu' hk hk', rfl⟩
  | release gate n => exact ⟨h.withPool (h.pool.releaseGate gate n), rfl⟩
  | shutdown window =>
    exact (h.shutdown ho ho' hu hu' hk hk').imp_right (congrArg Response.closed)
  | setListener l =>
    refine ⟨?_, rfl⟩
    show Twins (d.setClasspath _) (d'.setClasspath _)
    rw [h.classpath]
    exact h.setClasspath _
  | setFiles files => exact ⟨h.modifyShared fun s => { s with files := files }, rfl⟩
  | addFile p => exact (h.addFile p).imp_right (congrArg Response.added)
  | inquire c => exact (h.alreadyAvailable c).imp_right (congrArg Response.present)

end Twins

/-! ### Sessions -/

theorem config_perform (d : Downloader) (a : Action) : (d.perform a).1.config = d.config :=
  config_changes (changes_perform (R := fun _ => True) fun _ _ => trivial)

theorem orderly_perform (ho : Pool.Orderly d.config.workload d.pool) (a : Action) :
    Pool.Orderly (d.perform a).1.config.workload (d.perform a).1.pool := by
  rw [config_perform]
  exact ho.steps (steps_move d (.act a)).pool

/-- A session is a run of the pool. -/
theorem steps_performAll : ∀ (as : List Action) (d : Downloader),
    Pool.Steps d.config.workload d.pool (d.performAll as).1.pool
  | [], _ => .refl
  | a :: as, d => by
    have hrest := steps_performAll as (d.perform a).1
    rw [config_perform] at hrest
    exact (Steps.pool (steps_move d (.act a))).trans hrest

/-- **The same session** is answered alike by both, and they stay twins. -/
theorem Twins.performAll {decided : List Bool → Bool} : ∀ (as : List Action) {d d' : Downloader},
    Twins d d' → Pool.Orderly d.config.workload d.pool → Pool.Orderly d'.config.workload d'.pool →
      d.NoticesApart as → d'.NoticesApart as →
        Pool.Heeds decided (d.performAll as).1.pool.contests →
          Pool.Heeds decided (d'.performAll as).1.pool.contests →
            Twins (d.performAll as).1 (d'.performAll as).1 ∧
              (d.performAll as).2 = (d'.performAll as).2
  | [], _, _, h, _, _, _, _, _, _ => ⟨h, rfl⟩
  | a :: as, d, d', h, ho, ho', hn, hn', hk, hk' => by
    obtain ⟨hnow, hlater⟩ := hn
    obtain ⟨hnow', hlater'⟩ := hn'
    have hfirst : ∀ d : Downloader, Pool.Heeds decided (d.performAll (a :: as)).1.pool.contests →
        Pool.Heeds decided (d.perform a).1.pool.contests := fun d hk =>
      hk.before (Pool.contests_grow_of_steps (steps_performAll as (d.perform a).1))
    obtain ⟨htwins, hr⟩ := h.perform ho ho' hnow hnow' (hfirst d hk) (hfirst d' hk')
    obtain ⟨htwins', hrs⟩ := Twins.performAll as htwins (orderly_perform ho a)
      (orderly_perform ho' a) hlater hlater' hk hk'
    exact ⟨htwins', congrArg₂ List.cons hr hrs⟩

/-- The beginning of a session is a session. -/
theorem NoticesApart.take : ∀ {as : List Action} {d : Downloader} (n : Nat), d.NoticesApart as →
    d.NoticesApart (as.take n)
  | _, _, 0, _ => trivial
  | [], _, _ + 1, _ => trivial
  | _ :: _, _, n + 1, h => ⟨h.1, h.2.take n⟩

theorem contests_take : ∀ (as : List Action) (n : Nat) (d : Downloader),
    (d.performAll (as.take n)).1.pool.contests <+: (d.performAll as).1.pool.contests
  | as, 0, d => Pool.contests_grow_of_steps (steps_performAll as d)
  | [], _ + 1, _ => List.prefix_refl _
  | a :: as, n + 1, d => contests_take as n (d.perform a).1

/-- The downloader with another instant from which on a download counts as slow. -/
def noticing (d : Downloader) (secs : UInt64) : Downloader :=
  { d with config :=
    { d.config with settings := { d.config.settings with slowDownloadNoticeSecs := secs } } }

theorem build_noticing (b : Builder) (secs : UInt64) (files : FileTree)
    (environment : String → Option Bytes) :
    (b.noticing secs).build files environment =
      (b.build files environment).map (noticing · secs) := by
  obtain ⟨settings, boot, loader, listener, _ | _, timeout, resolver, runtime⟩ := b
  · rfl
  · have hlimit : ∀ settings : Settings,
        ({ settings with slowDownloadNoticeSecs := secs } : Settings).workerLimit =
          settings.workerLimit := fun _ => rfl
    unfold Builder.build Pool.create
    simp only [Builder.noticing, hlimit]
    by_cases hl : Pool.maxSlots < settings.workerLimit
    · simp only [hl]
      rfl
    · simp only [hl]
      rfl

/-- What download tasks do does not depend on it but for the notice. -/
theorem silent_noticing (d : Downloader) (secs : UInt64) (decided : List Bool → Bool) :
    (d.noticing secs).config.workload.silent decided = d.config.workload.silent decided := by
  have hask : (d.noticing secs).config.ask = d.config.ask := rfl
  have hregister : (d.noticing secs).config.registerFound = d.config.registerFound := rfl
  have htimedOut : (d.noticing secs).config.timedOut = d.config.timedOut := rfl
  unfold Config.workload Workload.silent
  rw [hask, hregister, htimedOut]
  rfl

theorem twins_noticing (d : Downloader) (secs : UInt64) : Twins d (d.noticing secs) :=
  ⟨fun decided => (silent_noticing d secs decided).symm, .refl _, rfl⟩

theorem orderly_of_build {b : Builder} {files : FileTree} {environment : String → Option Bytes}
    (hb : b.build files environment = .ok d) : Pool.Orderly d.config.workload d.pool := by
  obtain ⟨world, hp⟩ := limit_of_build hb
  rw [hp]
  exact Pool.orderly_withLimit _ _ _

/-- **The runtime decides alike** for both in a session: whenever tasks stood in both queues, a task
of the same queue was next. -/
def SameDecisions (d d' : Downloader) (as : List Action) : Prop :=
  (d'.performAll as).1.pool.contests = (d.performAll as).1.pool.contests

instance (d d' : Downloader) (as : List Action) : Decidable (SameDecisions d d' as) :=
  inferInstanceAs (Decidable (_ = _))

/-- Then what was decided can be laid down, also if the runtime does not count its ticks. -/
theorem exists_heeded {b : Builder} {files : FileTree} {environment : String → Option Bytes}
    (hb : b.build files environment = .ok d) (secs : UInt64) {as : List Action}
    (hr : (∀ n n', b.runtime.outsideFirst n = b.runtime.outsideFirst n') ∨
      SameDecisions d (d.noticing secs) as) :
    ∃ decided, Pool.Heeds decided (d.performAll as).1.pool.contests ∧
      Pool.Heeds decided ((d.noticing secs).performAll as).1.pool.contests := by
  obtain hr | hr := hr
  · obtain ⟨boot, loader, rfl⟩ := eq_of_build hb
    have hnone : Pool.Heeds (b.runtime.outsideFirst 0) [] := fun before x h =>
      absurd (List.prefix_nil.mp h) (List.append_ne_nil_of_right_ne_nil _ (List.cons_ne_nil _ _))
    have hw : ∀ n before, b.runtime.outsideFirst n before = b.runtime.outsideFirst 0 before :=
      fun n before => by rw [hr n 0]
    exact ⟨b.runtime.outsideFirst 0, Pool.heeds_steps hw (steps_performAll as _) hnone,
      Pool.heeds_steps hw (steps_performAll as _) hnone⟩
  · refine ⟨_, Pool.heeds_self _, ?_⟩
    rw [hr]
    exact Pool.heeds_self _

end Downloader

end ArtifactFetch
