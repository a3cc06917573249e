import ArtifactFetch.Proofs.Downloader.Additions
import ArtifactFetch.Proofs.Downloader.Notice
import ArtifactFetch.Proofs.Pool.Times

/-! # How long downloads work

A download may work for a limited time, counted from the instant at which it gets its slot. When
nothing can happen before the clock moves, none has worked for so long, and a download that fails
because of the limit has worked for so long at least; the time for which it stood in line before
does not count (`limit_kept`).

The resolver is not to answer with a timeout of its own (`Resolver.Punctual`). A class loader of the
host might fail with one, which then is the failure of the download, so it is not to do that either
(`ClassLoader.Punctual`); nothing else that is checked or registered does
(`registerFound_punctual`). So all timeouts come from the limit, and a download that ends because of
it keeps both instants (`Timed`). -/

namespace ArtifactFetch

/-- The download has failed with a timeout. -/
def IsTimeout (r : Outcome) : Prop := ∃ key after, r = .error (.timeout key after)

/-- The first instant at which a span is over is not before its last nanosecond. -/
theorem nanos_le_of_after {start time : Nat} {after : Duration}
    (h : Instant.after start after ≤ time) : start * 1000000 + after.nanos ≤ time * 1000000 := by
  have hnanos := after.nanos_le_ceilMillis
  have hle : start + after.ceilMillis ≤ time := h
  omega

/-! ### Timeouts of others -/

/-- Some file makes the class loader fail so. -/
def ClassLoader.FailsWith (l : ClassLoader) (e : FetchError) : Prop :=
  ∃ t p, l.check t p = .error (.error e)

/-- The class loader fails with no timeout of its own. -/
def ClassLoader.Punctual (l : ClassLoader) : Prop :=
  ∀ key after, ¬ l.FailsWith (.timeout key after)

/-- The class loader that accepts every regular file fails with no timeout. -/
theorem ClassLoader.punctual_regular : ClassLoader.regular.Punctual := by
  rintro key after ⟨t, p, h⟩
  have hcheck : ClassLoader.checkRegular t p = .error (.error (.timeout key after)) := h
  unfold ClassLoader.checkRegular at hcheck
  split at hcheck <;> cases hcheck

theorem ClassLoader.Punctual.of_check {l l' : ClassLoader} (hl : l.Punctual)
    (h : l'.check = l.check) : l'.Punctual := by
  rintro key after ⟨t, p, hp⟩
  exact hl key after ⟨t, p, by rwa [← h]⟩

/-- No call of the resolver is answered with a timeout. -/
def Resolver.Punctual (resolver : Resolver) : Prop :=
  ∀ earlier request key after, (resolver earlier request).answer ≠ .error (.timeout key after)

section Checks
variable {t : FileTree} {a : Artifact} {key : String} {after : Duration}

theorem Artifact.verify_punctual : a.verify t ≠ .error (.timeout key after) := by
  intro h
  unfold Artifact.verify at h
  split at h
  · next e he =>
    cases h
    unfold Artifact.checkDigest at he
    split at he
    · cases he
    · split at he
      · cases he
      · dsimp only at he
        split_ifs at he
        cases he
  · unfold Artifact.checkArchive at h
    split at h
    · cases h
    · split_ifs at h
      split at h
      · cases h
      · split at h <;> cases h
      · cases h

theorem Artifact.verifyAll_punctual : ∀ as : List Artifact,
    Artifact.verifyAll t as ≠ .error (.timeout key after)
  | [], h => by cases h
  | a :: as, h => by
    unfold Artifact.verifyAll at h
    split at h
    · next e he =>
      cases h
      exact Artifact.verify_punctual he
    · exact Artifact.verifyAll_punctual as h

end Checks

namespace Registration

variable {t : FileTree} {task : Option Nat} {cp : Classpath} {s : Summary} {r : Registered}
  {as : List Artifact} {e : FetchError}

/-- A registration that fails without a panic fails because the class loader does. -/
theorem Registers.failsWith (h : Registers t task as cp s r)
    (hr : r.result = .error (.error e)) : cp.loader.FailsWith e := by
  induction h with
  | done | reportPanic | addPanic => cases hr
  | refuse _ ha =>
    cases hr
    exact ⟨t, _, Classpath.check_of_addFile ha⟩
  | report _ hn _ ih =>
    obtain ⟨t', p, hp⟩ := ih hr
    exact ⟨t', p, by rwa [(Classpath.grows_of_notifyHit hn).check] at hp⟩
  | add _ ha hn _ ih =>
    obtain ⟨t', p, hp⟩ := ih hr
    have hg := (Classpath.grows_of_addFile ha).trans (Classpath.grows_of_deliver hn)
    exact ⟨t', p, by rwa [hg.check] at hp⟩

theorem failsWith_of_all {verify : Bool} {root : Coordinate} {key : String} {after : Duration}
    (hr : (all t task verify root as cp).result = .error (.error (.timeout key after))) :
    cp.loader.FailsWith (.timeout key after) := by
  obtain ⟨e, -, he, hall⟩ | ⟨-, hall⟩ := all_eq t task verify root as cp
  · rw [hall] at hr
    cases hr
    exact absurd he (Artifact.verifyAll_punctual _)
  · rw [hall] at hr
    exact (registers_each _ _ _).failsWith hr

end Registration

variable {config : Config} {id : Nat}

/-- The job of a download does not report a timeout. -/
theorem registerFound_punctual {s : Shared} (hl : s.classpath.loader.Punctual) (found : Found) :
    ¬ IsTimeout (config.registerFound id found s).2 := by
  rintro ⟨key, after, hr⟩
  unfold Config.registerFound at hr
  dsimp only at hr
  split at hr
  · cases hr
  · next e he =>
    cases hr
    exact hl key after (Registration.failsWith_of_all he)
  · cases hr

/-- The work of a download that was begun does not end with a timeout by itself. -/
theorem ask_punctual (hr : config.resolver.Punctual) (id : Nat) (c : Coordinate) (s : Shared)
    {r : Outcome} (he : (config.ask id c s).2.ending = .done r) : ¬ IsTimeout r := by
  rintro ⟨key, after, rfl⟩
  have hanswer := hr s.requests (Request.for config.settings c) key after
  change Config.ending c (config.resolver s.requests (Request.for config.settings c)).answer = _
    at he
  generalize (config.resolver s.requests (Request.for config.settings c)).answer = a at he hanswer
  cases a with
  | artifacts => cases he
  | panic => cases he
  | error e =>
    cases he
    exact hanswer rfl

/-! ### Downloads that have worked for too long -/

/-- **A download and the limit**: it ends with a timeout only if it has worked for so long, and then
the failure says its key and the limit. -/
structure Timed (config : Config) (t : Task Coordinate Found Outcome) : Prop where
  ending : ∀ r, t.phase.endsIn = some (.done r) → ¬ IsTimeout r
  reported : ∀ r, t.phase = .reported r → ¬ IsTimeout r
  ended : ∀ time key after, t.phase = .ended time (.error (.timeout key after)) →
    key = t.work.key ∧ config.timeout = some after ∧
      ∃ start, t.startedAt = some start ∧ start.after after ≤ time

variable {p p' : DownloadPool} {t t' : Task Coordinate Found Outcome}

theorem timed_new (config : Config) (c : Coordinate) : Timed config (.new c) :=
  ⟨fun _ h => (by cases h), fun _ h => (by cases h), fun _ _ _ h => (by cases h)⟩

/-- A deadline that has come is as the limit says. -/
theorem of_deadline {now : Instant}
    (h : (t.deadline config.workload).any (· ≤ now) = true) : ∃ start after,
      t.startedAt = some start ∧ config.timeout = some after ∧ start.after after ≤ now := by
  obtain ⟨a, ha, hle⟩ : ∃ a, t.deadline config.workload = some a ∧ a ≤ now := by
    rcases hd : t.deadline config.workload with _ | a
    · rw [hd] at h
      cases h
    · rw [hd] at h
      exact ⟨a, rfl, of_decide_eq_true h⟩
  unfold Task.deadline at ha
  split at ha
  · next start after hs hl =>
    cases ha
    exact ⟨start, after, hs, hl, hle⟩
  · cases ha

/-- How a download ends now. -/
theorem Timed.finish (ht : Timed config t) {r : Outcome}
    (he : Pool.Ends config.workload p t r) {key : String} {after : Duration}
    (hr : r = .error (.timeout key after)) :
    key = t.work.key ∧ config.timeout = some after ∧
      ∃ start, t.startedAt = some start ∧ start.after after ≤ p.now := by
  cases he with
  | done hp => exact absurd ⟨key, after, hr⟩ (ht.ending r (by rw [hp]; rfl))
  | reported hp => exact absurd ⟨key, after, hr⟩ (ht.reported r hp)
  | abandoned => cases hr
  | timedOut hd =>
    obtain ⟨start, limit, hs, hlimit, hle⟩ := of_deadline hd
    have hout : config.timedOut t.work = .error (.timeout key after) := hr
    rw [Downloader.timedOut_eq hlimit] at hout
    cases hout
    exact ⟨rfl, hlimit, start, hs, hle⟩

theorem Timed.fate (ht : Timed config t) (hr : config.resolver.Punctual)
    (hl : p.world.classpath.loader.Punctual)
    (h : Pool.Fate config.workload p id t t') : Timed config t' := by
  cases h with
  | stay => exact ht
  | notice => exact ⟨ht.ending, ht.reported, ht.ended⟩
  | start hp world =>
    refine ⟨fun r he => ?_, fun _ h => (by cases h), fun _ _ _ h => (by cases h)⟩
    exact ask_punctual hr id t.work world (Option.some.inj he)
  | proceed hp he =>
    refine ⟨fun r hr => ht.ending r ?_, ?_, ?_⟩
    · rw [hp, ← he]
      exact hr
    · rintro r rfl
      cases he
    · rintro time key after rfl
      cases he
  | handOver =>
    exact ⟨fun _ h => (by cases h), fun _ h => (by cases h), fun _ _ _ h => (by cases h)⟩
  | @report j =>
    refine ⟨fun _ h => (by cases h), fun r h => ?_, fun _ _ _ h => (by cases h)⟩
    have hrun : (config.registerFound id j p.world).2 = r := Phase.reported.inj h
    rw [← hrun]
    exact registerFound_punctual hl j
  | finish _ he =>
    refine ⟨fun _ h => (by cases h), fun _ h => (by cases h), fun time key after h => ?_⟩
    cases h
    exact ht.finish he rfl

namespace Downloader

variable {R : Coordinate → Prop} {d₀ d d' : Downloader}

/-- All downloads keep to the limit, and nobody fails with a timeout of its own. -/
structure AllTimed (d : Downloader) : Prop where
  resolver : d.config.resolver.Punctual
  loader : d.classpath.loader.Punctual
  tasks : ∀ (id : Nat) (t : Task Coordinate Found Outcome), d.pool.tasks[id]? = some t →
    Timed d.config t

theorem AllTimed.change (hd : d.AllTimed) (h : Change R d d') : d'.AllTimed := by
  have hloader : d'.classpath.loader.Punctual := hd.loader.of_check (grows_change h).check
  cases h with
  | pool h =>
    refine ⟨hd.resolver, hloader, fun id t' ht' => ?_⟩
    obtain ⟨t, ht, hfate⟩ := h.fate ht'
    exact (hd.tasks id t ht).fate hd.resolver hd.loader hfate
  | tell | install | replace | add | observe => exact ⟨hd.resolver, hloader, hd.tasks⟩
  | @submit c =>
    refine ⟨hd.resolver, hloader, fun id t ht => ?_⟩
    change (d.pool.tasks ++ [Task.new c])[id]? = some t at ht
    rw [List.getElem?_append] at ht
    split_ifs at ht
    · exact hd.tasks id t ht
    · obtain ⟨-, rfl⟩ := List.getElem?_eq_some_iff.mp ht
      rw [List.getElem_singleton]
      exact timed_new _ c

theorem allTimed_of_build {b : Builder} {files : FileTree} {environment : String → Option Bytes}
    (hb : b.build files environment = .ok d) (hr : b.resolver.Punctual)
    (hl : d.classpath.loader.Punctual) : d.AllTimed := by
  obtain ⟨boot, loader, rfl⟩ := eq_of_build hb
  exact ⟨hr, hl, fun id t ht => by simp [Pool.withLimit] at ht⟩

/-! ### Runs -/

/-- The pool after the moves of a run. -/
def poolAfter (d₀ : Downloader) (ms : List Move) : DownloadPool := (d₀.moveAll ms).1.pool

/-- **How long downloads work**, at the end of a run in view of all states on the way. -/
structure KeepsLimit (d₀ : Downloader) (ms : List Move) : Prop where
  /-- When nothing can happen before the clock moves, no download has worked for the limit yet. -/
  running : (d₀.poolAfter ms).idle = true → ∀ (id : Nat) (t : Task Coordinate Found Outcome)
    (start : Instant) (after : Duration), (d₀.poolAfter ms).tasks[id]? = some t →
      t.isLive = true → t.startedAt = some start → d₀.config.timeout = some after →
        (d₀.poolAfter ms).now < start.after after
  /-- A download that has failed with a timeout had worked for the limit, which the failure says. -/
  timedOut : ∀ (id : Nat) (t : Task Coordinate Found Outcome) (time : Instant) (key : String)
    (after : Duration), (d₀.poolAfter ms).tasks[id]? = some t →
      t.phase = .ended time (.error (.timeout key after)) →
        key = t.work.key ∧ d₀.config.timeout = some after ∧ ∃ start, t.startedAt = some start ∧
          start.after after ≤ time ∧ start * 1000000 + after.nanos ≤ time * 1000000
  /-- Without a limit none fails so. -/
  unlimited : d₀.config.timeout = none → ∀ (id : Nat) (t : Task Coordinate Found Outcome),
    (d₀.poolAfter ms).tasks[id]? = some t →
      ∀ time key after, t.phase ≠ .ended time (.error (.timeout key after))
  /-- The instant that counts as the start is the one at which a download got its slot. -/
  start : ∀ ms₁ ms₂, ms = ms₁ ++ ms₂ → ∀ (id : Nat) (t₁ t : Task Coordinate Found Outcome),
    (d₀.poolAfter ms₁).tasks[id]? = some t₁ → (d₀.poolAfter ms).tasks[id]? = some t →
      (t₁.phase = .queued → ∀ start, t.startedAt = some start → (d₀.poolAfter ms₁).now ≤ start) ∧
        (t₁.holdsSlot = true → ∃ start, t.startedAt = some start ∧ start ≤ (d₀.poolAfter ms₁).now)
  /-- The instant that counts as the end is the one at which it ended. -/
  finish : ∀ ms₁ ms₂, ms = ms₁ ++ ms₂ → ∀ (id : Nat) (t₁ t : Task Coordinate Found Outcome),
    (d₀.poolAfter ms₁).tasks[id]? = some t₁ → (d₀.poolAfter ms).tasks[id]? = some t →
      ∀ time r, t.phase = .ended time r →
        (t₁.isLive = true → (d₀.poolAfter ms₁).now ≤ time) ∧
          (t₁.isLive = false → time ≤ (d₀.poolAfter ms₁).now)
  /-- However long a download has stood in line, it has the whole limit from then on. -/
  waiting : ∀ ms₁ ms₂, ms = ms₁ ++ ms₂ → ∀ (id : Nat) (t₁ t : Task Coordinate Found Outcome),
    (d₀.poolAfter ms₁).tasks[id]? = some t₁ → t₁.phase = .queued →
      (d₀.poolAfter ms).tasks[id]? = some t →
        ∀ time key after, t.phase = .ended time (.error (.timeout key after)) →
          (d₀.poolAfter ms₁).now.after after ≤ time

section Runs
variable {b : Builder} {files : FileTree} {environment : String → Option Bytes}
  (hb : b.build files environment = .ok d₀)
include hb

theorem dated_moveAll (ms : List Move) (id : Nat) (t : Task Coordinate Found Outcome)
    (ht : (d₀.poolAfter ms).tasks[id]? = some t) : Pool.Dated (d₀.poolAfter ms).now t := by
  obtain ⟨limit, classpath, hp, -⟩ := pool_of_build hb
  have hsince : Pool.Since d₀.pool d₀.pool := by
    rw [hp]
    exact Pool.since_withLimit _ _
  exact (hsince.steps (Steps.pool (steps_moveAll ms d₀))).dated id t ht

/-- **What becomes of the downloads** in the rest of a run. -/
theorem since_moveAll (ms₁ ms₂ : List Move) :
    Pool.Since (d₀.poolAfter ms₁) (d₀.poolAfter (ms₁ ++ ms₂)) := by
  have hrest := Steps.pool (steps_moveAll ms₂ (d₀.moveAll ms₁).1)
  have hsince : Pool.Since (d₀.poolAfter ms₁) (d₀.poolAfter ms₁) := .refl (dated_moveAll hb ms₁)
  unfold poolAfter at hsince ⊢
  rw [moveAll_append]
  exact hsince.steps hrest

theorem allTimed_moveAll (hr : b.resolver.Punctual) (hl : d₀.classpath.loader.Punctual)
    (ms : List Move) : (d₀.moveAll ms).1.AllTimed :=
  of_changes (P := AllTimed) (fun _ _ h hd => hd.change h) (later_moveAll d₀ ms)
    (allTimed_of_build hb hr hl)

theorem start_of_timeout (hr : b.resolver.Punctual) (hl : d₀.classpath.loader.Punctual)
    {ms : List Move} {id : Nat} {t : Task Coordinate Found Outcome}
    (ht : (d₀.poolAfter ms).tasks[id]? = some t) {time : Instant} {key : String} {after : Duration}
    (h : t.phase = .ended time (.error (.timeout key after))) :
    key = t.work.key ∧ d₀.config.timeout = some after ∧
      ∃ start, t.startedAt = some start ∧ start.after after ≤ time := by
  have hconfig := config_changes (later_moveAll d₀ ms)
  have hended := ((allTimed_moveAll hb hr hl ms).tasks id t ht).ended time key after h
  rwa [hconfig] at hended

/-- **The limit is kept**, whatever the host does and however the tasks are looked at. -/
theorem limit_kept (hr : b.resolver.Punctual) (hl : d₀.classpath.loader.Punctual)
    (ms : List Move) : KeepsLimit d₀ ms where
  running hidle id t start after ht hlive hs hlimit := by
    have ho := (orderly_of_build hb).steps (Steps.pool (steps_moveAll ms d₀))
    have hstarted : t.startedAt ≠ none := by
      rw [hs]
      exact Option.some_ne_none _
    obtain ⟨-, hrests⟩ := Pool.rests_of_idle ho.place ho.jobs hidle ht hlive hstarted
    refine hrests.deadline _ ?_
    have hw : d₀.config.workload.limit = some after := hlimit
    unfold Task.deadline
    rw [hs, hw]
  timedOut id t time key after ht hout := by
    obtain ⟨hkey, hlimit, start, hs, hle⟩ := start_of_timeout hb hr hl ht hout
    exact ⟨hkey, hlimit, start, hs, hle, nanos_le_of_after hle⟩
  unlimited hnone id t ht time key after hout := by
    obtain ⟨-, hlimit, -⟩ := start_of_timeout hb hr hl ht hout
    rw [hnone] at hlimit
    cases hlimit
  start ms₁ ms₂ hms id t₁ t ht₁ ht := by
    subst hms
    have hsince := since_moveAll hb ms₁ ms₂
    have hdated := dated_moveAll hb ms₁ id t₁ ht₁
    have hages := hsince.ages id t ht
    rw [ht₁] at hages
    refine ⟨fun hq start hs => hages.began (hdated.line hq) start hs, fun hslot => ?_⟩
    have hsome := hdated.slot hslot
    obtain ⟨start, hs⟩ := Option.isSome_iff_exists.mp hsome
    exact ⟨start, (hages.kept hsome).trans hs, hdated.started start hs⟩
  finish ms₁ ms₂ hms id t₁ t ht₁ ht time r hp := by
    subst hms
    have hsince := since_moveAll hb ms₁ ms₂
    have hdated := dated_moveAll hb ms₁ id t₁ ht₁
    have hages := hsince.ages id t ht
    rw [ht₁] at hages
    exact ⟨fun hlive => hages.ended hlive time r hp,
      fun hgone => hdated.ended time r ((hages.gone hgone).symm.trans hp)⟩
  waiting ms₁ ms₂ hms id t₁ t ht₁ hq ht time key after hout := by
    subst hms
    obtain ⟨-, -, start, hs, hle⟩ := start_of_timeout hb hr hl ht hout
    have hages := (since_moveAll hb ms₁ ms₂).ages id t ht
    rw [ht₁] at hages
    have hlater := hages.began ((dated_moveAll hb ms₁ id t₁ ht₁).line hq) start hs
    exact Nat.le_trans (Nat.add_le_add_right hlater _) hle

end Runs

/-- One slot and a limit of one and a half milliseconds. The second download stands in line while
the first one works; each of them fails two milliseconds after it got the slot. -/
theorem limit_kept_in_line :
    let a : Coordinate := ⟨"org", "a", some "1.0"⟩
    let b : Coordinate := ⟨"org", "b", some "1.0"⟩
    let resolver : Resolver := fun _ _ => ⟨[.sleep 5], .artifacts []⟩
    let builder : Builder := { Builder.plain resolver none (some (some ⟨1500000⟩)) with
      settings := { Settings.standard with maxConcurrentDownloads := 1 } }
    let ms₁ : List Move := [.act (.ensure a), .act (.ensure b), .act (.advance 1)]
    let ms₂ : List Move := [.act (.advance 9)]
    let tasks (p : DownloadPool) := p.tasks.map fun t => (t.phase.result?, t.startedAt)
    let d₀ : Downloader :=
      { config := ⟨builder.settings, some ⟨1500000⟩, resolver, .standard⟩
        pool := .withLimit 1 ⟨⟨[], []⟩, ⟨⟨[]⟩, .regular, .holding none⟩, [], [], []⟩
        observed := [] }
    builder.build ⟨[], []⟩ (fun _ => none) = .ok d₀ ∧ builder.resolver.Punctual ∧
      d₀.classpath.loader.Punctual ∧
      tasks (d₀.poolAfter ms₁) = [(none, some 0), (none, none)] ∧
      tasks (d₀.poolAfter (ms₁ ++ ms₂)) =
        [(some (.error (.timeout a.key ⟨1500000⟩)), some 0),
          (some (.error (.timeout b.key ⟨1500000⟩)), some 2)] ∧
      KeepsLimit d₀ (ms₁ ++ ms₂) := by
  intro a b resolver builder ms₁ ms₂ tasks d₀
  have hb : builder.build ⟨[], []⟩ (fun _ => none) = .ok d₀ := rfl
  have hr : builder.resolver.Punctual := fun _ _ _ _ h => (by cases h)
  exact ⟨hb, hr, ClassLoader.punctual_regular, by decide +kernel, by decide +kernel,
    limit_kept hb hr ClassLoader.punctual_regular _⟩

end Downloader

end ArtifactFetch
