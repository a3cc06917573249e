import ArtifactFetch.Proofs.Downloader.Joining
import ArtifactFetch.Proofs.Downloader.SecondFetch
import ArtifactFetch.Proofs.Pool.FirstCome
import ArtifactFetch.Proofs.Repositories

/-! # What the resolver is asked

The calls of the resolver are those of the tasks that have started, in the order of their starts
(`tasks_calls`). So a download asks nothing before it starts and one thing from then on, by the
settings that the downloader was made with, however late and after whatever else it starts
(`asked_as_set`). -/

namespace ArtifactFetch.Downloader

variable {R : Coordinate → Prop} {d₀ d d' : Downloader} {config : Config} {p p' : DownloadPool}
  {c : Coordinate} {h : Handle} {ms : List Move}

/-! ### Calls and starts -/

theorem tasks_calls_pool (hc : Pool.Change config.workload p p')
    (hp : p.world.calls.map Call.task = p.begun) : p'.world.calls.map Call.task = p'.begun := by
  cases hc with
  | queue | tick | gate | line | proceed | notice | handOver | close | cancel | lock => exact hp
  | @start id t slots =>
    have calls :
        (({ p with slots := slots } : DownloadPool).launch config.workload id t).world.calls =
          p.world.calls ++ [⟨id, .for config.settings t.work⟩] := rfl
    have begun : (({ p with slots := slots } : DownloadPool).launch config.workload id t).begun =
        p.begun ++ [id] := Pool.begun_started id _
    rw [calls, begun, List.map_append, hp]
    rfl
  | @through id => rw [Pool.begun_finished]; exact hp
  | run =>
    rw [Pool.world_runJob, Pool.begun, Pool.history_runJob]
    exact hp
  | finish ht =>
    rw [Pool.world_finish ht, Pool.begun, Pool.history_finish ht]
    exact hp

theorem tasks_calls_change (hc : Change R d d') (hd : d.shared.calls.map Call.task = d.pool.begun) :
    d'.shared.calls.map Call.task = d'.pool.begun := by
  cases hc with
  | pool hc => exact tasks_calls_pool hc hd
  | tell | install | replace | add | submit | observe => exact hd

/-- **Who has started has called the resolver**, in the same order. -/
theorem tasks_calls {b : Builder} {files : FileTree} {environment : String → Option Bytes}
    (hb : b.build files environment = .ok d₀) (hc : Later d₀ d) :
    d.shared.calls.map Call.task = d.pool.begun := by
  refine of_changes (P := fun d => d.shared.calls.map Call.task = d.pool.begun)
    (fun _ _ => tasks_calls_change) hc ?_
  obtain ⟨limit, classpath, hp, -⟩ := pool_of_build hb
  rw [shared, hp]
  rfl

/-- A call is the only one of its task. -/
theorem callsBy_eq_singleton (hd : d.InOrder) {call : Call} (hc : call ∈ d.shared.calls) :
    d.callsBy call.task = [call] := by
  have own : call ∈ d.callsBy call.task := List.mem_filter.mpr ⟨hc, decide_eq_true rfl⟩
  obtain ⟨call', alone⟩ := List.length_eq_one_iff.mp
    (Nat.le_antisymm (length_callsBy hd _) (List.length_pos_of_mem own))
  rw [alone] at own ⊢
  rw [List.mem_singleton.mp own]

/-! ### The request of a download -/

/-- What a download has asked, of which the settings say what it is to ask. -/
structure AsksOnce (d : Downloader) (s : Settings) (c : Coordinate) (h : Handle) : Prop where
  before : .started h.task ∉ d.pool.history → d.callsBy h.task = []
  started : .started h.task ∈ d.pool.history →
    ∃ r, d.callsBy h.task = [⟨h.task, r⟩] ∧ Asks s c r

theorem asksOnce {b : Builder} {files : FileTree} {environment : String → Option Bytes}
    (hb : b.build files environment = .ok d) (hs : StartedBy d ms h c) :
    (d.moveAll ms).1.AsksOnce b.settings c h := by
  have later := later_moveAll d ms
  have tasks := tasks_calls hb later
  have settings : (d.moveAll ms).1.config.settings = b.settings := by
    rw [config_changes later, settings_of_build hb]
  have order := (inOrder_of_build hb).1.moveAll ms
  have work := hs.work
  generalize (d.moveAll ms).1 = d' at tasks settings order work
  refine ⟨fun hnot => ?_, fun hstart => ?_⟩
  · refine List.filter_eq_nil_iff.mpr fun call hcall ht => hnot ?_
    rw [← Pool.mem_begun, ← tasks, ← of_decide_eq_true ht]
    exact List.mem_map_of_mem hcall
  · rw [← Pool.mem_begun, ← tasks] at hstart
    obtain ⟨call, hcall, htask⟩ := List.mem_map.mp hstart
    obtain ⟨c', ph, hstage, -, hrequest⟩ := order.calls.begun call hcall
    obtain rfl : c' = c := by
      have work' := Pool.getElem?_works hstage
      rw [htask] at work'
      exact Option.some.inj (work'.symm.trans work)
    rw [← settings, ← htask, callsBy_eq_singleton order hcall]
    exact ⟨call.request, rfl, hrequest ▸ asks_for _ _⟩

/-- **The repositories, from the settings to the resolver.** In every run every download that is
started asks once, from its start on, for its own coordinate, with the flag of the settings and the
repositories of the settings; and the setting for custom repositories lists what was joined by
commas, and lists one after the other. -/
theorem asked_as_set (b : Builder) (files : FileTree) (environment : String → Option Bytes) :
    (∀ d, b.build files environment = .ok d → ∀ ms c h, StartedBy d ms h c →
      (d.moveAll ms).1.AsksOnce b.settings c h) ∧
    (∀ xs : List String, (∀ x ∈ xs, ',' ∉ x.toList) →
      splitRepositories (",".intercalate xs) = xs.filter (· ≠ "")) ∧
    ∀ x y : String,
      splitRepositories (x ++ "," ++ y) = splitRepositories x ++ splitRepositories y :=
  ⟨fun _ hb _ _ _ hs => asksOnce hb hs, fun _ => splitRepositories_intercalate,
    splitRepositories_append⟩

/-- The download of a snapshot of the framework, where a repository is set twice, one with a blank,
and some are empty. -/
theorem asked_as_set_snapshot :
    let s : Settings := { Settings.standard with repos := some "a,, b,a,", fresh := true }
    let b : Builder :=
      { Builder.plain (fun _ _ => ⟨[], .artifacts []⟩) none none with settings := s }
    let c : Coordinate := ⟨"org.apache.camel", "core", some "4-SNAPSHOT"⟩
    let ms : List Move := [.act (.ensure c), .act (.setFiles ⟨[], []⟩), .look 0]
    let r : Request := ⟨[c], [centralRepository, "a", " b", "a", snapshotRepository], false, true,
      true, true⟩
    ∃ d, b.build ⟨[], []⟩ (fun _ => none) = .ok d ∧ StartedBy d ms ⟨c.key, 0⟩ c ∧
      (d.moveAll ms).1.callsBy 0 = [⟨0, r⟩] ∧ Asks s c r := by
  intro s b c ms r
  have build : b.build ⟨[], []⟩ (fun _ => none) = .ok _ := rfl
  have asked := (asked_as_set b ⟨[], []⟩ fun _ => none).1 _ build ms c ⟨c.key, 0⟩
    ⟨[], ms.tail, rfl, rfl⟩
  obtain ⟨r', own, asks⟩ := asked.started (by decide +kernel)
  have calls : ([⟨0, r'⟩] : List Call) = [⟨0, r⟩] := own.symm.trans (by decide +kernel)
  obtain rfl : r' = r := (Call.mk.inj (List.cons.inj calls).1).2
  exact ⟨_, build, ⟨[], ms.tail, rfl, rfl⟩, own, asks⟩

end ArtifactFetch.Downloader
