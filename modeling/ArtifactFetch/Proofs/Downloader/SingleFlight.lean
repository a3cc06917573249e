import ArtifactFetch.Proofs.Downloader.Request
import ArtifactFetch.Proofs.Pool.Ending

/-! # One download at a time for a key

In every state of every run the registry holds exactly the downloads that were started and have not
ended, no two of one key, and a request for a registered key joins the download that is registered
(`single_flight`). Every call of the resolver was made by a download of its own, so there are no
more calls for a key than downloads that were started under it, and no two in progress. When a
download ends, its entry leaves the registry before its result can be seen (`EndsInOrder`), so
nobody joins a download that somebody has waited for. -/

namespace ArtifactFetch.Downloader

variable {R : Coordinate → Prop} {d d' : Downloader}

/-- The calls of the resolver for coordinates of a key. -/
def callsFor (d : Downloader) (k : String) : List Call :=
  d.shared.calls.filter fun call => call.request.coordinates.any (·.key == k)

/-- The calls for a key that have not been answered, by tasks that have not ended. -/
def callsInProgress (d : Downloader) (k : String) : List Call :=
  (d.callsFor k).filter fun call =>
    d.pool.stages[call.task]?.any fun st => st.2.endsIn.isSome

/-! ### What every change keeps -/

/-- Registry and calls are in order. -/
structure InOrder (d : Downloader) : Prop where
  registry : RegistrySound d.pool
  calls : CallsSound d.config.settings d.pool

theorem InOrder.accept (hd : d.InOrder) {c : Coordinate}
    (hr : d.shared.registry.lookup c.key = none) : (d.accept c).InOrder := by
  have hkey : ∀ i, (c.key, i) ∉ d.shared.registry := fun i hi =>
    absurd (List.lookup_eq_none_iff.mp hr _ hi) (by simp)
  have hkeys : (d.accept c).pool.openKeys = d.pool.openKeys ++ [some c.key] := by
    rw [Pool.openKeys, stages_accept, List.map_append]
    rfl
  have hlen : d.pool.openKeys.length = d.pool.tasks.length := by
    rw [Pool.openKeys, List.length_map, Pool.length_stages]
  refine ⟨⟨?_, fun k i => ?_⟩, ⟨hd.calls.once, fun call hc => ?_⟩⟩
  · rw [world_accept, List.map_append, List.nodup_append']
    refine ⟨hd.registry.keys, by simp, fun k hk hk' => ?_⟩
    obtain rfl : k = c.key := by simpa using hk'
    obtain ⟨⟨_, i⟩, hi, rfl⟩ := List.mem_map.mp hk
    exact hkey i hi
  · rw [world_accept, hkeys, List.mem_append, hd.registry.mem, List.mem_singleton]
    rcases Nat.lt_trichotomy i d.pool.tasks.length with hi | rfl | hi
    · rw [List.getElem?_append_left (by omega)]
      exact or_iff_left fun h => by cases h; omega
    · rw [List.getElem?_append_right (by omega), hlen, Nat.sub_self,
        List.getElem?_eq_none (l := d.pool.openKeys) (by omega)]
      simp [eq_comm]
    · rw [List.getElem?_eq_none (l := d.pool.openKeys) (by omega),
        List.getElem?_eq_none (by simp; omega)]
      simp
      omega
  · obtain ⟨c', ph, hst, hq, hreq⟩ := hd.calls.begun call hc
    exact ⟨c', ph, stage_accept_of hst c, hq, hreq⟩

theorem InOrder.change (h : Change R d d') (hd : d.InOrder) : d'.InOrder := by
  cases h with
  | pool h => exact ⟨hd.registry.effect h.effect, hd.calls.effect h.effect⟩
  | tell | install | replace | add | observe =>
    exact ⟨⟨hd.registry.keys, hd.registry.mem⟩, ⟨hd.calls.once, hd.calls.begun⟩⟩
  | submit _ hr => exact hd.accept hr

theorem InOrder.changes (hd : d.InOrder) (hc : Changes R d d') : d'.InOrder :=
  of_changes (P := InOrder) (fun _ _ => InOrder.change) hc hd

theorem InOrder.moveAll (hd : d.InOrder) (ms : List Move) : (d.moveAll ms).1.InOrder :=
  hd.changes (later_moveAll d ms)

/-! ### Results stay -/

theorem result?_eq (d : Downloader) (h : Handle) :
    d.result? h = d.pool.stages[h.task]?.bind fun st => st.2.result? :=
  Pool.result?_eq _ _

theorem result?_of_stage {h : Handle} {c : Coordinate} {ph : Phase Found Outcome}
    (hst : d.pool.stages[h.task]? = some (c, ph)) : d.result? h = ph.result? := by
  rw [result?_eq, hst]
  rfl

/-- A handle has no result just while its task has not ended. -/
theorem isLive_iff_of_stage {h : Handle} {c : Coordinate} {ph : Phase Found Outcome}
    (hst : d.pool.stages[h.task]? = some (c, ph)) : ph.isLive = true ↔ d.result? h = none := by
  rw [result?_of_stage hst, Phase.isLive, Option.isNone_iff_eq_none]

theorem result?_eq_some_iff {h : Handle} {r : Outcome} :
    d.result? h = some r ↔
      ∃ c time, d.pool.stages[h.task]? = some (c, .ended time r) := by
  rw [result?_eq, Option.bind_eq_some_iff]
  constructor
  · rintro ⟨⟨c, ph⟩, hst, hr⟩
    cases ph with
    | ended time r' => exact ⟨c, time, by rw [hst, Option.some.inj hr]⟩
    | _ => simp [Phase.result?] at hr
  · rintro ⟨c, time, hst⟩
    exact ⟨_, hst, rfl⟩

theorem result?_accept {h : Handle} {r : Outcome} (hr : d.result? h = some r) (c : Coordinate) :
    (d.accept c).result? h = some r := by
  obtain ⟨c', time, hst⟩ := result?_eq_some_iff.mp hr
  exact result?_eq_some_iff.mpr ⟨c', time, stage_accept_of hst c⟩

theorem result?_change (h : Change R d d') {x : Handle} {r : Outcome} (hr : d.result? x = some r) :
    d'.result? x = some r := by
  cases h with
  | pool h =>
    obtain ⟨c, time, hst⟩ := result?_eq_some_iff.mp hr
    exact result?_eq_some_iff.mpr ⟨c, time, h.effect.ended_kept hst rfl⟩
  | tell | install | replace | add | observe => exact hr
  | submit => exact result?_accept hr _

/-- **A result that can be seen stays what it is.** -/
theorem result?_changes (hc : Changes R d d') {x : Handle} {r : Outcome}
    (hr : d.result? x = some r) : d'.result? x = some r :=
  of_changes (P := fun d => d.result? x = some r) (fun _ _ h hr => result?_change h hr) hc hr

theorem result?_moveAll {x : Handle} {r : Outcome} (hr : d.result? x = some r) (ms : List Move) :
    (d.moveAll ms).1.result? x = some r :=
  result?_changes (later_moveAll d ms) hr

theorem result?_wait (h : Handle) (patience : Nat) :
    (d.wait h patience).1.result? h = (d.wait h patience).2 := by
  have hw := waits_wait d h patience
  generalize d.wait h patience = result at hw ⊢
  cases hw with
  | result hr | nothing hr => exact hr

/-! ### Joining -/

theorem registered_of_joined {c : Coordinate} {h : Handle}
    (hj : (d.ensure c).2 = .ok (.joined h)) : (c.key, h.task) ∈ d.shared.registry :=
  mem_of_lookup (ensure_joined hj).2

/-! ### How a download ends -/

/-- The task of a download that is to end has put the shared state in order. -/
def leaving (d : Downloader) (id : Nat) (t : Task Coordinate Found Outcome) : Downloader :=
  { d with pool := d.pool.leaving d.config.workload id t }

/-- After that, its result can be seen. -/
def showing (d : Downloader) (id : Nat) (t : Task Coordinate Found Outcome) (r : Outcome) :
    Downloader :=
  { d with pool := d.pool.showing d.config.workload id t r }

/-- **A download ends in order**, between `d` and `d'` with the result `r`: its entry leaves the
registry, then its result can be seen, and then it gives its slot back. -/
structure EndsInOrder (d d' : Downloader) (h : Handle) (r : Outcome)
    (t : Task Coordinate Found Outcome) : Prop where
  task : d.pool.tasks[h.task]? = some t
  registered : ∃ k, (k, h.task) ∈ d.shared.registry
  /-- When its entry has left the registry, its result cannot be seen yet. -/
  forgotten : (∀ k, (k, h.task) ∉ (d.leaving h.task t).shared.registry) ∧
    (d.leaving h.task t).result? h = none
  /-- When its result can be seen, its entry has left the registry. -/
  seen : (∀ k, (k, h.task) ∉ (d.showing h.task t r).shared.registry) ∧
    (d.showing h.task t r).result? h = some r
  /-- A task at work has its slot until then, -/
  held : t.holdsSlot = true → (d.showing h.task t r).pool.slots = d.pool.slots
  /-- and gives it back at last. -/
  returned : t.holdsSlot = true → d'.pool.slots = ((d.showing h.task t r).pool.slots.release 1).1
  /-- That is all. -/
  last : d' = { d.showing h.task t r with pool := (d.showing h.task t r).pool.giveBack t.phase }

theorem shared_leaving (d : Downloader) (id : Nat) (t : Task Coordinate Found Outcome) :
    (d.leaving id t).shared = d.shared.forget t.work.key :=
  Pool.world_leaving d.pool

/-- A result that comes to be seen is that of a task that ends. -/
theorem finish_of_result (h : Change R d d') {x : Handle} {r : Outcome} (hn : d.result? x = none)
    (hr : d'.result? x = some r) : ∃ t, d.pool.tasks[x.task]? = some t ∧
      d' = { d with pool := d.pool.finish d.config.workload x.task r } := by
  have hnot : d'.result? x ≠ none := by
    rw [hr]
    exact Option.some_ne_none r
  cases h with
  | pool h =>
    obtain ⟨t, ht, -, rfl⟩ := h.finish_of_result hn hr
    exact ⟨t, ht, rfl⟩
  | tell | install | replace | add | observe => exact absurd hn hnot
  | submit =>
    obtain ⟨c, time, hst⟩ := result?_eq_some_iff.mp hr
    obtain hold | ⟨-, -, hnew⟩ := of_stage_accept hst
    · rw [result?_eq_some_iff.mpr ⟨c, time, hold⟩] at hn
      cases hn
    · cases hnew

theorem InOrder.not_registered {h : Handle} {r : Outcome} (hd : d.InOrder)
    (hr : d.result? h = some r) (k : String) : (k, h.task) ∉ d.shared.registry := by
  intro hk
  obtain ⟨c, time, hst⟩ := result?_eq_some_iff.mp hr
  obtain ⟨c', ph, hst', hl, -⟩ := openKeys_eq_some_iff.mp ((hd.registry.mem _ _).mp hk)
  obtain ⟨-, rfl⟩ := Pool.stage_inj hst hst'
  simp [Phase.isLive, Phase.result?] at hl

/-- **Every download ends in order.** -/
theorem InOrder.ends (hd : d.InOrder) (hc : Change R d d') {h : Handle} {r : Outcome}
    (hn : d.result? h = none) (hr : d'.result? h = some r) : ∃ t, EndsInOrder d d' h r t := by
  have hd' := hd.change hc
  obtain ⟨t, ht, rfl⟩ := finish_of_result hc hn hr
  have hgone : ∀ k, (k, h.task) ∉ (d.shared.forget t.work.key).registry := fun k => by
    have hnot := hd'.not_registered hr k
    rwa [shared, Pool.world_finish ht] at hnot
  have hregistered : (t.work.key, h.task) ∈ d.shared.registry :=
    (hd.registry.mem _ _).mpr (openKeys_eq_some_iff.mpr ⟨t.work, t.phase, Pool.getElem?_stages ht,
      (isLive_iff_of_stage (Pool.getElem?_stages ht)).mpr hn, rfl⟩)
  refine ⟨t, {
    task := ht
    registered := ⟨_, hregistered⟩
    forgotten := ⟨fun k => ?_, (Pool.result?_leaving h.task).trans hn⟩
    seen := ⟨fun k => ?_, Pool.result?_showing ht r⟩
    held := fun hh => Pool.slots_showing hh d.pool r
    returned := fun hh => ?_
    last := ?_ }⟩
  · rw [shared_leaving]
    exact hgone k
  · show (k, h.task) ∉ (d.leaving h.task t).shared.registry
    rw [shared_leaving]
    exact hgone k
  · rw [Pool.finish_eq_giveBack ht]
    exact Pool.slots_giveBack hh _
  · rw [Pool.finish_eq_giveBack ht]
    rfl

/-! ### Single flight -/

/-- What single flight means for a downloader and the downloads that were started. -/
structure SingleFlight (d : Downloader) (started : List Handle) : Prop where
  /-- Every download was started once. -/
  distinct : (started.map Handle.task).Nodup
  /-- The registry holds the downloads that have not ended, by their keys. -/
  entries : ∀ h : Handle, (h.key, h.task) ∈ d.shared.registry ↔ h ∈ started ∧ d.result? h = none
  /-- A key is registered if there is exactly one such download under it. -/
  registered : ∀ k, (∃ id, (k, id) ∈ d.shared.registry) ↔
    ∃! h, h ∈ started ∧ h.key = k ∧ d.result? h = none
  /-- There is never more than one. -/
  atMostOne : ∀ h ∈ started, ∀ h' ∈ started, h.key = h'.key → d.result? h = none →
    d.result? h' = none → h = h'
  /-- A request for its key joins it, unless the listener panics. -/
  joins : ∀ h ∈ started, d.result? h = none → ∀ c : Coordinate, c.key = h.key →
    (d.ensure c).2 = match (d.classpath.deliver none (.requested c)).2 with
      | none => .ok (.joined h)
      | some p => .error (.panic p)
  /-- No two calls for a key are in progress. -/
  oneCall : ∀ k, (d.callsInProgress k).length ≤ 1
  /-- Calls for a key do not outnumber the downloads started under it. -/
  fewCalls : ∀ k, (d.callsFor k).length ≤ (started.filter (·.key == k)).length
  /-- A result is not seen while its download is registered. -/
  hidden : ∀ (h : Handle) (r : Outcome), d.result? h = some r → ∀ k, (k, h.task) ∉ d.shared.registry
  /-- When a download ends, its entry leaves the registry before its result can be seen. -/
  ends : ∀ (d' : Downloader) (h : Handle) (r : Outcome), Change (fun _ => True) d d' →
    d.result? h = none → d'.result? h = some r → ∃ t, EndsInOrder d d' h r t
  /-- Once somebody has waited for a download, nobody joins it. -/
  past : ∀ (h : Handle) (patience : Nat) (r : Outcome), (d.wait h patience).2 = some r →
    ∀ (ms : List Move) (c : Coordinate) (h' : Handle),
      (((d.wait h patience).1.moveAll ms).1.ensure c).2 = .ok (.joined h') → h'.task ≠ h.task

namespace InOrder

variable (hd : d.InOrder)
include hd

theorem registered_iff (h : Handle) :
    (h.key, h.task) ∈ d.shared.registry ↔ h ∈ d.handles ∧ d.result? h = none := by
  rw [shared, hd.registry.mem, openKeys_eq_some_iff, mem_handles]
  constructor
  · rintro ⟨c, ph, hst, hl, hk⟩
    exact ⟨⟨c, ph, hst, hk⟩, (isLive_iff_of_stage hst).mp hl⟩
  · rintro ⟨⟨c, ph, hst, hk⟩, hr⟩
    exact ⟨c, ph, hst, (isLive_iff_of_stage hst).mpr hr, hk⟩

theorem unique {h h' : Handle} (hm : h ∈ d.handles) (hm' : h' ∈ d.handles) (hk : h.key = h'.key)
    (hr : d.result? h = none) (hr' : d.result? h' = none) : h = h' := by
  have h1 := (hd.registered_iff h).mpr ⟨hm, hr⟩
  have h2 := (hd.registered_iff h').mpr ⟨hm', hr'⟩
  rw [← hk] at h2
  exact handle_unique hm' hm (hd.registry.unique h1 h2)

theorem ensure_registered {c : Coordinate} {id : Nat} (hr : (c.key, id) ∈ d.shared.registry) :
    (d.ensure c).2 = match (d.classpath.deliver none (.requested c)).2 with
      | none => .ok (.joined ⟨c.key, id⟩)
      | some p => .error (.panic p) := by
  rcases hn : (d.classpath.deliver none (.requested c)).2 with _ | p
  · rw [ensure_of_quiet hn, serve_of_registered (d := d.told c)
      (hd.registry.lookup_eq_some_iff.mpr hr)]
  · rw [ensure_of_panic hn]

/-! ### Calls -/

/-- A call was made by a download of its key. -/
theorem handle_of_call {k : String} {call : Call} (hc : call ∈ d.callsFor k) :
    ⟨k, call.task⟩ ∈ d.handles := by
  rw [callsFor, List.mem_filter] at hc
  obtain ⟨c, ph, hst, -, hreq⟩ := hd.calls.begun call hc.1
  refine mem_handles.mpr ⟨c, ph, hst, ?_⟩
  simpa [hreq, Request.for] using hc.2

theorem nodup_callsFor (k : String) : ((d.callsFor k).map Call.task).Nodup :=
  hd.calls.once.sublist (List.filter_sublist.map _)

theorem length_callsFor (k : String) :
    (d.callsFor k).length ≤ (d.handles.filter (·.key == k)).length := by
  have hsub : (d.callsFor k).map Call.task ⊆ (d.handles.filter (·.key == k)).map Handle.task := by
    intro id hid
    obtain ⟨call, hc, rfl⟩ := List.mem_map.mp hid
    exact List.mem_map.mpr ⟨⟨k, call.task⟩,
      List.mem_filter.mpr ⟨hd.handle_of_call hc, by simp⟩, rfl⟩
  have hlen := (hd.nodup_callsFor k).length_le_of_subset hsub
  rwa [List.length_map, List.length_map] at hlen

theorem registered_of_call {k : String} {call : Call} (hc : call ∈ d.callsInProgress k) :
    (k, call.task) ∈ d.shared.registry := by
  rw [callsInProgress, List.mem_filter] at hc
  refine (hd.registered_iff ⟨k, call.task⟩).mpr ⟨hd.handle_of_call hc.1, ?_⟩
  obtain ⟨⟨c, ph⟩, hst, he⟩ := (Option.any_eq_true _ _).mp hc.2
  exact (isLive_iff_of_stage hst).mp (Phase.isLive_of_endsIn he)

theorem length_callsInProgress (k : String) : (d.callsInProgress k).length ≤ 1 := by
  have hnodup : ((d.callsInProgress k).map Call.task).Nodup :=
    (hd.nodup_callsFor k).sublist (List.filter_sublist.map _)
  -- two calls would belong to two tasks, both registered under the key
  exact length_le_one hnodup fun _ ha _ hb =>
    hd.registry.unique (hd.registered_of_call ha) (hd.registered_of_call hb)

/-- **Single flight**, for the downloads of a downloader that is in order. -/
theorem singleFlight : SingleFlight d d.handles where
  distinct := by
    rw [tasks_handles]
    exact List.nodup_range' _
  entries := hd.registered_iff
  registered k := by
    constructor
    · rintro ⟨id, hk⟩
      obtain ⟨hm, hr⟩ := (hd.registered_iff ⟨k, id⟩).mp hk
      exact ⟨⟨k, id⟩, ⟨hm, rfl, hr⟩, fun h' ⟨hm', hk', hr'⟩ => hd.unique hm' hm hk' hr' hr⟩
    · rintro ⟨h, ⟨hm, rfl, hr⟩, -⟩
      exact ⟨h.task, (hd.registered_iff h).mpr ⟨hm, hr⟩⟩
  atMostOne h hm h' hm' hk hr hr' := hd.unique hm hm' hk hr hr'
  joins h hm hr c hc := by
    have hreg := (hd.registered_iff h).mpr ⟨hm, hr⟩
    rw [← hc] at hreg
    rw [hd.ensure_registered hreg, hc]
  oneCall := hd.length_callsInProgress
  fewCalls := hd.length_callsFor
  hidden h r hr k := hd.not_registered hr k
  ends _ _ _ hc hn hr := hd.ends hc hn hr
  past h patience r hw ms c h' hj := by
    have hd' : ((d.wait h patience).1.moveAll ms).1.InOrder :=
      (hd.moveAll [.act (.wait h patience)]).moveAll ms
    have hr : (d.wait h patience).1.result? h = some r := (result?_wait h patience).trans hw
    intro ht
    have hreg := registered_of_joined hj
    rw [ht] at hreg
    exact hd'.not_registered (result?_moveAll hr ms) _ hreg

end InOrder

theorem inOrder_of_build {b : Builder} {files : FileTree} {environment : String → Option Bytes}
    (h : b.build files environment = .ok d) : d.InOrder ∧ d.handles = [] := by
  obtain ⟨limit, classpath, hp, -⟩ := pool_of_build h
  refine ⟨⟨?_, ?_⟩, ?_⟩
  · rw [hp]
    exact ⟨List.nodup_nil, fun k id => by simp [Pool.openKeys, Pool.stages, Pool.withLimit]⟩
  · rw [hp]
    exact ⟨List.nodup_nil, fun call hc => by simp [Pool.withLimit] at hc⟩
  · rw [handles, hp]
    rfl

/-- **Single flight.** In every state of every run, the downloads that were started under a key and
have not ended are the one that is registered, if any, and requests for the key join it; the calls
of the resolver for a key are no more than the downloads started under it, and not two at a time;
and no result is seen of a download that is still registered. -/
theorem single_flight {b : Builder} {files : FileTree} {environment : String → Option Bytes}
    (h : b.build files environment = .ok d) (ms : List Move) :
    SingleFlight (d.moveAll ms).1 (submitted (d.moveAll ms).2) := by
  obtain ⟨hd, hh⟩ := inOrder_of_build h
  have hs := handles_moveAll ms d
  rw [hh, List.nil_append] at hs
  rw [← hs]
  exact (hd.moveAll ms).singleFlight

/-- Two requests for one key, the second while the first download waits at a gate. -/
theorem single_flight_two_requests :
    let d := plain (fun _ _ => ⟨[.gate "g"], .artifacts []⟩) none none ⟨[], []⟩
    let run := d.moveAll [.act (.ensure ⟨"org", "a", none⟩), .look 0,
      .act (.ensure ⟨"org", "a", none⟩)]
    submitted run.2 = [⟨"org:a", 0⟩] ∧ SingleFlight run.1 (submitted run.2) :=
  ⟨by decide +kernel, single_flight (build_plain _ _ _ _ fun _ => none) _⟩

end ArtifactFetch.Downloader
