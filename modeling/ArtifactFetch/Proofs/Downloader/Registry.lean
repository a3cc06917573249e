import ArtifactFetch.Proofs.Downloader.Change
import ArtifactFetch.Proofs.Pool.Stages
import Mathlib.Data.List.Nodup

/-! # The registry and the calls of a downloader

The registry holds the keys of the downloads that have not ended, each with its task, and no key
twice (`RegistrySound`). A task that has called the resolver has left the line and never calls
again, and what it asked for is its own coordinate (`CallsSound`). Both are kept by every change;
the key leaves the registry in the one step in which its task ends, whatever ends it. -/

namespace ArtifactFetch

/-- The pool of a downloader. -/
abbrev DownloadPool := Pool Shared Coordinate Found Outcome

/-- The key of a download that has not ended. -/
def openKey (st : Coordinate × Phase Found Outcome) : Option String :=
  if st.2.isLive then some st.1.key else none

/-- The keys of the downloads that have not ended, by their tasks. -/
def Pool.openKeys (p : DownloadPool) : List (Option String) := p.stages.map openKey

/-- **The registry**: no key twice, and the keys of those downloads that have not ended. -/
structure RegistrySound (p : DownloadPool) : Prop where
  keys : (p.world.registry.map Prod.fst).Nodup
  mem : ∀ k id, (k, id) ∈ p.world.registry ↔ p.openKeys[id]? = some (some k)

/-- **The calls of the resolver**: one for each task at most, made when it left the line, for its
own coordinate. -/
structure CallsSound (settings : Settings) (p : DownloadPool) : Prop where
  once : (p.world.calls.map Call.task).Nodup
  begun : ∀ call ∈ p.world.calls, ∃ c ph, p.stages[call.task]? = some (c, ph) ∧ ph ≠ .queued ∧
    call.request = Request.for settings c

variable {config : Config} {p p' : DownloadPool} {id : Nat} {c : Coordinate}
  {ph ph' : Phase Found Outcome}

theorem getElem?_openKeys (hp : p.stages[id]? = some (c, ph)) :
    p.openKeys[id]? = some (if ph.isLive then some c.key else none) := by
  simp [Pool.openKeys, openKey, hp]

theorem openKeys_eq_some_iff {k : String} :
    p.openKeys[id]? = some (some k) ↔
      ∃ c ph, p.stages[id]? = some (c, ph) ∧ ph.isLive = true ∧ c.key = k := by
  constructor
  · intro h
    rw [Pool.openKeys, List.getElem?_map, Option.map_eq_some_iff] at h
    obtain ⟨⟨c, ph⟩, hst, hk⟩ := h
    unfold openKey at hk
    split_ifs at hk with hl
    exact ⟨c, ph, hst, hl, Option.some.inj hk⟩
  · rintro ⟨c, ph, hst, hl, rfl⟩
    rw [getElem?_openKeys hst, if_pos hl]

/-! ### The registry -/

theorem mem_of_lookup {k : String} {l : List (String × Nat)} (h : l.lookup k = some id) :
    (k, id) ∈ l := by
  obtain ⟨l₁, l₂, hl, -⟩ := List.lookup_eq_some_iff.mp h
  rw [hl]
  exact List.mem_append_right _ List.mem_cons_self

theorem openKeys_set (hs : p'.stages = p.stages.set id (c, ph')) :
    p'.openKeys = p.openKeys.set id (if ph'.isLive then some c.key else none) := by
  rw [Pool.openKeys, hs, List.map_set]
  rfl

theorem openKeys_set_live (hp : p.stages[id]? = some (c, ph)) (hl : ph.isLive = true)
    (hl' : ph'.isLive = true) (hs : p'.stages = p.stages.set id (c, ph')) :
    p'.openKeys = p.openKeys := by
  rw [openKeys_set hs, if_pos hl']
  refine List.ext_getElem? fun i => ?_
  rw [Pool.getElem?_set_of (getElem?_openKeys hp)]
  split_ifs with h
  · rw [← h, getElem?_openKeys hp, if_pos hl]
  · rfl

/-- A change leaves keys and registry alone, or takes one key out of both. -/
theorem openKeys_effect (h : Pool.Effect config.workload p p') :
    (p'.openKeys = p.openKeys ∧ p'.world.registry = p.world.registry) ∨
    ∃ id k, p.openKeys[id]? = some (some k) ∧ p'.openKeys = p.openKeys.set id none ∧
      p'.world.registry = p.world.registry.filter (·.1 != k) := by
  cases h with
  | still hs _ hw => exact .inl ⟨by rw [Pool.openKeys, hs]; rfl, by rw [hw]⟩
  | lose _ _ hs _ hw => exact .inl ⟨by rw [Pool.openKeys, hs]; rfl, by rw [hw]; rfl⟩
  | handOver hp hs _ hw => exact .inl ⟨openKeys_set_live hp rfl rfl hs, by rw [hw]⟩
  | start hp hs _ hw | report _ hp hs _ hw =>
    exact .inl ⟨openKeys_set_live hp rfl rfl hs, by rw [hw]; rfl⟩
  | proceed hp he he' hs _ hw =>
    exact .inl ⟨openKeys_set_live hp (Phase.isLive_of_endsIn_eq he) (Phase.isLive_of_endsIn_eq he')
      hs, by rw [hw]⟩
  | @finish id c ph r hp hl _ hs _ hw =>
    refine .inr ⟨id, c.key, ?_, openKeys_set hs, by rw [hw]; rfl⟩
    rw [getElem?_openKeys hp, if_pos hl]

namespace RegistrySound

/-- A key is registered for one task only. -/
theorem unique (hp : RegistrySound p) {k : String} {i j : Nat} (hi : (k, i) ∈ p.world.registry)
    (hj : (k, j) ∈ p.world.registry) : i = j :=
  (Prod.mk.inj (List.inj_on_of_nodup_map hp.keys hi hj rfl)).2

theorem lookup_eq_some_iff (hp : RegistrySound p) {k : String} :
    p.world.registry.lookup k = some id ↔ (k, id) ∈ p.world.registry := by
  refine ⟨mem_of_lookup, fun h => ?_⟩
  rcases hk : p.world.registry.lookup k with _ | i
  · have hne := List.lookup_eq_none_iff.mp hk _ h
    simp at hne
  · rw [hp.unique h (mem_of_lookup hk)]

theorem effect (hp : RegistrySound p) (h : Pool.Effect config.workload p p') :
    RegistrySound p' := by
  obtain ⟨hk, hr⟩ | ⟨id, k, ho, hk, hr⟩ := openKeys_effect h
  · exact ⟨by rw [hr]; exact hp.keys, fun k id => by rw [hr, hk]; exact hp.mem k id⟩
  refine ⟨?_, fun k' i => ?_⟩
  · rw [hr]
    exact hp.keys.sublist (List.filter_sublist.map _)
  rw [hr, hk, List.mem_filter, Pool.getElem?_set_of ho, hp.mem]
  by_cases hi : id = i
  · -- the task that ends had this key and no other
    subst hi
    rw [if_pos rfl, ho]
    constructor
    · rintro ⟨h, hne⟩
      obtain rfl := Option.some.inj (Option.some.inj h)
      simp at hne
    · intro h
      simp at h
  · rw [if_neg hi]
    refine and_iff_left_of_imp fun hi' => ?_
    rw [bne_iff_ne]
    rintro rfl
    exact hi (hp.unique ((hp.mem _ _).mpr ho) ((hp.mem _ _).mpr hi'))

end RegistrySound

/-! ### The calls -/

/-- A list that holds nothing twice, but things that are all alike, has one element at most. -/
theorem length_le_one {α β : Type} {f : α → β} {l : List α} (hn : (l.map f).Nodup)
    (hf : ∀ a ∈ l, ∀ b ∈ l, f a = f b) : l.length ≤ 1 := by
  rcases l with _ | ⟨a, _ | ⟨b, l⟩⟩
  · exact Nat.zero_le 1
  · exact Nat.le_refl 1
  · have hab := hf a (by simp) b (by simp)
    simp [hab] at hn

namespace CallsSound

variable {settings : Settings}

theorem of_calls_eq (hp : CallsSound config.settings p) (h : Pool.Effect config.workload p p')
    (hw : p'.world.calls = p.world.calls) : CallsSound config.settings p' := by
  refine ⟨by rw [hw]; exact hp.once, fun call hc => ?_⟩
  obtain ⟨c, ph, hst, hq, hreq⟩ := hp.begun call (by rwa [hw] at hc)
  obtain ⟨ph', hst', hq'⟩ := h.begun_kept hst hq
  exact ⟨c, ph', hst', hq', hreq⟩

theorem effect (hp : CallsSound config.settings p) (h : Pool.Effect config.workload p p') :
    CallsSound config.settings p' := by
  cases h' : h with
  | still _ _ hw | proceed _ _ _ _ _ hw | handOver _ _ _ hw =>
    exact hp.of_calls_eq h (by rw [hw])
  | report _ _ _ _ hw | lose _ _ _ _ hw | finish _ _ _ _ _ hw =>
    exact hp.of_calls_eq h (by rw [hw]; rfl)
  | @start id c hq hs _ hw =>
    have hc : p'.world.calls = p.world.calls ++ [⟨id, .for config.settings c⟩] := by rw [hw]; rfl
    refine ⟨?_, fun call hm => ?_⟩
    · -- a task in line has made no call
      rw [hc, List.map_append, List.nodup_append']
      refine ⟨hp.once, by simp, fun i hi hi' => ?_⟩
      obtain ⟨call, hcall, rfl⟩ := List.mem_map.mp hi
      obtain rfl : call.task = id := by simpa using hi'
      obtain ⟨c', ph, hst, hne, -⟩ := hp.begun call hcall
      exact hne (Pool.stage_inj hst hq).2
    · rw [hc, List.mem_append] at hm
      rcases hm with hm | hm
      · obtain ⟨c', ph, hst, hne, hreq⟩ := hp.begun call hm
        obtain ⟨ph', hst', hne'⟩ := h.begun_kept hst hne
        exact ⟨c', ph', hst', hne', hreq⟩
      · obtain rfl := List.mem_singleton.mp hm
        rw [hs]
        exact ⟨c, _, (Pool.getElem?_set_of hq _ id).trans (if_pos rfl), by simp, rfl⟩

end CallsSound

end ArtifactFetch
