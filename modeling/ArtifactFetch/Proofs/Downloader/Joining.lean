import ArtifactFetch.Proofs.Coordinate.Key
import ArtifactFetch.Proofs.Downloader.Outcomes
import ArtifactFetch.Proofs.Registration.Effect

/-! # Whose download a request joins

Downloads are registered by their keys. So a request joins the download of a coordinate that was
requested before with the same key, and if the download ends well, its summary is of that coordinate
(`joined_same_key`). It is the coordinate of the request itself if the two groups and the two names
have no colons, as when both were read from texts. In general the key leaves open where the parts
end, and then a request may be answered the download of something else (`joined_of_other`). -/

namespace ArtifactFetch.Downloader

variable {d₀ d : Downloader} {c : Coordinate} {h : Handle} {s : Summary} {id : Nat} {j : Found}
  {ms : List Move}

/-! ### The request that started a download -/

/-- In a run, the download behind a handle was started by a request for a coordinate. -/
def StartedBy (d : Downloader) (ms : List Move) (h : Handle) (c : Coordinate) : Prop :=
  ∃ before after, ms = before ++ .act (.ensure c) :: after ∧
    ((d.moveAll before).1.ensure c).2 = .ok (.submitted h)

/-- Every download was started by a request of the run. -/
theorem startedBy_of_mem : ∀ {ms : List Move} {d : Downloader},
    h ∈ submitted (d.moveAll ms).2 → ∃ c, StartedBy d ms h c
  | [], d, hm => absurd hm List.not_mem_nil
  | m :: ms, d, hm => by
    rw [moveAll_cons] at hm
    obtain ⟨r, hr, hh⟩ := List.mem_filterMap.mp hm
    obtain rfl | hr := List.mem_cons.mp hr
    · obtain ⟨c, rfl, hs⟩ := request_of_submitted hh
      exact ⟨c, [], ms, rfl, hs⟩
    · obtain ⟨c, before, after, rfl, hs⟩ :=
        startedBy_of_mem (List.mem_filterMap.mpr ⟨r, hr, hh⟩)
      exact ⟨c, m :: before, after, rfl, hs⟩

namespace StartedBy

variable (hs : StartedBy d ms h c)
include hs

theorem mem_requested : c ∈ requested ms := by
  obtain ⟨before, after, rfl, -⟩ := hs
  simp [requested, Move.request?]

theorem key : h.key = c.key := by
  obtain ⟨before, after, -, hsub⟩ := hs
  rw [(ensure_submitted hsub).1]

/-- The download is of the coordinate of the request, for good. -/
theorem work : (d.moveAll ms).1.pool.works[h.task]? = some c := by
  obtain ⟨before, after, rfl, hsub⟩ := hs
  obtain ⟨rfl, he, -, -⟩ := ensure_submitted hsub
  rw [moveAll_append, moveAll_cons]
  refine work_changes (later_moveAll _ after) ?_
  show ((d.moveAll before).1.ensure c).1.pool.works[_]? = some c
  rw [he]
  exact work_accept ((d.moveAll before).1.told c) c

theorem append (ns : List Move) : StartedBy d (ms ++ ns) h c := by
  obtain ⟨before, after, rfl, hsub⟩ := hs
  exact ⟨before, after ++ ns, by rw [List.append_assoc, List.cons_append], hsub⟩

end StartedBy

/-! ### The coordinate of a summary -/

theorem coordinate_of_registerFound {config : Config} {world : Shared}
    (hr : (config.registerFound id j world).2 = .ok s) : s.coordinate = j.coordinate := by
  unfold Config.registerFound at hr
  dsimp only at hr
  split at hr
  · next summary hall =>
    cases hr
    exact (Registration.effect_all hall).coordinate
  · cases hr
  · cases hr

/-- **A download that ends well** says so of its own coordinate. -/
theorem coordinate_of_ok {b : Builder} {files : FileTree} {environment : String → Option Bytes}
    (hb : b.build files environment = .ok d₀) (hc : Later d₀ d)
    (hw : d.pool.works[h.task]? = some c) (hr : d.result? h = some (.ok s)) :
    s.coordinate = c := by
  obtain ⟨hsound, hanswers⟩ := outcomesSound_of_build hb hc
  obtain ⟨c', time, hst⟩ := result?_eq_some_iff.mp hr
  obtain rfl : c' = c := Option.some.inj ((Pool.getElem?_works hst).symm.trans hw)
  obtain hown | ⟨-, hcancelled⟩ := hsound _ _ _ _ hst rfl
  · generalize hout : (Except.ok s : Outcome) = r at hown
    cases hown with
    | failed | panicked | timedOut => cases hout
    | @registered j d₁ d₂ ha h₁ hran h₂ =>
      rw [coordinate_of_registerFound hout.symm]
      -- the job was for the coordinate of its task, which is still the same
      obtain ⟨i, hj, -⟩ := id hran
      have hjob := ((outcomesSound_of_build hb h₁).2.jobs (List.mem_of_getElem? hj)).1
      have hlater := work_changes ((Relation.ReflTransGen.single hran.change).trans h₂) hjob
      exact Option.some.inj (hlater.symm.trans hw)
  · cases hcancelled

/-! ### Joined downloads -/

/-- **What a request joins**: after a run, a request for `c` joins the download of `c'`. -/
structure Joins (d : Downloader) (ms : List Move) (c : Coordinate) (h : Handle) (c' : Coordinate) :
    Prop where
  /-- A request of the run started it, and none for another coordinate did. -/
  started : StartedBy d ms h c'
  only : ∀ x, StartedBy d ms h x → x = c'
  /-- It has not ended. -/
  running : (d.moveAll ms).1.result? h = none
  key : c'.key = c.key
  /-- It is of the same coordinate just if the keys are made of their parts in the same way. -/
  same_iff : c' = c ↔ c'.CutAlike c
  /-- It always is if no request has a colon in its group or its artifact name. -/
  plain : (∀ x ∈ requested ms, x.Plain) → c.Plain → c' = c
  /-- If it ends well, then as the download of its own coordinate. -/
  result : ∀ ns s, (d.moveAll (ms ++ .act (.ensure c) :: ns)).1.result? h = some (.ok s) →
    s.coordinate = c'

/-- **A request joins the download of its key.** In every run, a request that joins a download joins
one that an earlier request with the same key has started and that has not ended, and a good result
is that of the earlier request. -/
theorem joined_same_key {b : Builder} {files : FileTree} {environment : String → Option Bytes}
    (hb : b.build files environment = .ok d) (ms : List Move)
    (hj : ((d.moveAll ms).1.ensure c).2 = .ok (.joined h)) : ∃ c', Joins d ms c h c' := by
  obtain ⟨hd, hhandles⟩ := inOrder_of_build hb
  have hk : h.key = c.key := (ensure_joined hj).1
  have hreg : (h.key, h.task) ∈ (d.moveAll ms).1.shared.registry := by
    rw [hk]
    exact registered_of_joined hj
  obtain ⟨hm, hnone⟩ := ((hd.moveAll ms).registered_iff h).mp hreg
  rw [handles_moveAll, hhandles, List.nil_append] at hm
  obtain ⟨c', hs⟩ := startedBy_of_mem hm
  have hkey : c'.key = c.key := hs.key.symm.trans hk
  have hsame : c'.CutAlike c → c' = c := fun hcut => Coordinate.eq_iff_key.mpr ⟨hkey, hcut⟩
  refine ⟨c', hs, fun x hx => ?_, hnone, hkey, ⟨fun he => (Coordinate.eq_iff_key.mp he).2, hsame⟩,
    fun hplain hc => hsame ((hplain c' hs.mem_requested).cutAlike hc), fun ns s hr => ?_⟩
  · exact Option.some.inj (hx.work.symm.trans hs.work)
  · exact coordinate_of_ok hb (later_moveAll d _) (hs.append _).work hr

/-- Two requests for one coordinate that was read from a text, the second while the download has not
been looked at. -/
theorem joined_same_key_plain :
    let c : Coordinate := ⟨"org", "a", some "1.0"⟩
    let d := plain (fun _ _ => ⟨[], .artifacts []⟩) none none ⟨[], []⟩
    let ms := [.act (.ensure c)]
    Coordinate.parse "org:a:1.0" = .ok c ∧
      ((d.moveAll ms).1.ensure c).2 = .ok (.joined ⟨"org:a:1.0", 0⟩) ∧
      Joins d ms c ⟨"org:a:1.0", 0⟩ c := by
  intro c d ms
  have hparse : Coordinate.parse "org:a:1.0" = .ok c := by decide +kernel
  have hj : ((d.moveAll ms).1.ensure c).2 = .ok (.joined ⟨"org:a:1.0", 0⟩) := by decide +kernel
  obtain ⟨c', h⟩ := joined_same_key (build_plain _ _ _ _ fun _ => none) ms hj
  have hplain : c.Plain := Coordinate.plain_of_parse hparse
  obtain rfl : c' = c := h.plain (List.forall_mem_singleton.mpr hplain) hplain
  exact ⟨hparse, hj, h⟩

/-- The artifact `a` in version `b` and the artifact `a:b` in no version have one key. A request for
the second joins the download of the first, and waits for its summary. -/
theorem joined_of_other :
    let first : Coordinate := ⟨"g", "a", some "b"⟩
    let second : Coordinate := ⟨"g", "a:b", none⟩
    let d := plain (fun _ _ => ⟨[], .artifacts []⟩) none none ⟨[], []⟩
    let ms := [.act (.ensure first)]
    let h : Handle := ⟨"g:a:b", 0⟩
    first ≠ second ∧ (d.moveAll ms).2 = [.ensured (.ok (.submitted h))] ∧
      ((d.moveAll ms).1.ensure second).2 = .ok (.joined h) ∧
      (((d.moveAll ms).1.ensure second).1.wait h 1).2 = some (.ok ⟨first, [], []⟩) :=
  ⟨by decide, rfl, by decide +kernel, by decide +kernel⟩

end ArtifactFetch.Downloader
