import ArtifactFetch.Proofs.Pool.Settling
import ArtifactFetch.Proofs.Pool.Waiting

/-! # Closing a pool

A pool that drains lets time pass until all tasks have ended or the window is over (`drains_drain`),
and a task that ends meanwhile ends within the window (`ended_between`). What is left after that is
abandoned: every such task is woken, and when it is looked at it ends, as abandoned or with what is
ready at that time, so none is left (`active_abandon`). From then on the pool is `Shut`: no task is
left, none starts, and none is accepted. -/

namespace ArtifactFetch.Pool

variable {World Work Job Result : Type} {w : Workload World Work Job Result}
  {s s' : Pool World Work Job Result} {id : Nat} {c : Work} {ph : Phase Job Result}
  {time : Instant} {r : Result}

/-! ### Tasks that have not ended -/

theorem task_of_stage (h : s.stages[id]? = some (c, ph)) :
    ∃ t, s.tasks[id]? = some t ∧ t.work = c ∧ t.phase = ph := by
  rw [stages, List.getElem?_map, Option.map_eq_some_iff] at h
  obtain ⟨t, ht, heq⟩ := h
  exact ⟨t, ht, Prod.mk.inj heq⟩

theorem active_eq_zero_iff : s.active = 0 ↔
    ∀ (i : Nat) (c : Work) (ph : Phase Job Result), s.stages[i]? = some (c, ph) →
      ph.isLive = false := by
  rw [active, List.countP_eq_zero]
  constructor
  · intro h i c ph hst
    obtain ⟨t, ht, -, rfl⟩ := task_of_stage hst
    rw [Task.isLive_phase]
    simpa using h t (List.mem_of_getElem? ht)
  · intro h t ht
    obtain ⟨i, hi⟩ := List.mem_iff_getElem?.mp ht
    rw [← Task.isLive_phase, h i _ _ (getElem?_stages hi)]
    exact Bool.false_ne_true

theorem mem_live : id ∈ s.live ↔ ∃ c ph, s.stages[id]? = some (c, ph) ∧ ph.isLive = true := by
  rw [live, List.mem_filter, List.mem_range]
  constructor
  · rintro ⟨hi, hl⟩
    have ht := List.getElem?_eq_getElem hi
    rw [ht, Option.any_some, ← Task.isLive_phase] at hl
    exact ⟨_, _, getElem?_stages ht, hl⟩
  · rintro ⟨c, ph, hst, hl⟩
    obtain ⟨t, ht, -, rfl⟩ := task_of_stage hst
    rw [Task.isLive_phase] at hl
    exact ⟨(List.getElem?_eq_some_iff.mp ht).1, by rwa [ht]⟩

/-! ### When a task ends -/

/-- A task that has ended after a change had ended before, or ends now. -/
theorem Effect.ended_after (h : Effect w s s') (hst : s'.stages[id]? = some (c, .ended time r)) :
    s.stages[id]? = some (c, .ended time r) ∨
      time = s.now ∧ ∃ ph, s.stages[id]? = some (c, ph) ∧ ph.isLive = true ∧ Yields w c ph r := by
  have hset : ∀ {i : Nat} {c' : Work} {ph : Phase Job Result}, (∀ t r, ph ≠ .ended t r) →
      s'.stages = s.stages.set i (c', ph) → s.stages[id]? = some (c, .ended time r) := by
    intro i c' ph hne hs
    rw [hs] at hst
    exact (of_getElem?_set hst).resolve_left fun h => hne time r (Prod.mk.inj h.2).2
  cases h with
  | still hs | lose _ _ hs => rw [hs] at hst; exact .inl hst
  | start _ hs | handOver _ hs | report _ _ hs => exact .inl (hset (by simp) hs)
  | proceed _ _ he' hs =>
    refine .inl (hset ?_ hs)
    rintro t r rfl
    cases he'
  | finish hi hl hy hs =>
    rw [hs] at hst
    obtain ⟨rfl, hnew⟩ | hold := of_getElem?_set hst
    · cases hnew
      exact .inr ⟨rfl, _, hi, hl, hy⟩
    · exact .inl hold

/-- A task that ends on the way ends between the two instants. -/
theorem ended_between (h : Changes w s s') {c' : Work} (hst : s.stages[id]? = some (c', ph))
    (hl : ph.isLive = true) (hst' : s'.stages[id]? = some (c, .ended time r)) :
    s.now ≤ time ∧ time ≤ s'.now := by
  induction h with
  | refl =>
    obtain ⟨-, rfl⟩ := stage_inj hst hst'
    cases hl
  | tail hc h ih =>
    obtain hold | ⟨rfl, -⟩ := h.effect.ended_after hst'
    · obtain ⟨hlo, hhi⟩ := ih hold
      exact ⟨hlo, Nat.le_trans hhi h.onward.now⟩
    · exact ⟨now_le_of_changes hc, h.onward.now⟩

/-! ### The window -/

/-- While a pool drains, it is closed but not cancelled, and time passes until no task is left, at
most to the end of the window. -/
structure Drains (window : Nat) (s s' : Pool World Work Job Result) : Prop where
  closed : s'.closed = true
  cancelled : s'.cancelled = s.cancelled
  now : s'.now ≤ s.now + window
  elapsed : s'.active = 0 ∨ s'.now = s.now + window

/-- Time passes until `stop` holds or the goal is reached. -/
theorem runTo_stops (stop : Pool World Work Job Result → Bool) (goal : Instant) :
    ∀ (n : Nat) {s : Pool World Work Job Result}, s.now ≤ goal → goal ≤ s.now + n →
      (s.runTo w stop goal n).now ≤ goal ∧
        (stop (s.runTo w stop goal n) = true ∨ (s.runTo w stop goal n).now = goal)
  | 0, s, h, hn => ⟨h, .inr (Nat.le_antisymm h hn)⟩
  | n + 1, s, h, hn => by
    have hs : (s.settle w).now = s.now := (stands_settle s).now
    have hmove : ∀ x y g : Nat, x < y → g ≤ x + (n + 1) → g ≤ y + n := fun x y g => by omega
    unfold runTo
    dsimp only
    split_ifs with hstop
    · exact ⟨by rwa [hs], .inl hstop⟩
    split
    · next a ha =>
      have hlt := lt_of_nextAlarm ha
      rw [hs] at hlt
      split_ifs with hg
      · exact runTo_stops stop goal n (Nat.le_of_lt hg) (hmove _ _ _ hlt hn)
      · exact ⟨Nat.le_refl _, .inr rfl⟩
    · exact ⟨Nat.le_refl _, .inr rfl⟩

/-- Who lets time pass for a task does so until it has ended or the patience is over. -/
theorem await_stops (id patience : Nat) (s : Pool World Work Job Result) :
    (s.await w id patience).now ≤ s.now + patience ∧
      ((s.await w id patience).result? id = none →
        (s.await w id patience).now = s.now + patience) := by
  unfold await
  split_ifs with hr
  · refine ⟨Nat.le_add_right _ _, fun hnone => ?_⟩
    rw [hnone] at hr
    cases hr
  · obtain ⟨hnow, hstop⟩ := runTo_stops (w := w) (fun s => (s.result? id).isSome) (s.now + patience)
      patience (s := s) (Nat.le_add_right _ _) (Nat.le_refl _)
    refine ⟨hnow, fun hnone => hstop.resolve_left ?_⟩
    rw [hnone]
    exact Bool.false_ne_true

theorem drains_drain (window : Nat) (s : Pool World Work Job Result) :
    Drains window s (s.drain w window) := by
  obtain ⟨hc, hk⟩ := (lapses_drain (w := w) window s).flags
  have hend : (s.drain w window).now ≤ s.now + window ∧
      ((s.drain w window).active = 0 ∨ (s.drain w window).now = s.now + window) := by
    unfold Pool.drain
    dsimp only
    split_ifs with ha
    · exact ⟨Nat.le_add_right _ _, .inl ha⟩
    · obtain ⟨hnow, hstop⟩ := runTo_stops (w := w) (fun s => s.active == 0) (s.now + window) window
        (s := { s with closed := true }) (Nat.le_add_right _ _) (Nat.le_refl _)
      exact ⟨hnow, hstop.imp_left fun h => by simpa using h⟩
  exact ⟨hc, hk, hend.1, hend.2⟩

/-! ### Abandoning what is left -/

/-- A task of a cancelled pool that does not go on once more is abandoned when it is looked at. -/
theorem stage_poll_of_abandoned (hc : s.cancelled = true) (hw : w.runtime.workFirst id = false)
    (hst : s.stages[id]? = some (c, ph)) (hl : ph.isLive = true) :
    (s.poll w id).stages[id]? = some (c, .ended s.now (w.abandoned c)) := by
  obtain ⟨t, ht, rfl, rfl⟩ := task_of_stage hst
  rw [Task.isLive_phase] at hl
  unfold poll giveUp
  rw [if_pos hc, if_neg (by rw [hw]; exact Bool.false_ne_true), ht]
  dsimp only
  rw [if_pos hl, stages_finish ht, getElem?_set_of hst, if_pos rfl]

/-- A cancelled pool on its way: whoever has not ended is still to be looked at. -/
structure Abandoning (s : Pool World Work Job Result) : Prop where
  cancelled : s.cancelled = true
  called : ∀ i c ph, s.stages[i]? = some (c, ph) → ph.isLive = true → s.Called i

/-- A task of a cancelled pool that is looked at ends, and the others stay called. -/
theorem Abandoning.poll (hc : s.cancelled = true) (hcalled : ∀ i c ph,
    s.stages[i]? = some (c, ph) → ph.isLive = true → i ≠ id → s.Called i) :
    Abandoning (s.poll w id) := by
  have hlooks := looks_poll (w := w) s id
  refine ⟨hlooks.stands.cancelled.trans hc, fun i c ph hst hl => ?_⟩
  have hne : i ≠ id := by
    rintro rfl
    exact Bool.noConfusion (hl.symm.trans (ended_poll_of_cancelled hc hst))
  rw [stage_poll_of_ne hne] at hst
  exact hlooks.called (hcalled i c ph hst hl hne)

/-- When nobody is called, all tasks have ended. -/
theorem Abandoning.ended_of_not_called (h : Abandoning s) (hn : ∀ i, ¬ s.Called i)
    (hst : s.stages[id]? = some (c, ph)) : ph.isLive = false := by
  by_contra hl
  exact hn id (h.called id c ph hst (by simpa using hl))

/-- A job that is run when nobody is called is run for nobody. -/
theorem Abandoning.job (h : Abandoning s) (hn : ∀ i, ¬ s.Called i) (j : Job)
    (jobs : List (Nat × Job)) : Abandoning ({ s with jobs := jobs }.runJob w id j) := by
  have hstages : ({ s with jobs := jobs }.runJob w id j).stages = s.stages := by
    obtain ⟨c, hst, -⟩ | ⟨-, hs⟩ := stages_runJob w id j { s with jobs := jobs }
    · cases h.ended_of_not_called hn hst
    · exact hs
  refine ⟨(stands_runJob id j jobs s).cancelled.trans h.cancelled, fun i c ph hst hl => ?_⟩
  rw [hstages] at hst
  exact absurd (h.called i c ph hst hl) (hn i)

theorem Abandoning.turn (h : Abandoning s) (ht : Turn w s s') : Abandoning s' := by
  cases ht with
  | @look id ready called contests hq =>
    exact Abandoning.poll (s := s.taking ready called contests) h.cancelled
      fun i c ph hst hl hne => hq.called_of_ne hne (h.called i c ph hst hl)
  | job hq => exact h.job (not_called hq) _ _
  | rest => exact h

/-- **When a pool has settled after it was cancelled**, no task is left. -/
theorem active_abandon (s : Pool World Work Job Result) : (s.abandon w).active = 0 := by
  have hstart : Abandoning s.tearDown :=
    ⟨rfl, fun i c ph hst hl => called_wake.mpr (.inr (mem_live.mpr ⟨c, ph, hst, hl⟩))⟩
  have hend : Abandoning (s.abandon w) :=
    of_settle (P := Abandoning) (fun s hs => hs.turn (turn_cases s)) hstart
  have hidle : (s.abandon w).idle = true := idle_settle _
  exact active_eq_zero_iff.mpr fun i c ph hst =>
    hend.ended_of_not_called (not_called (idle_iff.mp hidle).1) hst

/-! ### A pool that was shut down -/

/-- **A pool that was shut down**: it is closed and cancelled, and no task is left. -/
structure Shut (s : Pool World Work Job Result) : Prop where
  closed : s.closed = true
  cancelled : s.cancelled = true
  active : s.active = 0

theorem Shut.change (h : Shut s) (hc : Change w s s') : Shut s' := by
  refine ⟨hc.onward.closed h.closed, hc.onward.cancelled h.cancelled,
    active_eq_zero_iff.mpr fun i c ph hi => ?_⟩
  obtain ⟨ph₀, hi₀⟩ := stage_of_works_eq hc.effect.works_eq hi
  have hgone := active_eq_zero_iff.mp h.active i c ph₀ hi₀
  obtain ⟨-, rfl⟩ := stage_inj (hc.effect.ended_kept hi₀ hgone) hi
  exact hgone

/-- **After a shutdown** the pool is shut, whatever it was before. -/
theorem shut_shutdown (window : Nat) (s : Pool World Work Job Result) :
    Shut (s.shutdown w window).1 := by
  have hd := drains_drain (w := w) window s
  have hsettle := stands_settle (w := w) (s.drain w window).tearDown
  exact ⟨hsettle.closed.trans hd.closed, hsettle.cancelled, active_abandon _⟩

/-- A pool that is shut has drained already when it is shut down again. -/
theorem Shut.report (h : Shut s) (window : Nat) : (s.shutdown w window).2 = ⟨true, 0⟩ := by
  have hclosed : Pool.active { s with closed := true } = 0 := h.active
  have hdrain : s.drain w window = { s with closed := true } := by
    unfold Pool.drain
    exact if_pos hclosed
  unfold Pool.shutdown
  dsimp only
  rw [hdrain, hclosed]
  rfl

end ArtifactFetch.Pool
