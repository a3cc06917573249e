import ArtifactFetch.Proofs.Pool.Stages

/-! # How a task ends

Whatever ends a task, it ends in three steps. First it leaves the line in which it may stand, and
the shared state is put in order (`leaving`). Then its result can be seen (`showing`). At last it
gives its slot back, if it has one (`finish_eq_giveBack`). There is no other way for a result to
come to be seen (`Change.finish_of_result`). -/

namespace ArtifactFetch.Pool

variable {World Work Job Result : Type}

section
variable (w : Workload World Work Job Result) (id : Nat) (t : Task Work Job Result)

/-- A task that is to end has left its line, and the shared state is in order. -/
def leaving (s : Pool World Work Job Result) : Pool World Work Job Result :=
  (s.leaveLine id t.phase).tidy w id t.work

/-- After that, its result can be seen. -/
def showing (r : Result) (s : Pool World Work Job Result) : Pool World Work Job Result :=
  (s.leaving w id t).reveal id r

end

variable {w : Workload World Work Job Result} {s s' : Pool World Work Job Result} {id : Nat}
  {t : Task Work Job Result} {r : Result}

/-- **The steps in which a task ends.** -/
theorem finish_eq_giveBack (ht : s.tasks[id]? = some t) (r : Result) :
    s.finish w id r = (s.showing w id t r).giveBack t.phase := by
  unfold finish
  rw [ht]
  rfl

theorem tasks_leaving (s : Pool World Work Job Result) :
    (s.leaving w id t).tasks = s.tasks := by
  unfold leaving leaveLine
  split <;> rfl

theorem world_leaving (s : Pool World Work Job Result) :
    (s.leaving w id t).world = w.leave id t.work s.world := by
  unfold leaving leaveLine
  split <;> rfl

/-- The result cannot be seen before the shared state is in order. -/
theorem result?_leaving (i : Nat) : (s.leaving w id t).result? i = s.result? i := by
  rw [result?, result?, tasks_leaving]

theorem result?_showing (ht : s.tasks[id]? = some t) (r : Result) :
    (s.showing w id t r).result? id = some r := by
  have ht' : (s.leaving w id t).tasks[id]? = some t := by rw [tasks_leaving, ht]
  rw [result?, showing, reveal, getElem?_tasks_setPhase ht']
  rfl

theorem slots_leaveLine (hh : t.holdsSlot = true) (s : Pool World Work Job Result) :
    (s.leaveLine id t.phase).slots = s.slots := by
  unfold leaveLine
  split
  · next hp => simp [Task.holdsSlot, hp] at hh
  · rfl
  · rfl

/-- **A task has its slot while its result can be seen already.** -/
theorem slots_showing (hh : t.holdsSlot = true) (s : Pool World Work Job Result) (r : Result) :
    (s.showing w id t r).slots = s.slots :=
  slots_leaveLine hh s

theorem slots_giveBack (hh : t.holdsSlot = true) (s : Pool World Work Job Result) :
    (s.giveBack t.phase).slots = (s.slots.release 1).1 := by
  unfold giveBack
  split
  · next hp => simp [Task.holdsSlot, hp] at hh
  · next hp => simp [Task.holdsSlot, hp] at hh
  · rfl

/-- A task that is taken to another phase has not ended by that. -/
theorem not_ended_of_set {i : Nat} {c : Work} {ph : Phase Job Result} (hn : s.result? id = none)
    (hs : s'.stages = s.stages.set i (c, ph)) (hph : ph.result? = none) :
    s'.result? id = none := by
  rw [result?_eq, hs]
  rcases hst : (s.stages.set i (c, ph))[id]? with _ | st
  · rfl
  obtain ⟨-, rfl⟩ | hold := of_getElem?_set hst
  · exact hph
  · rw [result?_eq, hold] at hn
    exact hn

/-- **A task ends in no other way.** -/
theorem Change.finish_of_result (h : Change w s s') (hn : s.result? id = none)
    (hr : s'.result? id = some r) : ∃ t, s.tasks[id]? = some t ∧ t.isLive = true ∧
      s' = s.finish w id r := by
  have hnot : s'.result? id ≠ none := by
    rw [hr]
    exact Option.some_ne_none r
  cases h with
  | queue | tick | gate | line | through | close | cancel | lock => exact absurd hn hnot
  | notice i =>
    rw [result?_eq, stages_notice, ← result?_eq] at hnot
    exact absurd hn hnot
  | start ht =>
    have hs := stages_launch (w := w) (s := { s with slots := _ }) ht
    exact absurd (not_ended_of_set hn hs rfl) hnot
  | proceed ph ht hp he =>
    refine absurd (not_ended_of_set hn (stages_setPhase ht ph) ?_) hnot
    rw [← he] at hp
    cases ph <;> first | rfl | cases hp
  | handOver ht => exact absurd (not_ended_of_set hn (stages_setPhase ht .inJob) rfl) hnot
  | @run i k j hj =>
    obtain ⟨c, -, hs⟩ | ⟨-, hs⟩ := stages_runJob w k j { s with jobs := s.jobs.eraseIdx i }
    · exact absurd (not_ended_of_set hn hs rfl) hnot
    · rw [result?_eq, hs] at hnot
      rw [result?_eq] at hn
      exact absurd hn hnot
  | @finish i t r' ht hl he =>
    by_cases hi : id = i
    · subst hi
      rw [result?_eq, stages_finish ht, getElem?_set_of (getElem?_stages ht), if_pos rfl] at hr
      obtain rfl : r' = r := Option.some.inj hr
      exact ⟨t, ht, hl, rfl⟩
    · have hlook : Look w i s (s.finish w i r') := .finish ht hl he
      rw [result?_eq, (Looks.stage_of_ne (.single hlook) hi), ← result?_eq] at hnot
      exact absurd hn hnot

end ArtifactFetch.Pool
