import ArtifactFetch.Proofs.Pool.Stages
import ArtifactFetch.Proofs.Pool.Turnstile
import Mathlib.Algebra.GroupWithZero.Nat

/-! # Settling

The effort of a pool bounds the turns that are left while the clock stands. What happens to a task
that is looked at never raises it (`Look.effort_le`): what is woken by the end of a task is paid for
by that task, and so is the job that it hands over. A turn takes a task or a job out of its line, so
it lowers the effort (`Turn.effort_lt`), and a pool that has settled is idle (`idle_settle`). -/

namespace ArtifactFetch

namespace Phase

variable {Job Result : Type} {ph : Phase Job Result}

/-- How many turns a task of this phase can still cause. -/
def effort : Phase Job Result → Nat
  | .ended _ _ => 0
  | .inJob | .reported _ => 3
  | _ => 6

theorem effort_of_endsIn {e : Ending Job Result} (h : ph.endsIn = some e) : ph.effort = 6 := by
  cases ph <;> simp_all [endsIn, effort]

end Phase

namespace Pool

variable {World Work Job Result : Type} {w : Workload World Work Job Result}
  {s s' : Pool World Work Job Result} {id : Nat} {c : Work} {ph ph' : Phase Job Result}
  {t : Task Work Job Result}

theorem taskEffort_eq (t : Task Work Job Result) : taskEffort t = t.phase.effort := by
  cases h : t.phase <;> simp [taskEffort, Phase.effort, h]

/-- The effort of all tasks. -/
def stageEffort (s : Pool World Work Job Result) : Nat :=
  (s.stages.map fun st => st.2.effort).sum

theorem effort_eq (s : Pool World Work Job Result) :
    s.effort = s.stageEffort + s.ready.length + s.called.length + 2 * s.jobs.length := by
  have htasks : s.tasks.map taskEffort = s.stages.map fun st => st.2.effort := by
    rw [stages, List.map_map]
    exact List.map_congr_left fun t _ => taskEffort_eq t
  rw [effort, htasks, stageEffort, List.sum_eq_foldl]
  rfl

theorem sum_map_set {α : Type} (f : α → Nat) (b : α) :
    ∀ {l : List α} {n : Nat} {a : α}, l[n]? = some a →
      ((l.set n b).map f).sum + f a = (l.map f).sum + f b
  | [], n, a, h => by simp at h
  | x :: l, 0, a, h => by
    obtain rfl : x = a := by simpa using h
    simp only [List.set_cons_zero, List.map_cons, List.sum_cons]
    omega
  | x :: l, n + 1, a, h => by
    have ih := sum_map_set f b (l := l) (by simpa using h)
    simp only [List.set_cons_succ, List.map_cons, List.sum_cons]
    omega

theorem stageEffort_set (hst : s.stages[id]? = some (c, ph))
    (h : s'.stages = s.stages.set id (c, ph')) :
    s'.stageEffort + ph.effort = s.stageEffort + ph'.effort := by
  rw [stageEffort, h]
  exact sum_map_set (fun st => st.2.effort) (c, ph') hst

/-! ### A task that is looked at -/

theorem length_wake (ids : List Nat) (s : Pool World Work Job Result) :
    (s.wake ids).ready.length ≤ s.ready.length + ids.length := by
  have h := List.length_filter_le (fun i => !s.isQueued i) ids
  simp only [wake, List.length_append]
  omega

theorem length_releaseSlot (s : Pool World Work Job Result) :
    s.releaseSlot.ready.length ≤ s.ready.length + 1 :=
  Nat.le_trans (length_wake _ _) (Nat.add_le_add_left (List.length_take_le _ _) _)

theorem length_leaveSlots (id : Nat) (s : Pool World Work Job Result) :
    (s.leaveSlots id).ready.length ≤ s.ready.length + 1 :=
  Nat.le_trans (length_wake _ _) (Nat.add_le_add_left (Turnstile.length_leave _ _) _)

theorem length_leaveGate (name : String) (id : Nat) (s : Pool World Work Job Result) :
    (s.leaveGate name id).ready.length ≤ s.ready.length + 1 :=
  Nat.le_trans (length_wake _ _) (Nat.add_le_add_left (Turnstile.length_leave _ _) _)

/-- A task that lets go wakes no more than it is charged for. -/
theorem length_letGo (id : Nat) (ph : Phase Job Result) (s : Pool World Work Job Result) :
    (s.letGo id ph).ready.length ≤ s.ready.length + ph.effort := by
  have hslot := length_releaseSlot s
  unfold letGo
  split
  · exact Nat.le_add_right _ _
  · have h := length_leaveSlots id s
    simp only [Phase.effort]
    omega
  · next name waits e =>
    have hgate := length_leaveGate name id s
    have hslot := length_releaseSlot (s.leaveGate name id)
    simp only [Phase.effort]
    omega
  · next hq hg he =>
    have hpos : 1 ≤ ph.effort := by
      cases ph with
      | ended time r => exact absurd rfl (hq time r)
      | queued | working | asleep | inJob | reported => simp [Phase.effort]
    omega

/-- **No look at a task raises the effort.** -/
theorem Look.effort_le (h : Look w id s s') : s'.effort ≤ s.effort := by
  rw [effort_eq, effort_eq]
  cases h with
  | gate | line | through => exact Nat.le_refl _
  | notice =>
    have heff : stageEffort (s.modifyTask id fun t => { t with noticed := true }) = s.stageEffort :=
      congrArg (fun l => (List.map _ l).sum) (stages_notice id s)
    exact Nat.le_of_eq (by rw [heff]; rfl)
  | @start t slots ht hp =>
    have hst := getElem?_stages ht
    have h := stageEffort_set hst (stages_launch (w := w) (s := { s with slots := slots }) ht)
    rw [hp] at h
    simp only [Phase.effort] at h
    show stageEffort _ + s.ready.length + s.called.length + 2 * s.jobs.length ≤ _
    omega
  | proceed ph ht hp he =>
    obtain ⟨e, hs⟩ := Option.isSome_iff_exists.mp hp
    have h := stageEffort_set (getElem?_stages ht) (stages_setPhase ht ph)
    rw [Phase.effort_of_endsIn hs, Phase.effort_of_endsIn (he.trans hs)] at h
    show stageEffort _ + s.ready.length + s.called.length + 2 * s.jobs.length ≤ _
    omega
  | @handOver t j ht hp =>
    have h := stageEffort_set (getElem?_stages ht) (stages_setPhase ht .inJob)
    rw [hp] at h
    simp only [Phase.effort] at h
    show stageEffort (s.setPhase id .inJob) + s.ready.length + s.called.length +
      2 * (s.jobs ++ [(id, j)]).length ≤ _
    rw [List.length_append, List.length_singleton]
    omega
  | @finish t r ht =>
    have h := stageEffort_set (getElem?_stages ht) (stages_finish (w := w) ht r)
    have hready := length_letGo id t.phase
      ({ s with world := w.leave id t.work s.world }.setPhase id (.ended s.now r))
    have hcalled := called_letGo
      ({ s with world := w.leave id t.work s.world }.setPhase id (.ended s.now r)) id t.phase
    rw [← finish_eq ht] at hready hcalled
    rw [hcalled, jobs_finish ht]
    have hended : (Phase.ended s.now r : Phase Job Result).effort = 0 := rfl
    change (s.finish w id r).ready.length ≤ s.ready.length + _ at hready
    show _ + _ + s.called.length + _ ≤ _
    omega

theorem Looks.effort_le (h : Looks w id s s') : s'.effort ≤ s.effort := by
  induction h with
  | refl => exact Nat.le_refl _
  | tail _ h ih => exact Nat.le_trans h.effort_le ih

/-! ### Turns -/

theorem effort_report (ht : s.tasks[id]? = some t) (hp : t.phase = .inJob) (r : Result) :
    ((s.setPhase id (.reported r)).wake [id]).effort ≤ s.effort + 1 := by
  have h := stageEffort_set (getElem?_stages ht) (stages_setPhase ht (.reported r))
  have hready := length_wake [id] (s.setPhase id (.reported r))
  rw [hp] at h
  simp only [Phase.effort] at h
  rw [effort_eq, effort_eq s]
  change _ ≤ s.ready.length + 1 at hready
  show stageEffort (s.setPhase id _) + _ + s.called.length + 2 * s.jobs.length ≤ _
  omega

theorem effort_runJob_le (id : Nat) (j : Job) (s : Pool World Work Job Result) :
    (s.runJob w id j).effort ≤ s.effort + 1 := by
  unfold runJob
  dsimp only
  split
  · next hp =>
    obtain ⟨t, ht, htp⟩ := Option.map_eq_some_iff.mp hp
    exact effort_report (s := { s with world := _, ticks := _ }) ht htp _
  · exact Nat.le_succ _

/-- **A turn lowers the effort**, as long as there is something to do. -/
theorem Turn.effort_lt (h : Turn w s s') (hidle : s.idle = false) : s'.effort < s.effort := by
  rw [effort_eq s]
  cases h with
  | @look id ready called contests hq =>
    have hlen := hq.length
    have hle := (looks_poll (w := w) (s.taking ready called contests) id).effort_le
    rw [effort_eq (s.taking ready called contests)] at hle
    change _ ≤ s.stageEffort + ready.length + called.length + 2 * s.jobs.length at hle
    omega
  | @job id j jobs _ hj =>
    have hle := effort_runJob_le (w := w) id j { s with jobs := jobs }
    rw [effort_eq { s with jobs := jobs }] at hle
    change _ ≤ s.stageEffort + s.ready.length + s.called.length + 2 * jobs.length + 1 at hle
    rw [hj, List.length_cons]
    omega
  | rest hq hj =>
    rw [idle_iff.mpr ⟨hq, hj⟩] at hidle
    cases hidle

theorem turn_of_idle (h : s.idle = true) : s.turn w = s := by
  obtain ⟨hq, hj⟩ := idle_iff.mp h
  obtain ⟨hr, hc⟩ := List.append_eq_nil_iff.mp hq
  unfold turn
  rw [hr, hc, hj]

theorem idle_of_effort (h : s.effort = 0) : s.idle = true := by
  rw [effort_eq] at h
  have hq : (s.ready ++ s.called).length = 0 := by
    rw [List.length_append]
    omega
  have hj : s.jobs.length = 0 := by omega
  exact idle_iff.mpr ⟨List.length_eq_zero_iff.mp hq, List.length_eq_zero_iff.mp hj⟩

/-- After a number of turns the pool is idle, or the effort has gone down by as many. -/
theorem effort_repeat (n : Nat) (s : Pool World Work Job Result) :
    (Nat.repeat (turn w) n s).idle = true ∨ (Nat.repeat (turn w) n s).effort + n ≤ s.effort := by
  induction n with
  | zero => exact .inr (Nat.le_refl _)
  | succ n ih =>
    show (turn w (Nat.repeat (turn w) n s)).idle = true ∨
      (turn w (Nat.repeat (turn w) n s)).effort + (n + 1) ≤ s.effort
    rcases hidle : (Nat.repeat (turn w) n s).idle with _ | _
    · have hlt := (turn_cases (w := w) _).effort_lt hidle
      have hle := ih.resolve_left (by rw [hidle]; exact Bool.false_ne_true)
      right
      omega
    · rw [turn_of_idle hidle]
      exact .inl hidle

/-- **A pool that has settled is idle.** -/
theorem idle_settle (s : Pool World Work Job Result) : (s.settle w).idle = true := by
  rcases effort_repeat (w := w) s.effort s with h | h
  · exact h
  · have hzero : (s.settle w).effort = 0 := by
      change (s.settle w).effort + s.effort ≤ s.effort at h
      omega
    exact idle_of_effort hzero

end Pool

end ArtifactFetch
