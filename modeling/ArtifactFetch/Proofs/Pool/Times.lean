import ArtifactFetch.Proofs.Pool.Resting

/-! # Tasks and the clock

`Fate` says what a change of a pool can do to one task: it starts, goes on, hands its job over,
reports or ends, or it stays as it is. When it starts and when it ends it keeps the instant, so who
is in line has none, who has a slot has that of its start (`Dated`), and over any number of steps
what was kept stays and what is new is not earlier than they began (`Since`). -/

namespace ArtifactFetch.Pool

variable {World Work Job Result : Type} {w : Workload World Work Job Result}
  {s s' : Pool World Work Job Result} {id i : Nat} {t t' t'' : Task Work Job Result}

/-! ### What becomes of a task in one change -/

/-- **What a change can do to a task.** -/
inductive Fate (w : Workload World Work Job Result) (s : Pool World Work Job Result) (id : Nat)
    (t : Task Work Job Result) : Task Work Job Result → Prop
  | stay : Fate w s id t t
  | notice : Fate w s id t { t with noticed := true }
  | start (hp : t.phase = .queued) (world : World) : Fate w s id t { t with
      phase := .working (w.start id t.work world).2.waits (w.start id t.work world).2.ending
      startedAt := some s.now }
  | proceed {e : Ending Job Result} {phase : Phase Job Result} (hp : t.phase.endsIn = some e)
    (he : phase.endsIn = some e) : Fate w s id t { t with phase := phase }
  | handOver {j : Job} (hp : t.phase = .working [] (.job j)) :
    Fate w s id t { t with phase := .inJob }
  | report {j : Job} (hp : t.phase = .inJob) (hj : (id, j) ∈ s.jobs) :
    Fate w s id t { t with phase := .reported (w.run id j s.world).2 }
  | finish {r : Result} (hl : t.isLive = true) (he : Ends w s t r) :
    Fate w s id t { t with phase := .ended s.now r }

/-- One task is changed, and the others are not. -/
theorem fate_modify {f : Task Work Job Result → Task Work Job Result}
    (hf : ∀ t, s.tasks[i]? = some t → Fate w s i t (f t))
    (ht' : (s.tasks.modify i f)[id]? = some t') :
    ∃ t, s.tasks[id]? = some t ∧ Fate w s id t t' := by
  rw [List.getElem?_modify, Option.map_eq_map, Option.map_eq_some_iff] at ht'
  obtain ⟨t, ht, rfl⟩ := ht'
  refine ⟨t, ht, ?_⟩
  split_ifs with hi
  · subst hi
    exact hf t ht
  · exact .stay

theorem fate_of_task {f : Task Work Job Result → Task Work Job Result}
    (ht : s.tasks[i]? = some t) (hf : Fate w s i t (f t))
    (ht' : (s.tasks.modify i f)[id]? = some t') :
    ∃ t, s.tasks[id]? = some t ∧ Fate w s id t t' :=
  fate_modify (fun t₀ ht₀ => by rwa [← Option.some.inj (ht.symm.trans ht₀)]) ht'

theorem fate_runJob {n : Nat} {j : Job} (hj : s.jobs[n]? = some (i, j))
    (ht' : ({ s with jobs := s.jobs.eraseIdx n }.runJob w i j).tasks[id]? = some t') :
    ∃ t, s.tasks[id]? = some t ∧ Fate w s id t t' := by
  unfold runJob at ht'
  dsimp only at ht'
  split at ht'
  · next hp =>
    obtain ⟨t, ht, hphase⟩ := Option.map_eq_some_iff.mp hp
    exact fate_of_task ht (.report hphase (List.mem_of_getElem? hj)) ht'
  · exact ⟨t', ht', .stay⟩

/-- **Whatever happens to a pool**, its tasks meet one of these fates. -/
theorem Change.fate (h : Change w s s') (ht' : s'.tasks[id]? = some t') :
    ∃ t, s.tasks[id]? = some t ∧ Fate w s id t t' := by
  cases h with
  | queue | tick | gate | line | through | close | cancel | lock => exact ⟨t', ht', .stay⟩
  | notice i => exact fate_modify (fun _ _ => .notice) ht'
  | start ht hp => exact fate_of_task ht (.start hp s.world) ht'
  | proceed phase ht hp he =>
    obtain ⟨e, hs⟩ := Option.isSome_iff_exists.mp hp
    exact fate_of_task ht (.proceed hs (he.trans hs)) ht'
  | handOver ht hp => exact fate_of_task ht (.handOver hp) ht'
  | run hj => exact fate_runJob hj ht'
  | finish ht hl he =>
    rw [finish_eq ht, tasks_letGo] at ht'
    exact fate_of_task ht (.finish hl he) ht'

/-! ### The instants of a task -/

/-- **The instants of a task**: in line it has none, with a slot it has that of its start, and
neither its start nor its end is still to come. -/
structure Dated (now : Instant) (t : Task Work Job Result) : Prop where
  line : t.phase = .queued → t.startedAt = none
  slot : t.holdsSlot = true → t.startedAt.isSome = true
  started : ∀ start, t.startedAt = some start → start ≤ now
  ended : ∀ time r, t.phase = .ended time r → time ≤ now

theorem Dated.mono {now now' : Instant} (h : Dated now t) (hle : now ≤ now') : Dated now' t :=
  ⟨h.line, h.slot, fun start hs => Nat.le_trans (h.started start hs) hle,
    fun time r hp => Nat.le_trans (h.ended time r hp) hle⟩

theorem dated_new (now : Instant) (work : Work) :
    Dated now (Task.new work : Task Work Job Result) :=
  ⟨fun _ => rfl, fun h => (by cases h), fun _ h => (by cases h), fun _ _ h => (by cases h)⟩

/-- A task with a slot keeps its instant while it has it. -/
theorem Dated.setPhase {now : Instant} (h : Dated now t) {phase : Phase Job Result}
    (hl : t.phase ≠ .queued) (hlive : t.isLive = true) (hq : phase ≠ .queued)
    (he : ∀ time r, phase = .ended time r → time ≤ now) : Dated now { t with phase := phase } := by
  have hslot : t.holdsSlot = true := by
    rw [Task.holdsSlot_iff]
    cases hp : t.phase with
    | queued => exact absurd hp hl
    | ended time r =>
      rw [← Task.isLive_phase, hp] at hlive
      cases hlive
    | working | asleep | inJob | reported => rfl
  exact ⟨fun hq' => absurd hq' hq, fun _ => h.slot hslot, h.started, he⟩

theorem Fate.dated (h : Fate w s id t t') (hd : Dated s.now t) : Dated s.now t' := by
  have hlive : t.isLive = t.phase.isLive := (Task.isLive_phase t).symm
  cases h with
  | stay => exact hd
  | notice => exact ⟨hd.line, hd.slot, hd.started, hd.ended⟩
  | start hp =>
    refine ⟨fun hq => (by cases hq), fun _ => rfl, fun start hs => ?_, fun _ _ he => (by cases he)⟩
    cases hs
    exact Nat.le_refl _
  | @proceed e phase hp he =>
    refine hd.setPhase ?_ (by rw [hlive]; exact Phase.isLive_of_endsIn_eq hp) ?_ ?_
    · intro hq
      rw [hq] at hp
      cases hp
    · rintro rfl
      cases he
    · rintro time r rfl
      cases he
  | handOver hp =>
    exact hd.setPhase (by simp [hp]) (by rw [hlive, hp]; rfl) (by simp) (by simp)
  | report hp =>
    exact hd.setPhase (by simp [hp]) (by rw [hlive, hp]; rfl) (by simp) (by simp)
  | finish hl =>
    refine ⟨fun hq => (by cases hq), fun h => (by cases h), hd.started, fun time r he => ?_⟩
    cases he
    exact Nat.le_refl _

/-! ### What becomes of a task in time -/

/-- **A task from an instant on**: what it has kept of its instants, and that the others came later.
-/
structure Ages (now : Instant) (t t' : Task Work Job Result) : Prop where
  work : t'.work = t.work
  kept : t.startedAt.isSome = true → t'.startedAt = t.startedAt
  began : t.startedAt = none → ∀ start, t'.startedAt = some start → now ≤ start
  gone : t.isLive = false → t'.phase = t.phase
  ended : t.isLive = true → ∀ time r, t'.phase = .ended time r → now ≤ time

namespace Ages

theorem refl (now : Instant) (t : Task Work Job Result) : Ages now t t where
  work := rfl
  kept _ := rfl
  began hn start hs := by
    rw [hn] at hs
    cases hs
  gone _ := rfl
  ended hl time r hp := by
    rw [← Task.isLive_phase, hp] at hl
    cases hl

theorem trans {now now' : Instant} (h : Ages now t t') (h' : Ages now' t' t'')
    (hle : now ≤ now') : Ages now t t'' where
  work := h'.work.trans h.work
  kept hs := by
    have ht' := h.kept hs
    exact (h'.kept (by rwa [ht'])).trans ht'
  began hn start hs := by
    cases ht' : t'.startedAt with
    | none => exact Nat.le_trans hle (h'.began ht' start hs)
    | some a =>
      have hkept := h'.kept (by rw [ht']; rfl)
      rw [hs, ht'] at hkept
      cases hkept
      exact h.began hn start ht'
  gone hl := by
    have hp := h.gone hl
    refine (h'.gone ?_).trans hp
    rw [← Task.isLive_phase, hp, Task.isLive_phase, hl]
  ended hl time r hp := by
    cases hl' : t'.isLive with
    | true => exact Nat.le_trans hle (h'.ended hl' time r hp)
    | false => exact h.ended hl time r ((h'.gone hl').symm.trans hp)

/-- A task that has not ended goes to another phase. -/
theorem setPhase {now : Instant} {phase : Phase Job Result} (hl : t.isLive = true)
    (he : ∀ time r, phase = .ended time r → now ≤ time) : Ages now t { t with phase := phase } where
  work := rfl
  kept _ := rfl
  began := (refl now t).began
  gone hd := by
    rw [hl] at hd
    cases hd
  ended _ := he

end Ages

theorem Fate.ages (h : Fate w s id t t') (hd : Dated s.now t) : Ages s.now t t' := by
  have hlive : t.isLive = t.phase.isLive := (Task.isLive_phase t).symm
  cases h with
  | stay => exact .refl _ _
  | notice =>
    have h := Ages.refl s.now t
    exact ⟨rfl, h.kept, h.began, h.gone, h.ended⟩
  | start hp =>
    refine ⟨rfl, fun hs => ?_, fun _ start hs => ?_, fun hgone => ?_, fun _ _ _ he => by cases he⟩
    · rw [hd.line hp] at hs
      cases hs
    · cases hs
      exact Nat.le_refl _
    · rw [hlive, hp] at hgone
      cases hgone
  | proceed hp he =>
    refine .setPhase (by rw [hlive]; exact Phase.isLive_of_endsIn_eq hp) ?_
    rintro time r rfl
    cases he
  | handOver hp => exact .setPhase (by rw [hlive, hp]; rfl) (by simp)
  | report hp => exact .setPhase (by rw [hlive, hp]; rfl) (by simp)
  | finish hl =>
    refine .setPhase hl fun time r hp => ?_
    cases hp
    exact Nat.le_refl _

/-- **What has become of the tasks of a pool** since it was another. -/
structure Since (s₀ s : Pool World Work Job Result) : Prop where
  now : s₀.now ≤ s.now
  tasks : s₀.tasks.length ≤ s.tasks.length
  dated : ∀ (id : Nat) (t : Task Work Job Result), s.tasks[id]? = some t → Dated s.now t
  /-- A task that was not there has been new meanwhile. -/
  ages : ∀ (id : Nat) (t : Task Work Job Result), s.tasks[id]? = some t →
    Ages s₀.now (s₀.tasks[id]?.getD (.new t.work)) t

namespace Since

variable {s₀ : Pool World Work Job Result}

theorem refl (h : ∀ (id : Nat) (t : Task Work Job Result), s.tasks[id]? = some t →
    Dated s.now t) : Since s s :=
  ⟨Nat.le_refl _, Nat.le_refl _, h, fun id t ht => by rw [ht]; exact .refl _ _⟩

theorem change (hs : Since s₀ s) (h : Change w s s') : Since s₀ s' := by
  have hnow := h.onward.now
  have hlen : s'.tasks.length = s.tasks.length := by
    rw [← length_stages, ← length_stages]
    exact h.effect.length_stages
  refine ⟨Nat.le_trans hs.now hnow, by rw [hlen]; exact hs.tasks, fun id t' ht' => ?_,
    fun id t' ht' => ?_⟩ <;> obtain ⟨t, ht, hfate⟩ := h.fate ht'
  · exact (hfate.dated (hs.dated id t ht)).mono hnow
  · have hages := hfate.ages (hs.dated id t ht)
    rw [hages.work]
    exact (hs.ages id t ht).trans hages hs.now

theorem accept (hs : Since s₀ s) (work : Work) : Since s₀ (s.accept work) := by
  have hnew : ∀ (id : Nat) (t : Task Work Job Result), (s.accept work).tasks[id]? = some t →
      s.tasks[id]? = some t ∨ t = .new work ∧ s₀.tasks[id]? = none := by
    intro id t ht
    change (s.tasks ++ [Task.new work])[id]? = some t at ht
    rw [List.getElem?_append] at ht
    split_ifs at ht with hid
    · exact .inl ht
    · obtain ⟨-, rfl⟩ := List.getElem?_eq_some_iff.mp ht
      rw [List.getElem_singleton]
      exact .inr ⟨rfl, List.getElem?_eq_none (Nat.le_trans hs.tasks (Nat.le_of_not_lt hid))⟩
  refine ⟨hs.now, ?_, fun id t ht => ?_, fun id t ht => ?_⟩
  · show s₀.tasks.length ≤ (s.tasks ++ [Task.new work]).length
    rw [List.length_append]
    exact Nat.le_add_right_of_le hs.tasks
  · obtain hold | ⟨rfl, -⟩ := hnew id t ht
    · exact hs.dated id t hold
    · exact dated_new _ _
  · obtain hold | ⟨rfl, hnone⟩ := hnew id t ht
    · exact hs.ages id t hold
    · rw [hnone]
      exact .refl _ _

/-- **Over any number of steps.** -/
theorem steps (hs : Since s₀ s) (h : Steps w s s') : Since s₀ s' :=
  of_steps (P := Since s₀) (fun _ _ h hs => hs.change h) (fun _ work hs => hs.accept work)
    (fun _ _ hs => ⟨hs.now, hs.tasks, hs.dated, hs.ages⟩) h hs

end Since

theorem since_withLimit (limit : Nat) (world : World) :
    Since (withLimit limit world : Pool World Work Job Result) (withLimit limit world) :=
  .refl fun id t ht => by simp [withLimit] at ht

end ArtifactFetch.Pool
