import ArtifactFetch.Pool.Script
import ArtifactFetch.Proofs.Pool.Slots

/-! # Who waits for a slot

A task that is in line is to be looked at, or it has been looked at and stands at the slots, and a
task that was granted a slot is to be looked at (`Attends`): looking at one task leaves every other
in order, for whoever is granted a slot by it becomes ready. So in a pool that is idle all tasks in
line stand at the slots, where nobody waits while a slot is free (`slots_accounted`). -/

namespace ArtifactFetch.Pool

variable {World Work Job Result : Type} {w : Workload World Work Job Result}
  {s s' : Pool World Work Job Result} {id i : Nat} {t : Task Work Job Result}

/-! ### Tasks that are called -/

theorem isQueued_iff : s.isQueued i = true ↔ s.Called i := by
  simp [isQueued, Called]

theorem called_wake {ids : List Nat} : (s.wake ids).Called i ↔ s.Called i ∨ i ∈ ids := by
  have h := isQueued_iff (s := s) (i := i)
  simp only [Called, wake, List.mem_append, List.mem_filter, Bool.not_eq_true',
    ← Bool.not_eq_true, h]
  tauto

theorem called_call {ids : List Nat} : (s.call ids).Called i ↔ s.Called i ∨ i ∈ ids := by
  have h := isQueued_iff (s := s) (i := i)
  simp only [Called, call, List.mem_append, List.mem_filter, Bool.not_eq_true',
    ← Bool.not_eq_true, h]
  tauto

/-- While a task is looked at, nobody is forgotten: who is called stays so, and who is granted a
slot becomes so. -/
structure Serves (id : Nat) (s s' : Pool World Work Job Result) : Prop where
  called : ∀ i, s.Called i → s'.Called i
  granted : ∀ i, i ∈ s'.slots.granted → i ∈ s.slots.granted ∨ s'.Called i
  queue : ∀ i, i ≠ id → i ∈ s.slots.queue → i ∈ s'.slots.queue ∨ s'.Called i

theorem Serves.of_slots (hs : s'.slots = s.slots) (hc : ∀ i, s.Called i → s'.Called i) :
    Serves id s s' :=
  ⟨hc, fun i h => .inl (by rwa [hs] at h), fun i _ h => .inl (by rwa [hs])⟩

theorem Serves.trans {a b c : Pool World Work Job Result} (h : Serves id a b)
    (h' : Serves id b c) : Serves id a c where
  called i hi := h'.called i (h.called i hi)
  granted i hi := (h'.granted i hi).elim (fun hb => (h.granted i hb).imp_right (h'.called i)) .inr
  queue i hne hi := (h.queue i hne hi).elim (h'.queue i hne) fun hb => .inr (h'.called i hb)

theorem serves_releaseSlot (s : Pool World Work Job Result) : Serves id s s.releaseSlot where
  called _ h := called_wake.mpr (.inl h)
  granted _ h := (Turnstile.mem_granted_release.mp h).imp_right fun h => called_wake.mpr (.inr h)
  queue _ _ h := (Turnstile.mem_queue_release h).imp_right fun h => called_wake.mpr (.inr h)

theorem serves_leaveSlots (s : Pool World Work Job Result) : Serves id s (s.leaveSlots id) where
  called _ h := called_wake.mpr (.inl h)
  granted _ h := (Turnstile.mem_granted_leave h).imp_right fun h => called_wake.mpr (.inr h)
  queue _ hne h := (Turnstile.mem_queue_leave h hne).imp_right fun h => called_wake.mpr (.inr h)

theorem serves_letGo (ph : Phase Job Result) (s : Pool World Work Job Result) :
    Serves id s (s.letGo id ph) := by
  unfold letGo
  split
  · exact .of_slots rfl fun _ h => h
  · exact serves_leaveSlots s
  · next name waits e =>
    have hg : Serves id s (s.leaveGate name id) :=
      .of_slots rfl fun _ h => called_wake.mpr (.inl h)
    exact hg.trans (serves_releaseSlot _)
  · exact serves_releaseSlot s

theorem Look.serves (h : Look w id s s') : Serves id s s' := by
  cases h with
  | gate | proceed | notice | through | handOver => exact .of_slots rfl fun _ h => h
  | line ht hp he =>
    obtain ⟨-, ⟨-, rfl⟩ | ⟨-, -, rfl⟩⟩ := Turnstile.enter_false he
    · exact .of_slots rfl fun _ h => h
    · exact ⟨fun _ h => h, fun _ h => .inl h, fun _ _ h => .inl (List.mem_append_left _ h)⟩
  | start ht hp he =>
    obtain ⟨-, rfl⟩ | ⟨-, -, -, rfl⟩ := Turnstile.enter_true he
    · exact ⟨fun _ h => h, fun _ h => .inl (List.mem_of_mem_erase h), fun _ _ h => .inl h⟩
    · exact ⟨fun _ h => h, fun _ h => .inl h, fun _ _ h => .inl h⟩
  | @finish t r ht =>
    have h : Serves id _ _ := serves_letGo t.phase
      ({ s with world := w.leave id t.work s.world }.setPhase id (.ended s.now r))
    rw [finish_eq ht]
    exact ⟨h.called, h.granted, h.queue⟩

theorem Looks.called (h : Looks w id s s') (hc : s.Called i) : s'.Called i := by
  induction h with
  | refl => exact hc
  | tail _ h ih => exact h.serves.called i ih

/-! ### Tasks in line are attended to -/

/-- A task in line is to be looked at or stands at the slots, and one that was granted a slot is to
be looked at. -/
structure Attends (s : Pool World Work Job Result) (i : Nat) : Prop where
  line : s.places[i]? = some .line → s.Called i ∨ i ∈ s.slots.queue
  granted : i ∈ s.slots.granted → s.Called i

theorem Attends.mono (h : s.Attends i) (hp : s'.places = s.places) (hs : s'.slots = s.slots)
    (hc : s.Called i → s'.Called i) : s'.Attends i where
  line hi := by
    rw [hp] at hi
    rw [hs]
    exact (h.line hi).imp_left hc
  granted hi := by
    rw [hs] at hi
    exact hc (h.granted hi)

/-- No task comes back into the line. -/
theorem Lineup.line_before (h : Lineup s s') (hi : s'.places[i]? = some .line) :
    s.places[i]? = some .line := by
  have hset : ∀ {n : Nat} {q : Place}, q ≠ .line → s'.places = s.places.set n q →
      s.places[i]? = some .line := by
    intro n q hq hp
    rw [hp] at hi
    exact (of_getElem?_set hi).resolve_left fun h => hq h.2
  cases h with
  | still hp | wait _ _ hp => rwa [hp] at hi
  | start _ _ hp | quit _ _ hp | done _ _ hp => exact hset (by simp) hp

theorem Look.attends (h : Look w id s s') (hne : i ≠ id) (ha : s.Attends i) : s'.Attends i where
  line hi := by
    obtain hc | hq := ha.line (h.change.lineup.line_before hi)
    · exact .inl (h.serves.called i hc)
    · exact (h.serves.queue i hne hq).symm
  granted hi :=
    (h.serves.granted i hi).elim (fun hg => h.serves.called i (ha.granted hg)) fun h => h

theorem Looks.attends (h : Looks w id s s') (hne : i ≠ id) (ha : s.Attends i) : s'.Attends i := by
  induction h with
  | refl => exact ha
  | tail _ h ih => exact h.attends hne ih

/-- A task that was looked at and still is in line stands at the slots, and was granted none. -/
theorem stands_of_poll (hi : (s.poll w id).places[id]? = some .line) :
    id ∈ (s.poll w id).slots.queue ∧ id ∉ (s.poll w id).slots.granted := by
  -- a task that has begun would not be in line again
  have hgone : ∀ {s₁ s₂ : Pool World Work Job Result}, Looks w id s₁ s₂ →
      s₁.places[id]? ≠ some .line → s₂.places[id]? ≠ some .line := by
    intro s₁ s₂ h hn
    induction h with
    | refl => exact hn
    | tail _ h ih => exact fun hi => ih (h.change.lineup.line_before hi)
  have hline : s.places[id]? = some .line := by
    by_contra hn
    exact hgone (looks_poll s id) hn hi
  obtain ⟨t, ht, hph⟩ := task_of_place hline
  have hq : t.phase = .queued := Phase.place_eq_line.mp hph
  rcases hc : s.cancelled with _ | _
  · rw [poll_of_running hc] at hi ⊢
    rcases he : s.slots.enter id with ⟨slots, _ | _⟩
    · rw [goOn_line ht hq (not_locked hc) he] at hi ⊢
      obtain ⟨hg, ⟨hm, rfl⟩ | ⟨-, -, rfl⟩⟩ := Turnstile.enter_false he
      · exact ⟨hm, hg⟩
      · exact ⟨List.mem_append_right _ List.mem_cons_self, hg⟩
    · have hlaunch := getElem?_tasks_launch (w := w) (s := { s with slots := slots }) ht
      rw [goOn_start ht hq (not_locked hc) he, begin_eq] at hi
      refine absurd hi (hgone (looks_walk _ hlaunch rfl) ?_)
      rw [place_of_task hlaunch]
      simp [Phase.place]
  · obtain ⟨t', ht', hph'⟩ := task_of_place hi
    have hended := ended_poll_of_cancelled hc (getElem?_stages ht')
    rw [Phase.place_eq_line.mp hph'] at hended
    cases hended

/-- **Looking at a task**, every other stays in order. -/
theorem attends_poll (hs : SlotsSound (s.poll w id)) (ha : ∀ i, i ≠ id → s.Attends i) (i : Nat) :
    (s.poll w id).Attends i := by
  by_cases hne : i = id
  · subst hne
    refine ⟨fun hi => .inr (stands_of_poll hi).1, fun hi => ?_⟩
    exact absurd hi (stands_of_poll (hs.line i (.inr hi))).2
  · exact (looks_poll s id).attends hne (ha i hne)

theorem called_runJob (id : Nat) (j : Job) (jobs : List (Nat × Job)) (h : s.Called i) :
    ({ s with jobs := jobs }.runJob w id j).Called i := by
  unfold runJob
  dsimp only
  split
  · exact called_wake.mpr (.inl h)
  · exact h

/-- A job leaves places and slots as they are. -/
theorem attends_runJob (id : Nat) (j : Job) (jobs : List (Nat × Job)) (ha : s.Attends i) :
    ({ s with jobs := jobs }.runJob w id j).Attends i := by
  obtain ⟨hp, hs⟩ := places_runJob (w := w) id j jobs s
  exact ha.mono hp hs (called_runJob id j jobs)

theorem Turn.attends (h : Turn w s s') (hs : SlotsSound s') (ha : ∀ i, s.Attends i) (i : Nat) :
    s'.Attends i := by
  cases h with
  | look hq =>
    exact attends_poll hs (fun i hne => (ha i).mono rfl rfl fun hc => hq.called_of_ne hne hc) i
  | job => exact attends_runJob _ _ _ (ha i)
  | rest => exact ha i

/-- **One step of a pool**: its tasks in line are attended to. -/
theorem Step.attends (h : Step w s s') (hs : SlotsSound s') (ha : ∀ i, s.Attends i) (i : Nat) :
    s'.Attends i := by
  cases h with
  | spawn work =>
    have hc : ∀ i, s.Called i → (s.accept work).Called i := fun i h => called_call.mpr (.inl h)
    refine ⟨fun hi => ?_, fun hi => hc i ((ha i).granted hi)⟩
    rw [places_accept, List.getElem?_append, length_places] at hi
    split_ifs at hi with hn
    · exact ((ha i).line hi).imp_left (hc i)
    · have hlast : i = s.tasks.length := by
        obtain ⟨hlt, -⟩ := List.getElem?_eq_some_iff.mp hi
        rw [List.length_singleton] at hlt
        omega
      exact .inl (called_call.mpr (.inr (List.mem_singleton.mpr hlast)))
  | touch | close => exact (ha i).mono rfl rfl fun h => h
  | look id => exact attends_poll hs (fun i _ => ha i) i
  | job n =>
    unfold runJobAt
    split
    · exact attends_runJob _ _ _ (ha i)
    · exact ha i
  | turn => exact (turn_cases s).attends hs ha i
  | lock => exact (ha i).mono rfl rfl fun h => h
  | tick | cancel => exact (ha i).mono rfl rfl fun h => called_wake.mpr (.inl h)
  | release gate n => exact (ha i).mono rfl rfl fun h => called_call.mpr (.inl h)

theorem slotsSound_steps (h : Steps w s s') (hs : SlotsSound s) : SlotsSound s' :=
  of_steps (P := SlotsSound) (fun _ _ h hs => hs.lineup h.limit h.lineup)
    (fun _ work hs => hs.accept work) (fun _ _ hs => ⟨hs.total, hs.order, hs.line⟩) h hs

theorem startsSound_steps (h : Steps w s s') (hs : StartsSound s) : StartsSound s' :=
  of_steps (P := StartsSound) (fun _ _ h hs => hs.lineup h.lineup)
    (fun _ work hs => hs.accept work) (fun _ _ hs => ⟨hs.begun, hs.left⟩) h hs

theorem attends_steps (h : Steps w s s') (hs : SlotsSound s) (ha : ∀ i, s.Attends i) :
    ∀ i, s'.Attends i := by
  induction h with
  | refl => exact ha
  | tail h hstep ih => exact hstep.attends (slotsSound_steps (h.tail hstep) hs) ih

/-! ### Slot accounting -/

/-- **The slots of a pool that has `m` of them.** -/
structure SlotsAccounted (m : Nat) (s : Pool World Work Job Result) : Prop where
  /-- No more tasks than that have started and not ended. -/
  capped : s.underWay.length ≤ m
  /-- A slot is free, granted to a task in line, or with a task that has started and not ended. -/
  conserved : s.slots.free + s.slots.granted.length + s.underWay.length = m
  holders : ∀ i, i ∈ s.underWay ↔ ∃ t, s.tasks[i]? = some t ∧ t.holdsSlot = true
  granted : s.slots.granted.Nodup ∧
    ∀ i ∈ s.slots.granted, ∃ t, s.tasks[i]? = some t ∧ t.phase = .queued
  /-- When nothing can happen before the clock moves, a task in line waits for one of these. -/
  waits : s.idle = true → ∀ t ∈ s.tasks, t.phase = .queued →
    s.slots.free = 0 ∧ s.slots.granted = [] ∧ s.underWay.length = m

theorem accounted_of_sound (hs : SlotsSound s) (hb : StartsSound s) (ha : ∀ i, s.Attends i) :
    SlotsAccounted s.limit s := by
  have htotal : s.slots.free + s.slots.granted.length + s.underWay.length = s.limit := by
    rw [hb.length_underWay]
    exact hs.total
  refine ⟨by omega, htotal, fun i => ?_, ⟨hs.order.granted_nodup, fun i hi => ?_⟩,
    fun hidle t ht hq => ?_⟩
  · rw [hb.mem_underWay]
    constructor
    · intro hp
      obtain ⟨t, ht, hph⟩ := task_of_place hp
      exact ⟨t, ht, Task.holdsSlot_iff.mpr hph⟩
    · rintro ⟨t, ht, hh⟩
      rw [place_of_task ht, Task.holdsSlot_iff.mp hh]
  · obtain ⟨t, ht, hph⟩ := task_of_place (hs.line i (.inr hi))
    exact ⟨t, ht, Phase.place_eq_line.mp hph⟩
  · -- nobody is called, so the task stands at the slots, and none was granted
    have hnone := not_called (idle_iff.mp hidle).1
    obtain ⟨i, hi⟩ := List.mem_iff_getElem?.mp ht
    have hplace := place_of_task hi
    rw [Phase.place_eq_line.mpr hq] at hplace
    have hqueue := ((ha i).line hplace).resolve_left (hnone i)
    have hfree := hs.order.full (List.ne_nil_of_mem hqueue)
    have hgranted : s.slots.granted = [] :=
      List.eq_nil_iff_forall_not_mem.mpr fun j hj => hnone j ((ha j).granted hj)
    refine ⟨hfree, hgranted, ?_⟩
    rw [hfree, hgranted, List.length_nil] at htotal
    omega

theorem create_of_le {n : Nat} (h : n ≤ maxSlots) (world : World) :
    (create n world : Except Nat (Pool World Work Job Result)) = .ok (withLimit n world) := by
  unfold create
  rw [if_neg (Nat.not_lt_of_le h)]

/-- **Slot accounting.** In every run of a pool of any limit, of any workload, torn down or not: the
tasks that have started and not ended are no more than the slots; every slot is free, granted or
with one of these; and in an idle pool a task waits in line only if these have all slots. -/
theorem slots_accounted {n : Nat} {world : World} (h : create n world = .ok s)
    (ms : List (Move World Work)) : SlotsAccounted (max n 1) (s.moveAll w ms) := by
  obtain rfl : withLimit n world = s := by
    unfold create at h
    split_ifs at h
    exact Except.ok.inj h
  have hslots : SlotsSound (withLimit n world : Pool World Work Job Result) :=
    ⟨rfl, Turnstile.sound_withFree _, fun i hi => absurd hi (by simp [Turnstile.Holds, withLimit,
      Turnstile.withFree])⟩
  have hstarts : StartsSound (withLimit n world : Pool World Work Job Result) :=
    ⟨fun i hi => by simp [places, stages, withLimit] at hi, fun i hi => by simp [withLimit] at hi⟩
  have hattends : ∀ i, (withLimit n world : Pool World Work Job Result).Attends i := fun i =>
    ⟨fun hi => by simp [places, stages, withLimit] at hi, fun hi => by
      simp [withLimit, Turnstile.withFree] at hi⟩
  have hrun := steps_moveAll (w := w) ms (withLimit n world)
  have hlimit : ((withLimit n world).moveAll w ms).limit = max n 1 :=
    of_steps (P := fun s => s.limit = max n 1) (fun _ _ h hl => h.limit.trans hl)
      (fun _ _ hl => hl) (fun _ _ hl => hl) hrun rfl
  rw [← hlimit]
  exact accounted_of_sound (slotsSound_steps hrun hslots) (startsSound_steps hrun hstarts)
    (attends_steps hrun hslots hattends)

/-- A pool of limit 0 has one slot. The second task waits for it until the first has panicked, and
is granted it then. -/
theorem slots_accounted_panic :
    let s : ScriptPool Nat := .withLimit 0 ()
    let ms₁ : List (Move Unit (Script Nat)) :=
      [.spawn ⟨"a", [.gate "g"], .panicked ⟨some "broken"⟩⟩, .spawn ⟨"b", [.sleep 5], .value 1⟩,
        .turn, .turn]
    let ms₂ := ms₁ ++ [.release "g" 1, .turn]
    let s₁ := s.moveAll Script.workload ms₁
    let s₂ := s.moveAll Script.workload ms₂
    (s₁.idle, s₁.slots.queue, s₁.underWay) = (true, [1], [0]) ∧ SlotsAccounted 1 s₁ ∧
      (s₂.slots.granted, s₂.underWay) = ([1], []) ∧ SlotsAccounted 1 s₂ := by
  intro s ms₁ ms₂ s₁ s₂
  have hcreate : create 0 () = .ok s := create_of_le (by simp) ()
  have h₁ : SlotsAccounted 1 s₁ := slots_accounted hcreate ms₁
  have h₂ : SlotsAccounted 1 s₂ := slots_accounted hcreate ms₂
  exact ⟨by decide +kernel, h₁, by decide +kernel, h₂⟩

end ArtifactFetch.Pool
