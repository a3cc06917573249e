import ArtifactFetch.Pool.Script
import ArtifactFetch.Proofs.Pool.Succession

/-! # First come, first served

A pool looks at its tasks in the order of its queues, and what it does in one turn leaves them in
order (`Ordered.turn`): the task that is next in line starts, or finds no slot and lines up behind
all others, or a task at work goes on. So does whatever else may happen to it, but that a task is
looked at out of turn, until it is shut down; and a locked pool starts no task. Hence every run
gives its slots in the order in which the tasks were accepted, and a task starts before an earlier
one only if that one was granted its slot and the runtime takes the later one first, which was
called from outside. As long as the runtime never does this, the tasks start in the order in which
they were accepted (`starts_in_order`). -/

namespace ArtifactFetch.Pool

variable {World Work Job Result : Type} {w : Workload World Work Job Result}
  {s s' : Pool World Work Job Result} {id i j : Nat} {t : Task Work Job Result}
  {ready called ready' called' : List Nat} {contests : List Bool} {l : List Bool}

open Front (Taken)

/-! ### Taking a task out of the queues -/

/-- The next task is taken out of its queue. -/
theorem Pick.taken (hq : Pick w s id ready called contests) {calm : Prop}
    (hcalm : calm → s.ready = [] ∨ id ∉ s.called ∨ s.outsideNext w = false) :
    Taken id calm s.ready s.called ready called := by
  cases hq with
  | ready hr hc =>
    rw [hr, hc]
    exact .ready _ _
  | called hr hc =>
    rw [hr, hc]
    exact .called _ fun _ => rfl
  | inside hr =>
    rw [hr]
    exact .ready _ _
  | outside hr hc ho =>
    rw [hc] at hcalm ⊢
    refine .called _ fun hk => (hcalm hk).resolve_right ?_
    simp [ho]

/-- What was decided when the next task was taken is the last decision. -/
theorem Pick.calm (hq : Pick w s id ready called contests) (hk : true ∉ contests) :
    true ∉ s.contests ∧ (s.ready = [] ∨ id ∉ s.called ∨ s.outsideNext w = false) := by
  cases hq with
  | ready _ hc => exact ⟨hk, .inr (.inl (by rw [hc]; exact List.not_mem_nil))⟩
  | called hr _ => exact ⟨hk, .inl hr⟩
  | inside _ _ ho => exact ⟨fun hm => hk (List.mem_append_left _ hm), .inr (.inr ho)⟩
  | outside => exact absurd (List.mem_append_right _ List.mem_cons_self) hk

theorem taken_among {calm : Prop} (h : Taken id calm ready called ready' called')
    (hl : l[id]? = some true) :
    Taken id calm (among l ready) (among l called) (among l ready') (among l called') := by
  cases h with
  | ready =>
    rw [among_cons_of_line hl]
    exact .ready _ _
  | called _ hcalm =>
    rw [among_cons_of_line hl]
    exact .called _ fun hk => by rw [hcalm hk]; rfl

theorem among_taken {calm : Prop} (h : Taken id calm ready called ready' called')
    (hl : l[id]? ≠ some true) :
    among l ready' = among l ready ∧ among l called' = among l called := by
  cases h with
  | ready => exact ⟨(among_cons_of_ne hl _).symm, rfl⟩
  | called => exact ⟨rfl, (among_cons_of_ne hl _).symm⟩

namespace Ordered

/-- Who is left in the queues is a task. -/
theorem known_of_pick (h : s.Ordered) (hq : Pick w s id ready called contests)
    (hi : i ∈ ready ∨ i ∈ called) : i < s.line.length :=
  h.known i (hq.called_iff.mpr (.inr hi))

/-- A task that is not in line is taken out of the queues. -/
theorem taken (h : s.Ordered) (hq : Pick w s id ready called contests)
    (hl : s.line[id]? ≠ some true) : (s.taking ready called contests).Ordered where
  front := by
    obtain ⟨hr, hc⟩ := among_taken (hq.taken fun hk : False => hk.elim) hl
    have hf : (s.taking ready called contests).front =
        { s.front with calm := true ∉ contests } := by
      show (⟨s.line, among s.line ready, among s.line called, _, _, _⟩ : Front) = _
      rw [hr, hc]
      rfl
    rw [hf]
    exact h.front.of_calm fun hk => (hq.calm hk).1
  gates := h.gates
  known _ hi := h.known_of_pick hq hi

/-! ### Turns -/

/-- The next task in line takes its slot. -/
theorem launch (h : s.Ordered) (hq : Pick w s id ready called contests)
    (ht : s.tasks[id]? = some t) (hp : t.phase = .queued) {slots : Turnstile}
    (he : s.slots.enter id = (slots, true)) :
    ({ s.taking ready called contests with slots := slots }.launch w id t).Ordered := by
  have hl : s.line[id]? = some true := by
    rw [line_of_task ht, hp]
    rfl
  have htaken := taken_among (hq.taken fun hk : true ∉ contests => (hq.calm hk).2) hl
  obtain ⟨hready, hcalled⟩ := h.front.not_mem htaken he
  have hplaces := places_set (stages_launch (w := w)
    (s := { s.taking ready called contests with slots := slots }) ht)
  have hline : ({ s.taking ready called contests with slots := slots }.launch w id t).line =
      s.line.set id false := by
    rw [line, hplaces, List.map_set]
    rfl
  refine ⟨?_, fun name i hi => ?_, fun i hi => ?_⟩
  · have hf : ({ s.taking ready called contests with slots := slots }.launch w id t).front =
        ⟨s.line.set id false, among s.line ready, among s.line called, slots, s.begun ++ [id],
          true ∉ contests⟩ := by
      unfold Pool.front
      rw [hline, ← among_set hready, ← among_set hcalled]
      exact congrArg (Front.mk _ _ _ _ · _) (begun_started id s)
    rw [hf]
    exact h.front.start htaken (fun hk => (hq.calm hk).1) he
  · have hi' := h.gates name i hi
    rw [hline, getElem?_set_of hl]
    split_ifs
    · rfl
    · exact hi'
  · rw [hline, List.length_set]
    exact h.known_of_pick hq hi

/-- **The next task in line is looked at**: it starts, or it lines up. -/
theorem look_line (h : s.Ordered) (hc : s.cancelled = false)
    (hq : Pick w s id ready called contests) (hl : s.line[id]? = some true) :
    ((s.taking ready called contests).goOn w id).Ordered := by
  obtain ⟨t, ht, hplace⟩ := task_of_line hl
  have hp : t.phase = .queued := Phase.place_eq_line.mp (by simpa using hplace)
  rcases he : s.slots.enter id with ⟨slots, _ | _⟩
  · have htaken := taken_among (hq.taken fun hk : true ∉ contests => (hq.calm hk).2) hl
    rw [goOn_line (s := s.taking ready called contests) ht hp (not_locked hc) he]
    exact ⟨h.front.lineUp htaken (fun hk => (hq.calm hk).1) he, h.gates, fun i hi =>
      h.known_of_pick hq hi⟩
  · rw [goOn_start (s := s.taking ready called contests) ht hp (not_locked hc) he, begin_eq]
    exact (h.launch hq ht hp he).walk _ (getElem?_tasks_launch
      (s := { s.taking ready called contests with slots := slots }) ht) (by simp [Phase.place])

/-- A task that is not in line is looked at. -/
theorem look (h : s.Ordered) (hl : s.line[id]? ≠ some true) : (s.goOn w id).Ordered := by
  unfold goOn
  rcases ht : s.tasks[id]? with _ | t
  · exact h
  have hp : t.phase.place ≠ .line := by
    rw [line_of_task ht] at hl
    simpa using hl
  dsimp only
  cases hphase : t.phase with
  | queued =>
    rw [hphase] at hp
    exact absurd rfl hp
  | working waits e => exact h.walk waits ht hp
  | asleep wake waits e =>
    dsimp only
    split_ifs
    · exact (h.setPhase ht hp (by simp [Phase.place])).walk waits (getElem?_tasks_setPhase ht _)
        (by simp [Phase.place])
    · exact h.stay ht hp
  | inJob => exact h.stay ht hp
  | reported r => exact h.finish ht hp r
  | ended time r => exact h

theorem runJob (h : s.Ordered) (id : Nat) (j : Job) (jobs : List (Nat × Job)) :
    ({ s with jobs := jobs }.runJob w id j).Ordered := by
  have hrun : Ordered { s with
      jobs := jobs, world := (w.run id j s.world).1, ticks := s.ticks + 1 } :=
    h.congr rfl rfl rfl rfl rfl rfl rfl
  unfold Pool.runJob
  dsimp only
  split
  · next hid =>
    obtain ⟨t, ht, hp⟩ := Option.map_eq_some_iff.mp hid
    have hplace : t.phase.place ≠ .line := by simp [hp, Phase.place]
    refine (hrun.setPhase ht hplace (by simp [Phase.place])).wake fun i hi => ?_
    rw [List.mem_singleton.mp hi]
    exact line_of_task (getElem?_tasks_setPhase
      (s := { s with jobs := jobs, world := (w.run id j s.world).1, ticks := s.ticks + 1 }) ht
      (.reported _))
  · exact hrun

/-- **A turn leaves the tasks in order.** -/
theorem turn (h : s.Ordered) (hc : s.cancelled = false) : (s.turn w).Ordered := by
  have hturn := turn_cases (w := w) s
  generalize s.turn w = s' at hturn ⊢
  cases hturn with
  | @look id ready called contests hq =>
    rw [poll_of_running (s := s.taking ready called contests) hc]
    by_cases hl : s.line[id]? = some true
    · exact h.look_line hc hq hl
    · exact (h.taken hq hl).look hl
  | job => exact h.runJob _ _ _
  | rest => exact h

/-! ### What else may happen -/

/-- Who is in line has no alarm. -/
theorem moveTo (h : s.Ordered) (hw : InPlace w s) (looks : Nat) (time : Instant) :
    (s.moveTo w looks time).Ordered := by
  have hnow : Ordered { s with now := time, ticks := s.ticks + looks } :=
    h.congr rfl rfl rfl rfl rfl rfl rfl
  refine hnow.wake fun i hi => ?_
  obtain ⟨hlt, halarm⟩ := List.mem_filter.mp hi
  rw [List.mem_range] at hlt
  have ht := List.getElem?_eq_getElem hlt
  rw [ht, Option.any_some, List.any_eq_true] at halarm
  obtain ⟨a, ha, -⟩ := halarm
  show s.line[i]? = some false
  rw [line_of_task ht]
  congr 1
  refine beq_eq_false_iff_ne.mpr fun hplace => ?_
  have hp := Phase.place_eq_line.mp hplace
  have hlive : s.tasks[i].isLive = true := by
    rw [← Task.isLive_phase, hp]
    rfl
  have hfresh := (hw i _ ht hlive).fresh hp
  simp [Task.alarms, Task.wakesAt, Task.deadline, Task.noticeAt, hp, hfresh] at ha

theorem releaseGate (h : s.Ordered) (name : String) (n : Nat) : (s.releaseGate name n).Ordered := by
  refine (h.setGate name fun i hi => ?_).call fun i hi => ?_
  · exact h.gates name i ((Turnstile.holds_release _ n).mp hi)
  · exact h.gates name i (.inl (List.mem_of_mem_take hi))

/-- A new task is called behind all others. -/
theorem accept (h : s.Ordered) (work : Work) : (s.accept work).Ordered := by
  have hline : (s.accept work).line = s.line ++ [true] := by
    rw [line, places_accept, List.map_append]
    rfl
  have hnew : s.tasks.length = s.line.length := (length_line s).symm
  have hqueued : s.isQueued s.tasks.length = false := by
    refine Bool.eq_false_iff.mpr fun hq => ?_
    have hlt := h.known _ (isQueued_iff.mp hq)
    omega
  refine ⟨?_, fun name i hi => ?_, fun i hi => ?_⟩
  · have hr : among (s.line ++ [true]) s.ready = among s.line s.ready :=
      among_concat fun i hi => h.known i (.inl hi)
    have hc : among (s.line ++ [true]) s.called = among s.line s.called :=
      among_concat fun i hi => h.known i (.inr hi)
    have hcalled : (s.accept work).called = s.called ++ [s.line.length] := by
      show s.called ++ [s.tasks.length].filter (!s.isQueued ·) = _
      rw [List.filter_cons_of_pos (by rw [hqueued]; rfl), List.filter_nil, hnew]
    have hlast : among (s.line ++ [true]) [s.line.length] = [s.line.length] :=
      among_cons_of_line (by rw [List.getElem?_concat_length]) []
    have hf : (s.accept work).front = { s.front with
        line := s.front.line ++ [true], called := s.front.called ++ [s.front.line.length] } := by
      unfold Pool.front
      rw [hline, hcalled, among_append, hlast, hc]
      exact congrArg (Front.mk _ · _ _ _ _) hr
    rw [hf]
    exact h.front.accept
  · rw [hline, List.getElem?_append_left (List.getElem?_eq_some_iff.mp (h.gates name i hi)).1]
    exact h.gates name i hi
  · rw [hline, List.length_append, List.length_singleton]
    obtain hold | hm := called_call.mp hi
    · exact Nat.lt_succ_of_lt (h.known i hold)
    · rw [List.mem_singleton.mp hm, hnew]
      exact Nat.lt_succ_self _

theorem withLimit (limit : Nat) (world : World) :
    (Pool.withLimit limit world : Pool World Work Job Result).Ordered where
  front := ⟨List.Perm.refl [], fun _ => rfl, List.Pairwise.nil, Nat.le_refl _,
    fun i => by simp [Pool.front, line, places, stages, Pool.withLimit], rfl, rfl,
    Turnstile.sound_withFree _⟩
  gates name i hi := by simp [gate, Pool.withLimit, Turnstile.Holds, Turnstile.withFree] at hi
  known i hi := by simp [Called, Pool.withLimit] at hi

/-- In a calm pool the tasks that have started are the first ones, in order. -/
theorem begun_of_calm (h : s.Ordered) (hcalm : true ∉ s.contests) :
    s.begun = List.range s.begun.length := by
  have hserved : s.begun ++ s.slots.granted = List.range (s.begun ++ s.slots.granted).length :=
    h.front.calm hcalm
  have hle : s.begun.length ≤ (s.begun ++ s.slots.granted).length := by
    rw [List.length_append]
    exact Nat.le_add_right _ _
  have htake := congrArg (List.take s.begun.length) hserved
  rwa [List.take_left' rfl, List.take_range, Nat.min_eq_left hle] at htake

end Ordered

/-! ### Runs -/

/-- **The slots are given one after another**: the tasks are in order as long as the pool is not
cancelled, and those that have started are the first that were accepted, as long as none that was
called from outside went before a ready one. -/
structure Successive (w : Workload World Work Job Result) (s : Pool World Work Job Result) :
    Prop where
  placed : InPlace w s
  calm : true ∉ s.contests → s.begun = List.range s.begun.length
  ordered : s.cancelled = false → s.Ordered
  /-- A shutdown does not stop halfway. -/
  locked : s.cancelled = true → s.teardown = .locked

/-- What happens to a pool in its turn: no task is looked at that is not the next, and only a
shutdown cancels the pool. -/
def Move.InTurn : Move World Work → Prop
  | .look _ | .cancel => False
  | _ => True

theorem begun_congr (h : s'.history = s.history) : s'.begun = s.begun :=
  congrArg (List.filterMap Milestone.started?) h

/-- Looking at a task that is not in line, none starts. -/
theorem begun_of_looks {c : Work} {ph : Phase Job Result} (h : Looks w id s s')
    (hst : s.stages[id]? = some (c, ph)) (hq : ph ≠ .queued) :
    s'.begun = s.begun ∧ ∃ ph', s'.stages[id]? = some (c, ph') ∧ ph' ≠ .queued := by
  induction h with
  | refl => exact ⟨rfl, ph, hst, hq⟩
  | @tail s₁ s₂ _ hlook ih =>
    obtain ⟨hb, ph₁, hst₁, hq₁⟩ := ih
    refine ⟨?_, hlook.change.effect.begun_kept hst₁ hq₁⟩
    cases hlook with
    | gate | line | proceed | notice | handOver => exact hb
    | start ht hp =>
      obtain ⟨-, rfl⟩ := stage_inj hst₁ (getElem?_stages ht)
      exact absurd hp hq₁
    | through => exact (begun_finished id s₁).trans hb
    | finish ht => exact (begun_congr (history_finish ht _)).trans hb

/-- A task that goes on starts if it was in line and gets a slot, and no other does. -/
theorem begun_goOn (s : Pool World Work Job Result) (id : Nat) :
    (s.goOn w id).begun = s.begun ∨ s.teardown ≠ .locked ∧ s.line[id]? = some true ∧
      (∃ slots, s.slots.enter id = (slots, true)) ∧ (s.goOn w id).begun = s.begun ++ [id] := by
  rcases ht : s.tasks[id]? with _ | t
  · left
    unfold goOn
    rw [ht]
  by_cases hp : t.phase = .queued
  · by_cases hk : s.teardown = .locked
    · left
      unfold goOn
      simp [ht, hp, hk]
    · rcases he : s.slots.enter id with ⟨slots, _ | _⟩
      · left
        rw [goOn_line ht hp hk he]
        rfl
      · right
        have hline : s.line[id]? = some true := by
          rw [line_of_task ht, hp]
          rfl
        refine ⟨hk, hline, ⟨slots, rfl⟩, ?_⟩
        have ht' := getElem?_tasks_launch (w := w) (s := { s with slots := slots }) ht
        rw [goOn_start ht hp hk he, begin_eq]
        refine (begun_of_looks (looks_walk _ ht' rfl) (getElem?_stages ht') ?_).1.trans ?_
        · simp
        · exact begun_started id s
  · exact .inl (begun_of_looks (looks_goOn s id) (getElem?_stages ht) hp).1

/-- A locked pool starts no task. -/
theorem begun_turn_of_locked (hk : s.teardown = .locked) : (s.turn w).begun = s.begun := by
  have hturn := turn_cases (w := w) s
  generalize s.turn w = s' at hturn ⊢
  cases hturn with
  | @look id ready called contests =>
    have hc : (s.taking ready called contests).cancelled = true := congrArg Teardown.cancels hk
    obtain ⟨s₁, hs₁, he⟩ := poll_of_cancelled w hc id
    rw [he, begun_congr (history_giveUp id s₁)]
    obtain rfl | rfl := hs₁
    · rfl
    · exact (begun_goOn (s.taking ready called contests) id).resolve_right fun hrun => hrun.1 hk
  | job => exact begun_congr (history_runJob _ _ _)
  | rest => rfl

/-- What is cancelled stays so. -/
theorem cancelled_of_step (h : Step w s s') (hc : s.cancelled = true) : s'.cancelled = true := by
  obtain hchanges | ⟨work, rfl⟩ | ⟨world, rfl⟩ := h.changes
  · exact of_changes (P := fun s => s.cancelled = true) (fun _ _ h => h.onward.cancelled)
      hchanges hc
  · exact hc
  · exact hc

theorem cancelled_of_steps (h : Steps w s s') (hc : s.cancelled = true) : s'.cancelled = true := by
  induction h with
  | refl => exact hc
  | tail _ h ih => exact cancelled_of_step h ih

namespace Successive

/-- A step that starts no task in a locked pool and leaves the tasks of any other in order. -/
theorem step (h : Successive w s) (hstep : Step w s s') (hk : s'.teardown = s.teardown)
    (hb : s.teardown = .locked → s'.begun = s.begun)
    (ho : s.cancelled = false → s.Ordered → s'.Ordered) : Successive w s' := by
  refine ⟨h.placed.step hstep, fun hcalm => ?_, fun hc => ?_, fun hc => ?_⟩
  · cases hc : s.cancelled with
    | true =>
      rw [hb (h.locked hc)]
      exact h.calm fun hm => hcalm ((contests_grow_of_steps (.single hstep)).mem hm)
    | false => exact (ho hc (h.ordered hc)).begun_of_calm hcalm
  · have hc₀ : s.cancelled = false := (congrArg Teardown.cancels hk).symm.trans hc
    exact ho hc₀ (h.ordered hc₀)
  · exact hk.trans (h.locked ((congrArg Teardown.cancels hk).symm.trans hc))

theorem turn (h : Successive w s) : Successive w (s.turn w) :=
  h.step (.turn s) (turn_cases s).stands.teardown begun_turn_of_locked fun hc ho => ho.turn hc

theorem tick (h : Successive w s) {looks : Nat} {time : Instant} (ht : s.now ≤ time) :
    Successive w (s.moveTo w looks time) :=
  h.step (.tick ht) rfl (fun _ => rfl) fun _ ho => ho.moveTo h.placed _ _

theorem lapses (h : Successive w s) (hl : Lapses w s s') : Successive w s' := by
  induction hl with
  | refl => exact h
  | tail _ hlapse ih =>
    cases hlapse with
    | turn => exact ih.turn
    | tick ht => exact ih.tick ht

theorem close (h : Successive w s) : Successive w { s with closed := true } :=
  h.step (.close s) rfl (fun _ => rfl) fun _ ho => ho.congr rfl rfl rfl rfl rfl rfl rfl

theorem lock (h : Successive w s) : Successive w s.lock := by
  have hlock : s.teardown.lock = s.teardown := by
    rcases hc : s.cancelled with _ | _
    · exact Teardown.lock_of_not_cancels hc
    · rw [h.locked hc]
      rfl
  exact h.step (.lock s) hlock (fun _ => rfl) fun _ ho => ho.congr rfl rfl rfl rfl rfl rfl rfl

theorem tearDown (h : Successive w s) : Successive w s.tearDown :=
  ⟨inPlace_steps (steps_tearDown s) h.placed, h.calm, fun hc => (by cases hc), fun _ => rfl⟩

theorem runJobAt (h : Successive w s) (i : Nat) : Successive w (s.runJobAt w i) := by
  refine h.step (.job s i) ?_ (fun _ => ?_) fun _ ho => ?_
  · unfold Pool.runJobAt
    split
    · exact (stands_runJob _ _ _ s).teardown
    · rfl
  · unfold Pool.runJobAt
    split
    · exact begun_congr (history_runJob _ _ _)
    · rfl
  · unfold Pool.runJobAt
    split
    · exact ho.runJob _ _ _
    · exact ho

theorem drain (h : Successive w s) (window : Nat) : Successive w (s.drain w window) :=
  h.close.lapses (lapses_drain window s)

/-- **What happens in its turn** leaves the slots given one after another. -/
theorem move (h : Successive w s) {m : Move World Work} (hm : m.InTurn) :
    Successive w (s.move w m) := by
  cases m with
  | look | cancel => exact hm.elim
  | spawn work =>
    show Successive w ((s.spawn work).elim s Prod.snd)
    by_cases hc : s.closed = true
    · rw [spawn_of_closed hc]
      exact h
    · have ho : s.closed = false := by simpa using hc
      rw [spawn_of_open ho]
      exact h.step (.spawn s work ho) rfl (fun _ => rfl) fun _ ho => ho.accept work
  | job i => exact h.runJobAt i
  | turn => exact h.turn
  | tick millis => exact h.tick (Nat.le_add_right _ _)
  | release gate n =>
    exact h.step (.release s gate n) rfl (fun _ => rfl) fun _ ho => ho.releaseGate gate n
  | advance millis => exact h.lapses (lapses_advance millis s)
  | await id patience => exact h.lapses (lapses_await id patience s)
  | close => exact h.close
  | lock => exact h.lock
  | shutdown window => exact (h.drain window).tearDown.lapses (lapses_settle _)
  | touch f =>
    exact h.step (.touch s _) rfl (fun _ => rfl) fun _ ho => ho.congr rfl rfl rfl rfl rfl rfl rfl

theorem moveAll : ∀ (ms : List (Move World Work)) {s : Pool World Work Job Result},
    Successive w s → (∀ m ∈ ms, m.InTurn) → Successive w (s.moveAll w ms)
  | [], _, h, _ => h
  | m :: ms, _, h, hms =>
    moveAll ms (h.move (hms m List.mem_cons_self)) fun m' hm' => hms m' (List.mem_cons_of_mem _ hm')

theorem withLimit (w : Workload World Work Job Result) (limit : Nat) (world : World) :
    Successive w (Pool.withLimit limit world) :=
  ⟨inPlace_withLimit w limit world, fun _ => rfl, fun _ => .withLimit limit world,
    fun hc => by cases hc⟩

end Successive

/-! ### The order of slots and starts -/

/-- A task has got a slot: it has started, or it was granted one and is about to. -/
def Given (s : Pool World Work Job Result) (i : Nat) : Prop :=
  .started i ∈ s.history ∨ i ∈ s.slots.granted

/-- No task in line was overtaken. -/
def NoneOvertaken (s : Pool World Work Job Result) : Prop :=
  ∀ i j t, i < j → s.tasks[i]? = some t → t.phase = .queued → .started j ∉ s.history

/-- **Tasks get their slots in the order in which they were accepted.** -/
structure SlotsInOrder (w : Workload World Work Job Result) (s : Pool World Work Job Result) :
    Prop where
  /-- Before a task gets a slot, each that was accepted before it has got one. -/
  given : ∀ i j, i < j → s.Given j → s.Given i
  /-- Those that were granted a slot are in order, -/
  granted : s.slots.granted.Pairwise (· < ·)
  /-- and in this order they are ready. -/
  ready : s.slots.granted.Sublist s.ready
  /-- Before a task starts, each that was accepted before it has, unless it was granted a slot
  and the runtime takes the later one first, which was called from outside. -/
  next : ∀ i j, i < j → .started j ∉ s.history → .started j ∈ (s.turn w).history →
    .started i ∈ s.history ∨ i ∈ s.slots.granted ∧ j ∈ s.called ∧ s.outsideNext w = true

/-- **Tasks start in the order in which they were accepted.** -/
structure StartsInOrder (s : Pool World Work Job Result) : Prop where
  /-- The tasks that have started are the first ones, and they have started in order. -/
  begun : s.begun = List.range s.begun.length
  /-- Before a task has started, each that was accepted before it has. -/
  earlier : ∀ i j before after, i < j → s.history = before ++ .started j :: after →
    .started i ∈ before
  waiting : s.NoneOvertaken

/-- **First come, first served**: the slots are given in order until the pool is cancelled, and as
long as no task that was called from outside went before a ready one, the tasks start in order. -/
structure FirstCome (w : Workload World Work Job Result) (s : Pool World Work Job Result) :
    Prop where
  slots : s.cancelled = false → s.SlotsInOrder w
  starts : true ∉ s.contests → s.StartsInOrder

theorem mem_begun : i ∈ s.begun ↔ .started i ∈ s.history := by
  rw [begun, List.mem_filterMap]
  constructor
  · rintro ⟨_ | _, hm, he⟩
    · cases he
      exact hm
    · cases he
  · exact fun hm => ⟨_, hm, rfl⟩

/-- What stands before a number in a range are the smaller ones. -/
theorem before_of_range {n j : Nat} {before after : List Nat}
    (h : before ++ j :: after = List.range n) : before = List.range j := by
  have hlen : before.length < n := by
    have hlength := congrArg List.length h
    rw [List.length_append, List.length_cons, List.length_range] at hlength
    omega
  have hj : before.length = j := by
    have hget := congrArg (·[before.length]?) h
    simpa [List.getElem?_append_right, List.getElem?_range hlen] using hget.symm
  have htake := congrArg (List.take before.length) h
  rw [List.take_left, List.take_range, Nat.min_eq_left (Nat.le_of_lt hlen), hj] at htake
  exact htake

namespace Ordered

theorem given_iff (h : s.Ordered) : s.Given i ↔ i < s.front.served.length := by
  rw [Given, ← mem_begun, ← h.front.mem_served]
  exact List.mem_append.symm

/-- **Who starts in the next turn** is the first of those that have not started, or it comes before
tasks that were granted a slot. -/
theorem next (h : s.Ordered) (hc : s.cancelled = false) (hij : i < j)
    (hn : .started j ∉ s.history) (hm : .started j ∈ (s.turn w).history) :
    .started i ∈ s.history ∨ i ∈ s.slots.granted ∧ j ∈ s.called ∧ s.outsideNext w = true := by
  rw [← mem_begun] at hn hm ⊢
  have hturn := turn_cases (w := w) s
  generalize s.turn w = s' at hturn hm
  cases hturn with
  | @look id ready called contests hq =>
    rw [poll_of_running (s := s.taking ready called contests) hc] at hm
    obtain hb | ⟨-, hl, ⟨slots, he⟩, hb⟩ := begun_goOn (w := w) (s.taking ready called contests) id
    · rw [hb] at hm
      exact absurd hm hn
    · rw [hb] at hm
      obtain rfl : j = id := List.mem_singleton.mp ((List.mem_append.mp hm).resolve_left hn)
      have htaken := taken_among (hq.taken fun hk => hk) hl
      refine (h.front.next htaken he hij).imp_right fun ⟨hg, hk⟩ => ⟨hg, ?_⟩
      push Not at hk
      exact ⟨hk.2.1, by simpa using hk.2.2⟩
  | job =>
    rw [begun_congr (history_runJob _ _ _)] at hm
    exact absurd hm hn
  | rest => exact absurd hm hn

theorem slotsInOrder (h : s.Ordered) (hc : s.cancelled = false) : s.SlotsInOrder w where
  given i j hij hj := by
    rw [h.given_iff] at hj ⊢
    exact Nat.lt_trans hij hj
  granted := h.front.granted
  ready := by
    have hready : among s.line s.ready = s.slots.granted := h.front.ready
    rw [← hready]
    exact List.filter_sublist
  next _ _ hij hn hm := h.next hc hij hn hm

theorem granted_of_idle (h : s.Ordered) (hidle : s.idle = true) : s.slots.granted = [] := by
  have hready : among s.line s.ready = s.slots.granted := h.front.ready
  have hq := (idle_iff.mp hidle).1
  rw [List.append_eq_nil_iff] at hq
  rw [← hready, hq.1]
  rfl

/-- While nobody is about to start, none of those that are still in line was overtaken. -/
theorem noneOvertaken (h : s.Ordered) (hg : s.slots.granted = []) : s.NoneOvertaken :=
  fun i j t hij ht hp hm => by
    have hline : s.line[i]? = some true := by
      rw [line_of_task ht, hp]
      rfl
    have hj : s.Given j := .inl hm
    rw [h.given_iff] at hj
    have hi : i ∈ s.front.served := h.front.mem_served.mpr (Nat.lt_trans hij hj)
    have hbegun : s.front.served = s.begun := by
      rw [Front.served]
      exact (congrArg (s.begun ++ ·) hg).trans (List.append_nil _)
    rw [hbegun] at hi
    exact ((h.front.line i).mp hline).2 hi

end Ordered

theorem Successive.startsInOrder (h : Successive w s) (hs : StartsSound s)
    (hcalm : true ∉ s.contests) : StartsInOrder s := by
  have hbegun := h.calm hcalm
  refine ⟨hbegun, fun i j before after hij hh => ?_, fun i j t hij ht hp hm => ?_⟩
  · have hsplit : before.filterMap Milestone.started? ++ j :: after.filterMap Milestone.started? =
        List.range s.begun.length := by
      rw [← hbegun, Pool.begun, hh, List.filterMap_append, List.filterMap_cons]
      rfl
    have hi : i ∈ before.filterMap Milestone.started? := by
      rw [before_of_range hsplit]
      exact List.mem_range.mpr hij
    obtain ⟨m, hm, he⟩ := List.mem_filterMap.mp hi
    cases m with
    | started => cases he; exact hm
    | finished => cases he
  · -- a task that has started is not in line
    have hj : j ∈ s.begun := mem_begun.mpr hm
    rw [hbegun, List.mem_range] at hj
    have hi : i ∈ s.begun := by
      rw [hbegun, List.mem_range]
      exact Nat.lt_trans hij hj
    obtain ⟨p, hplace, hne⟩ := hs.left i (mem_begun.mp hi)
    rw [place_of_task ht, hp] at hplace
    exact hne (Option.some.inj hplace).symm

theorem Successive.firstCome (h : Successive w s) (hs : StartsSound s) : FirstCome w s :=
  ⟨fun hc => (h.ordered hc).slotsInOrder hc, h.startsInOrder hs⟩

/-! ### The closing of the window -/

/-- A pool to which time passes is idle before its clock moves for the last time. -/
theorem idle_before_runTo (stop : Pool World Work Job Result → Bool) (goal : Instant) :
    ∀ (n : Nat) {s : Pool World Work Job Result}, s.now < goal → goal ≤ s.now + n →
      ∃ s₁, Lapses w s s₁ ∧ s₁.idle = true ∧
        (s.runTo w stop goal n = s₁ ∨ s.runTo w stop goal n = s₁.moveTo w 2 goal)
  | 0, s, h, hn => absurd h (Nat.not_lt.mpr hn)
  | n + 1, s, h, hn => by
    have hlapses := lapses_settle (w := w) s
    have hidle := idle_settle (w := w) s
    have hnow : (s.settle w).now = s.now := (stands_settle s).now
    have hmove : ∀ x y g : Nat, x < y → g ≤ x + (n + 1) → g ≤ y + n := fun x y g => by omega
    unfold runTo
    dsimp only
    split_ifs with hstop
    · exact ⟨_, hlapses, hidle, .inl rfl⟩
    split
    · next a ha =>
      have hlt := lt_of_nextAlarm ha
      split_ifs with hg
      · have htick : Lapses w s ((s.settle w).moveTo w 1 a) :=
          hlapses.tail (.tick (Nat.le_of_lt hlt))
        rw [hnow] at hlt
        obtain ⟨s₁, hs₁, hrest⟩ := idle_before_runTo stop goal n (s := (s.settle w).moveTo w 1 a) hg
          (hmove _ _ _ hlt hn)
        exact ⟨s₁, htick.trans hs₁, hrest⟩
      · exact ⟨_, hlapses, hidle, .inr rfl⟩
    · exact ⟨_, hlapses, hidle, .inr rfl⟩

namespace Successive

/-- Whoever was granted a slot has started when a time is up, unless there was no time for it. -/
theorem granted_runTo (h : Successive w s) (hc : s.cancelled = false)
    (stop : Pool World Work Job Result → Bool) (n : Nat) (hg : 0 < n ∨ s.slots.granted = []) :
    (s.runTo w stop (s.now + n) n).slots.granted = [] := by
  rcases Nat.eq_zero_or_pos n with rfl | hn
  · exact hg.resolve_left (Nat.lt_irrefl 0)
  · obtain ⟨s₁, hs₁, hidle, he⟩ := idle_before_runTo (w := w) stop (s.now + n) n
      (Nat.lt_add_of_pos_right hn) (Nat.le_refl _)
    have hk : s₁.cancelled = false := hs₁.flags.2.trans hc
    have hgranted := ((h.lapses hs₁).ordered hk).granted_of_idle hidle
    obtain he | he := he <;> rw [he] <;> exact hgranted

/-- Nobody is about to start between the actions of a host: those who were granted a slot in an
action have started when it is over. -/
theorem granted_move (h : Successive w s) (hg : s.slots.granted = []) {m : Move World Work}
    (hm : m.InTurn) (hwhole : m ≠ .turn) (hc : (s.move w m).cancelled = false) :
    (s.move w m).slots.granted = [] := by
  cases m with
  | look | cancel => exact hm.elim
  | turn => exact absurd rfl hwhole
  | spawn work =>
    show ((s.spawn work).elim s Prod.snd).slots.granted = []
    unfold Pool.spawn
    split <;> exact hg
  | job i =>
    show (s.runJobAt w i).slots.granted = []
    unfold Pool.runJobAt Pool.runJob
    dsimp only
    split
    · split <;> exact hg
    · exact hg
  | tick | release | close | touch => exact hg
  | advance millis =>
    have hk : s.cancelled = false := (lapses_advance millis s).flags.2.symm.trans hc
    exact h.granted_runTo hk _ millis (.inr hg)
  | await id patience =>
    have hk : s.cancelled = false := (lapses_await id patience s).flags.2.symm.trans hc
    show (s.await w id patience).slots.granted = []
    unfold Pool.await
    split_ifs
    · exact hg
    · exact h.granted_runTo hk _ patience (.inr hg)
  | lock => exact hg
  | shutdown window =>
    have hk : (s.shutdown w window).1.cancelled = true := (shut_shutdown window s).cancelled
    exact absurd (hk.symm.trans hc) (by decide)

theorem granted_moveAll : ∀ (ms : List (Move World Work)) {s : Pool World Work Job Result},
    Successive w s → s.slots.granted = [] → (∀ m ∈ ms, m.InTurn) → (∀ m ∈ ms, m ≠ .turn) →
      (s.moveAll w ms).cancelled = false → (s.moveAll w ms).slots.granted = []
  | [], _, _, hg, _, _, _ => hg
  | m :: ms, s, h, hg, hms, hwhole, hc => by
    have hm := hms m List.mem_cons_self
    have hk : (s.move w m).cancelled = false := by
      by_contra hk
      have hlater := cancelled_of_steps (steps_moveAll (w := w) ms (s.move w m)) (by simpa using hk)
      exact absurd (hlater.symm.trans hc) (by decide)
    exact granted_moveAll ms (h.move hm)
      (h.granted_move hg hm (hwhole m List.mem_cons_self) hk)
      (fun m' hm' => hms m' (List.mem_cons_of_mem _ hm'))
      (fun m' hm' => hwhole m' (List.mem_cons_of_mem _ hm')) hc

/-- When a window closes, none of those that are still in line was overtaken. -/
theorem noneOvertaken_drain (h : Successive w s) (hc : s.cancelled = false) {window : Nat}
    (hg : 0 < window ∨ s.slots.granted = []) : (s.drain w window).NoneOvertaken := by
  have hk : (s.drain w window).cancelled = false :=
    (lapses_drain (w := w) window s).flags.2.trans hc
  have hordered := (h.drain window).ordered hk
  unfold Pool.drain at hordered ⊢
  dsimp only at hordered ⊢
  split_ifs with ha
  · intro i j t _ ht hp
    have hlive : t.isLive = true := by
      rw [← Task.isLive_phase, hp]
      rfl
    have hnot := List.countP_eq_zero.mp ha t (List.mem_of_getElem? ht)
    exact absurd hlive hnot
  · rw [if_neg ha] at hordered
    exact hordered.noneOvertaken (h.close.granted_runTo hc _ window hg)

end Successive

/-- **First come, first served.** Whatever happens to a pool of any limit, with tasks of any kind
and on any runtime, its tasks get their slots in the order in which they were accepted, as long as
none is looked at out of its turn and shutdowns do not stop halfway, and unless the runtime takes a
task that was called from outside before a ready one, they start in this order. So they do until the
window of a shutdown closes, and nobody who waits for a slot then was overtaken, if the window was
open for a time or the shutdown is not amid the turns of another action. -/
theorem starts_in_order {n : Nat} {world : World} (h : create n world = .ok s)
    (ms : List (Move World Work)) (hms : ∀ m ∈ ms, m.InTurn) (window : Nat) :
    FirstCome w (s.moveAll w ms) ∧ FirstCome w ((s.moveAll w ms).drain w window) ∧
      (0 < window ∨ (∀ m ∈ ms, m ≠ .turn) → (s.moveAll w ms).cancelled = false →
        ((s.moveAll w ms).drain w window).NoneOvertaken) := by
  obtain rfl : withLimit n world = s := by
    unfold create at h
    split_ifs at h
    exact Except.ok.inj h
  have hrun := steps_moveAll (w := w) ms (withLimit n world)
  have hdrain : Steps w ((withLimit n world).moveAll w ms)
      (((withLimit n world).moveAll w ms).drain w window) :=
    .head (.close _) (lapses_drain window _).steps
  have hstarts : StartsSound (withLimit n world : Pool World Work Job Result) :=
    startsSound_withLimit n world
  have hfinal := Successive.moveAll ms (.withLimit w n world) hms
  exact ⟨hfinal.firstCome (startsSound_steps hrun hstarts),
    (hfinal.drain window).firstCome (startsSound_steps (hrun.trans hdrain) hstarts),
    fun hw hc => hfinal.noneOvertaken_drain hc (hw.imp_right fun hwhole =>
      Successive.granted_moveAll ms (.withLimit w n world) rfl hms hwhole hc)⟩

/-- Two slots. The first task panics when it is let through its gate, at the same instant at which
the fourth is accepted; the slot goes to the third, which is in line. The fifth is still in line
when the window closes. -/
theorem starts_in_order_panic :
    let s : ScriptPool Nat := .withLimit 2 ()
    let ms : List (Move Unit (Script Nat)) := [.spawn ⟨"a", [.gate "g"], .panicked ⟨some "broken"⟩⟩,
      .spawn ⟨"b", [.sleep 5], .value 1⟩, .spawn ⟨"c", [.gate "h"], .value 2⟩, .advance 1,
      .release "g" 1, .spawn ⟨"d", [.gate "h"], .value 3⟩, .spawn ⟨"e", [], .value 4⟩, .advance 1]
    let s₁ := s.moveAll Script.workload ms
    let s₂ := s₁.drain Script.workload 10
    (∀ m ∈ ms, m.InTurn) ∧ (s₁.begun, s₁.slots.queue) = ([0, 1, 2], [3, 4]) ∧
      s₁.SlotsInOrder Script.workload ∧ s₁.StartsInOrder ∧
        (s₂.begun, s₂.slots.queue) = ([0, 1, 2, 3], [4]) ∧ s₂.SlotsInOrder Script.workload ∧
          s₂.StartsInOrder ∧ s₂.NoneOvertaken := by
  intro s ms s₁ s₂
  have hms : ∀ m ∈ ms, m.InTurn := by simp [ms, Move.InTurn]
  have hcreate : create 2 () = .ok s := create_of_le (by decide) ()
  obtain ⟨h₁, h₂, hnone⟩ := starts_in_order (w := Script.workload) hcreate ms hms 10
  exact ⟨hms, by decide +kernel, h₁.slots (by decide +kernel), h₁.starts (by decide +kernel),
    by decide +kernel, h₂.slots (by decide +kernel), h₂.starts (by decide +kernel),
    hnone (.inl (by decide)) (by decide +kernel)⟩

/-- Tasks need not start in the order in which they were accepted: there are two slots, which two
sleepers give back at the same instant, one to the task in line. It is ready when another is called
from outside, but at the 31st tick that one goes first, and finds the other slot free. -/
theorem overtaken_at_thirty_first_tick :
    let ms : List (Move Unit (Script Nat)) := List.replicate 23 (.spawn ⟨"a", [], .value 0⟩) ++
      [.spawn ⟨"b", [.sleep 5], .value 1⟩, .spawn ⟨"c", [.sleep 5], .value 2⟩,
        .spawn ⟨"d", [], .value 3⟩, .advance 5, .spawn ⟨"e", [], .value 4⟩, .advance 1]
    let s : ScriptPool Nat := (withLimit 2 ()).moveAll Script.workload ms
    (∀ m ∈ ms, m.InTurn) ∧ s.cancelled = false ∧ s.begun = List.range 25 ++ [26, 25] ∧
      ¬ s.StartsInOrder := by
  intro ms s
  have hms : ∀ m ∈ ms, m.InTurn := by simp [ms, Move.InTurn]
  have hbegun : s.begun = List.range 25 ++ [26, 25] := by decide +kernel
  refine ⟨hms, by decide +kernel, hbegun, fun h => ?_⟩
  have hrange := h.begun
  rw [hbegun] at hrange
  exact absurd hrange (by decide)

end ArtifactFetch.Pool
