import ArtifactFetch.Proofs.Pool.Silence

/-! # Notices go unnoticed

A pool and one of the same workload without a notice go side by side, if the runtime of the second
decides between its queues as that of the first does. While the clock stands, a turn of the first is
matched by one of the second or by none, for a task that is looked at only because it is slow rests
on (`Follows.turn`), and once both have settled, they are alike (`beside_settle`). When the clock of
the first moves on to an instant, that of the second may do so too, though nothing is due there
(`runTo_stopover`). So whatever time passes in both, they are alike in the end, unless a notice
falls due at that very instant and was not looked at (`Unhurried`, `beside_runTo`).

As long as there are tasks that are looked at only because they are slow, none is called from
outside, so the runtime has nothing to decide then (`Follows.calls`). -/

namespace ArtifactFetch.Pool

variable {World Work Job Result : Type} {w : Workload World Work Job Result}
  {s s' s₀ s₀' : Pool World Work Job Result} {id i : Nat} {E : List Nat} {t : Task Work Job Result}
  {decided : List Bool → Bool}

/-! ### While the clock stands -/

variable {ready called : List Nat} {contests : List Bool}

theorem turn_of_pick (hq : Pick w s id ready called contests) :
    s.turn w = (s.taking ready called contests).poll w id := by
  unfold turn
  cases hq with
  | ready hr hc => rw [hr, hc]
  | called hr hc => rw [hr, hc]
  | inside hr hc ho =>
    obtain ⟨id', called, hc⟩ := List.exists_cons_of_ne_nil hc
    rw [hr, hc]
    exact if_neg (by rw [ho]; exact Bool.false_ne_true)
  | outside hr hc ho =>
    obtain ⟨id', ready, hr⟩ := List.exists_cons_of_ne_nil hr
    rw [hr, hc]
    exact if_pos ho

theorem turn_of_job {j : Job} {jobs : List (Nat × Job)} (hr : s.ready = []) (hc : s.called = [])
    (hj : s.jobs = (id, j) :: jobs) : s.turn w = { s with jobs := jobs }.runJob w id j := by
  unfold turn
  rw [hr, hc, hj]

/-- What the runtime decided is what is laid down. -/
def Heeds (decided : List Bool → Bool) (contests : List Bool) : Prop :=
  ∀ before b, before ++ [b] <+: contests → decided before = b

theorem Heeds.before {contests' : List Bool} (h : Heeds decided contests')
    (hp : contests <+: contests') : Heeds decided contests :=
  fun before b hb => h before b (hb.trans hp)

/-- What was decided can be laid down. -/
theorem heeds_self (contests : List Bool) :
    Heeds (fun before => contests.getD before.length false) contests := by
  rintro before b ⟨rest, rfl⟩
  simp

/-- **The next task is the same in both pools**, if the runtimes decide alike. -/
theorem Pick.of_beside (hq : Pick w s id ready called contests) (h : Beside [] s s₀)
    (hk : Heeds decided contests) : Pick (w.silent decided) s₀ id ready called contests := by
  have hdecides : ∀ b, s.contests ++ [b] <+: contests →
      s₀.outsideNext (w.silent decided) = b := fun b hb => by
    show decided s₀.contests = b
    rw [← h.contests]
    exact hk _ _ hb
  cases hq with
  | ready hr hc =>
    rw [h.contests]
    exact .ready (h.ready_eq.trans hr) (h.called.symm.trans hc)
  | called hr hc =>
    rw [h.contests]
    exact .called (h.ready_eq.trans hr) (h.called.symm.trans hc)
  | inside hr hc ho =>
    have hinside := hdecides false (List.prefix_refl _)
    rw [h.called] at hc ⊢
    rw [h.contests]
    exact .inside (h.ready_eq.trans hr) hc hinside
  | outside hr hc ho =>
    have houtside := hdecides true (List.prefix_refl _)
    rw [← h.ready_eq] at hr ⊢
    rw [h.contests]
    exact .outside hr (h.called.symm.trans hc) houtside

/-- A runtime that does not count its ticks decides as is laid down, in every run. -/
theorem heeds_steps (hw : ∀ ticks before, w.runtime.outsideFirst ticks before = decided before)
    (h : Steps w s s') (hs : Heeds decided s.contests) : Heeds decided s'.contests := by
  have hadd : ∀ (s : Pool World Work Job Result) (b : Bool), s.outsideNext w = b →
      Heeds decided s.contests → Heeds decided (s.contests ++ [b]) := by
    intro s b ho hs before b' hb
    obtain he | hb := List.prefix_concat_iff.mp hb
    · obtain ⟨rfl, hlast⟩ := List.append_inj' he rfl
      rw [List.singleton_inj.mp hlast, ← hw (s.ticks + 1)]
      exact ho
    · exact hs before b' hb
  refine of_contests (fun s s' hturn hs => ?_) h hs
  cases hturn with
  | look hq =>
    rw [(looks_poll _ _).outside.2]
    cases hq with
    | ready | called => exact hs
    | inside _ _ ho => exact hadd s false ho hs
    | outside _ _ ho => exact hadd s true ho hs
  | job =>
    rw [(outside_runJob _ _ _).2]
    exact hs
  | rest => exact hs

/-- **The second pool follows the first**, where the tasks `E` rest. -/
structure Follows (w : Workload World Work Job Result) (E : List Nat)
    (s s₀ : Pool World Work Job Result) : Prop where
  beside : Beside E s s₀
  slots : SlotsSound s
  calls : E = [] ∨ s.called = []
  rests : ∀ i ∈ E, s.cancelled = false ∧ ∃ t, s.tasks[i]? = some t ∧ Rests w s i t

namespace Follows

/-- Nobody at rest is in line for a slot. -/
theorem queue (h : Follows w E s s₀) : ∀ i ∈ s.slots.queue, i ∉ E := by
  intro i hi hE
  obtain ⟨-, t, ht, hr⟩ := h.rests i hE
  have hline := h.slots.line i (.inl hi)
  rw [place_of_task ht] at hline
  obtain ⟨e, he⟩ := hr.endsIn
  rw [Phase.place_of_endsIn he] at hline
  cases hline

theorem withTicks (h : Follows w E s s₀) (n : Nat) : Follows w E s { s₀ with ticks := n } :=
  { h with beside := h.beside.withTicks s.ticks n }

theorem cancelled (h : Follows w E s s₀) : E = [] ∨ s.cancelled = false := by
  rcases E with _ | ⟨i, E⟩
  · exact .inl rfl
  · exact .inr (h.rests i List.mem_cons_self).1

end Follows

/-- Who rests is alike in pools that are alike. -/
theorem Rests.of_beside {t' : Task Work Job Result} (h : Rests w s i t) (hb : Beside [] s' s)
    (ht : s.tasks[i]? = some t) (ht' : s'.tasks[i]? = some t') : Rests w s' i t' := by
  obtain ⟨b, hb'⟩ := hb.symm.task ht
  obtain rfl : t' = { t with noticed := b } := Option.some.inj (ht'.symm.trans hb')
  refine ⟨fun a ha => ?_, h.wait.imp ?_ ?_⟩
  · rw [hb.now]
    exact h.deadline a ha
  · rw [hb.now]
    exact fun h => h
  · rintro ⟨name, waits, e, hp, hl⟩
    exact ⟨name, waits, e, hp, by rw [hb.gate]; exact hl.queue, by rw [hb.gate]; exact hl.granted⟩

/-- Whoever is looked at, a task at rest rests on. -/
theorem rests_poll (h : Rests w s i t) (ht : s.tasks[i]? = some t) (hc : s.cancelled = false)
    (id : Nat) : ∃ t', (s.poll w id).tasks[i]? = some t' ∧ Rests w (s.poll w id) i t' := by
  have hlooks := looks_poll (w := w) s id
  by_cases hne : i = id
  · subst hne
    have hb := beside_of_rests h ht hc
    obtain ⟨b, ht'⟩ := hb.symm.task ht
    exact ⟨_, ht', h.of_beside hb ht ht'⟩
  · exact ⟨t, (hlooks.task_of_ne hne).trans ht,
      h.mono hlooks.stands.now (keepsLines_poll hc hne)⟩

theorem rests_runJob (h : Rests w s i t) (ht : s.tasks[i]? = some t) (id : Nat) (j : Job)
    (jobs : List (Nat × Job)) :
    ({ s with jobs := jobs }.runJob w id j).tasks[i]? = some t ∧
      Rests w ({ s with jobs := jobs }.runJob w id j) i t := by
  have hn : ∀ c, s.stages[i]? ≠ some (c, .inJob) := by
    intro c hst
    obtain ⟨-, hi⟩ := stage_inj (getElem?_stages ht) hst
    exact h.phase_ne rfl hi
  exact ⟨(task_runJob (fun _ => hn) j jobs).trans ht, h.mono (stands_runJob id j jobs s).now
    ((keepsLines_runJob id j { s with jobs := jobs }).head rfl)⟩

/-- As long as none is called from outside, none is. -/
theorem called_turn (hc : s.called = []) : (s.turn w).called = [] := by
  have hturn := turn_cases (w := w) s
  generalize s.turn w = s' at hturn ⊢
  cases hturn with
  | look hq =>
    rw [(looks_poll _ _).outside.1]
    cases hq with
    | ready => rfl
    | inside => exact hc
    | called _ hc' | outside _ hc' =>
      rw [hc] at hc'
      cases hc'
  | job =>
    rw [(outside_runJob _ _ _).1]
    exact hc
  | rest => exact hc

namespace Follows

/-- A look at the next task is matched by one in the second pool, or nothing happens. -/
theorem beside_look (h : Follows w E s s₀) (hq : Pick w s id ready called contests)
    (hk : Heeds decided contests) :
    Beside E ((s.taking ready called contests).poll w id) s₀ ∨
      Beside E ((s.taking ready called contests).poll w id) (s₀.turn (w.silent decided)) := by
  obtain rfl | hnone := h.calls
  · right
    rw [turn_of_pick (hq.of_beside h.beside hk)]
    exact (h.beside.taking ready called contests).poll h.queue h.cancelled id
  · -- none was called from outside, so the task was ready
    have hready := h.beside.ready
    have hcalled₀ := h.beside.called.symm.trans hnone
    cases hq with
    | ready hr =>
      rw [hr] at hready
      by_cases hE : id ∈ E
      · -- the task rests on
        left
        obtain ⟨hc, t, ht, hrest⟩ := h.rests id hE
        rw [List.filter_cons_of_neg (by simpa using hE)] at hready
        have hstay := beside_of_rests (s := s.taking ready [] s.contests)
          (hrest.mono rfl (.of_gates rfl)) ht hc
        refine hstay.trans ⟨?_, h.beside.gate, hready⟩
        rw [← h.beside.core, ← hnone]
        rfl
      · right
        rw [List.filter_cons_of_pos (by simpa using hE)] at hready
        rw [turn_of_pick (.ready hready hcalled₀)]
        have hb : Beside E (s.taking ready [] s.contests)
            (s₀.taking (ready.filter (· ∉ E)) [] s₀.contests) := by
          exact ⟨congrArg (fun p => { p with called := [] }) h.beside.core, h.beside.gate, rfl⟩
        exact hb.poll h.queue h.cancelled id
    | called _ hc | outside _ hc =>
      rw [hnone] at hc
      cases hc
    | inside _ hc => exact absurd hnone hc

/-- A turn of the first pool is matched by one of the second, or nothing happens. -/
theorem beside_turn (h : Follows w E s s₀) (hk : Heeds decided (s.turn w).contests) :
    Beside E (s.turn w) s₀ ∨ Beside E (s.turn w) (s₀.turn (w.silent decided)) := by
  have hturn := turn_cases (w := w) s
  generalize s.turn w = s' at hturn hk ⊢
  have hidle₀ : s.ready ++ s.called = [] → s₀.ready = [] ∧ s₀.called = [] := fun hq => by
    obtain ⟨hr, hc⟩ := List.append_eq_nil_iff.mp hq
    rw [h.beside.ready, hr]
    exact ⟨rfl, h.beside.called.symm.trans hc⟩
  cases hturn with
  | look hq =>
    rw [(looks_poll _ _).outside.2] at hk
    exact h.beside_look hq hk
  | @job id j jobs hq hj =>
    right
    obtain ⟨hr, hc⟩ := hidle₀ hq
    rw [turn_of_job hr hc (h.beside.jobs.symm.trans hj)]
    refine (h.beside.withJobs (x := jobs) rfl).runJob (fun t ht hp hE => ?_) j
    obtain ⟨-, t', ht', hrest⟩ := h.rests id hE
    obtain rfl := Option.some.inj (ht.symm.trans ht')
    exact hrest.phase_ne rfl hp
  | rest => exact .inl h.beside

/-- **A turn of the first pool**: the second follows by one turn or by none. -/
theorem turn (h : Follows w E s s₀) (hk : Heeds decided (s.turn w).contests) :
    Follows w E (s.turn w) s₀ ∨ Follows w E (s.turn w) (s₀.turn (w.silent decided)) := by
  have hslots : SlotsSound (s.turn w) := slotsSound_steps (.single (.turn s)) h.slots
  have hcalls : E = [] ∨ (s.turn w).called = [] := h.calls.imp_right called_turn
  have hrests : ∀ i ∈ E, (s.turn w).cancelled = false ∧
      ∃ t, (s.turn w).tasks[i]? = some t ∧ Rests w (s.turn w) i t := by
    intro i hi
    obtain ⟨hc, t, ht, hr⟩ := h.rests i hi
    have hturn := turn_cases (w := w) s
    refine ⟨hturn.stands.cancelled.trans hc, ?_⟩
    generalize s.turn w = s' at hturn ⊢
    cases hturn with
    | @look id ready called contests =>
      exact rests_poll (s := s.taking ready called contests)
        (hr.mono rfl (.of_gates rfl)) ht hc id
    | job => exact ⟨t, rests_runJob hr ht _ _ _⟩
    | rest => exact ⟨t, ht, hr⟩
  exact (h.beside_turn hk).imp (fun hb => ⟨hb, hslots, hcalls, hrests⟩)
    fun hb => ⟨hb, hslots, hcalls, hrests⟩

theorem turns (h : Follows w E s s₀) {n : Nat}
    (hk : Heeds decided (Nat.repeat (Pool.turn w) n s).contests) :
    ∃ m, Follows w E (Nat.repeat (Pool.turn w) n s)
      (Nat.repeat (Pool.turn (w.silent decided)) m s₀) := by
  induction n with
  | zero => exact ⟨0, h⟩
  | succ n ih =>
    obtain ⟨m, hm⟩ := ih (hk.before (turn_cases _).contests_grow)
    obtain hturn | hturn := hm.turn hk
    · exact ⟨m, hturn⟩
    · exact ⟨m + 1, hturn⟩

end Follows

/-- A pool that is idle after some turns has settled. -/
theorem settle_of_idle {m : Nat} (h : (Nat.repeat (turn w) m s).idle = true) :
    s.settle w = Nat.repeat (turn w) m s := by
  have hmore : ∀ {m : Nat}, (Nat.repeat (turn w) m s).idle = true → ∀ k,
      Nat.repeat (turn w) (m + k) s = Nat.repeat (turn w) m s := by
    intro m hm k
    induction k with
    | zero => rfl
    | succ k ih =>
      show turn w (Nat.repeat (turn w) (m + k) s) = _
      rw [ih, turn_of_idle hm]
  have hsettle : (Nat.repeat (turn w) s.effort s).idle = true := idle_settle s
  rw [settle, ← hmore hsettle m, ← hmore h s.effort, Nat.add_comm]

/-- **Once both pools have settled**, they are alike. -/
theorem beside_settle (h : Follows w E s s₀) (hk : Heeds decided (s.settle w).contests) :
    Beside [] (s.settle w) (s₀.settle (w.silent decided)) := by
  obtain ⟨m, hm⟩ := h.turns hk
  have hidle : (s.settle w).idle = true := idle_settle s
  change Follows w E (s.settle w) _ at hm
  obtain ⟨hq, hj⟩ := idle_iff.mp hidle
  obtain ⟨hr, hc⟩ := List.append_eq_nil_iff.mp hq
  have hready := hm.beside.ready
  rw [hr, List.filter_nil] at hready
  have hidle₀ : (Nat.repeat (turn (w.silent decided)) m s₀).idle = true := by
    rw [idle_iff, hready, ← hm.beside.called, ← hm.beside.jobs]
    exact ⟨hc, hj⟩
  rw [settle_of_idle hidle₀]
  exact ⟨hm.beside.core, hm.beside.gate, by rw [hready, hr]; rfl⟩

/-! ### Alarms -/

/-- The tasks with an alarm between now and an instant. -/
def due (w : Workload World Work Job Result) (time : Instant) (s : Pool World Work Job Result) :
    List Nat :=
  (List.range s.tasks.length).filter fun id =>
    (s.tasks[id]?.any fun t => (t.alarms w).any fun a => s.now < a && a ≤ time)

theorem moveTo_eq (w : Workload World Work Job Result) (looks : Nat) (time : Instant)
    (s : Pool World Work Job Result) :
    s.moveTo w looks time = { s with now := time, ticks := s.ticks + looks }.wake (s.due w time) :=
  rfl

theorem mem_due {time : Instant} : i ∈ s.due w time ↔
    ∃ t, s.tasks[i]? = some t ∧ ∃ a ∈ t.alarms w, s.now < a ∧ a ≤ time := by
  rw [due, List.mem_filter, List.mem_range]
  constructor
  · rintro ⟨hi, hd⟩
    rw [List.getElem?_eq_getElem hi] at hd
    exact ⟨_, List.getElem?_eq_getElem hi, by simpa using hd⟩
  · rintro ⟨t, ht, hd⟩
    exact ⟨(List.getElem?_eq_some_iff.mp ht).1, by rw [ht]; simpa using hd⟩

theorem due_ext {w' : Workload World Work Job Result} {time time' : Instant}
    (hl : s.tasks.length = s'.tasks.length) (h : ∀ i, i ∈ s.due w time ↔ i ∈ s'.due w' time') :
    s.due w time = s'.due w' time' := by
  have hi := fun i => h i
  unfold due at hi ⊢
  rw [hl] at hi ⊢
  refine List.filter_congr fun i hr => ?_
  have h := hi i
  rwa [List.mem_filter, List.mem_filter, and_iff_right hr, and_iff_right hr, ← Bool.eq_iff_iff] at h

theorem mem_alarms {a : Instant} : a ∈ t.alarms w ↔
    t.isLive = true ∧ (t.wakesAt = some a ∨ t.deadline w = some a ∨ t.noticeAt w = some a) := by
  unfold Task.alarms
  split_ifs with hl <;> simp [hl]

theorem noticeAt_silent (t : Task Work Job Result) : t.noticeAt (w.silent decided) = none := by
  unfold Task.noticeAt
  split
  · next h => cases h
  · rfl

/-- Without a notice, a task has its other alarms. -/
theorem mem_alarms_silent {a : Instant} : a ∈ t.alarms (w.silent decided) ↔
    t.isLive = true ∧ (t.wakesAt = some a ∨ t.deadline w = some a) := by
  rw [mem_alarms, noticeAt_silent]
  simp only [reduceCtorEq, or_false]
  rfl

theorem alarms_of_silent {a : Instant} (h : a ∈ t.alarms (w.silent decided)) : a ∈ t.alarms w := by
  obtain ⟨hl, h⟩ := mem_alarms_silent.mp h
  exact mem_alarms.mpr ⟨hl, h.imp_right .inl⟩

theorem alarms_unnoticed (t : Task Work Job Result) :
    t.unnoticed.alarms (w.silent decided) = t.alarms (w.silent decided) := by
  unfold Task.alarms
  rw [noticeAt_silent, noticeAt_silent]
  rfl

/-- All alarms that are still to come. -/
def Upcoming (w : Workload World Work Job Result) (s : Pool World Work Job Result) (a : Instant) :
    Prop :=
  s.now < a ∧ ∃ (i : Nat) (t : Task Work Job Result), s.tasks[i]? = some t ∧ a ∈ t.alarms w

theorem nextAlarm_eq_some_iff {a : Instant} : s.nextAlarm w = some a ↔
    s.Upcoming w a ∧ ∀ b, s.Upcoming w b → a ≤ b := by
  have hmem : ∀ b, b ∈ (s.tasks.flatMap (Task.alarms w)).filter (s.now < ·) ↔ s.Upcoming w b := by
    intro b
    rw [List.mem_filter, List.mem_flatMap, decide_eq_true_iff, and_comm]
    refine and_congr_right fun _ => ⟨?_, ?_⟩
    · rintro ⟨t, ht, hb⟩
      obtain ⟨i, hi⟩ := List.mem_iff_getElem?.mp ht
      exact ⟨i, t, hi, hb⟩
    · rintro ⟨i, t, hi, hb⟩
      exact ⟨t, List.mem_of_getElem? hi, hb⟩
  rw [nextAlarm, List.min?_eq_some_iff, hmem]
  simp only [hmem]

theorem nextAlarm_le {a : Instant} (h : s.Upcoming w a) : ∃ b, s.nextAlarm w = some b ∧ b ≤ a := by
  rcases hn : s.nextAlarm w with _ | b
  · rw [nextAlarm, List.min?_eq_none_iff, List.filter_eq_nil_iff] at hn
    obtain ⟨hlt, i, t, hi, ha⟩ := h
    have hm := List.mem_flatMap.mpr ⟨t, List.mem_of_getElem? hi, ha⟩
    exact absurd (by simpa using hlt) (hn a hm)
  · exact ⟨b, rfl, (nextAlarm_eq_some_iff.mp hn).2 a h⟩

/-- The next alarm is before an instant, or all are to come no sooner. -/
theorem next_or_far (w : Workload World Work Job Result) (s : Pool World Work Job Result)
    (goal : Instant) :
    (∃ a, s.nextAlarm w = some a ∧ a < goal) ∨ ∀ b, s.Upcoming w b → goal ≤ b := by
  by_cases hnext : ∃ a, s.nextAlarm w = some a ∧ a < goal
  · exact .inl hnext
  · refine .inr fun b hup => ?_
    obtain ⟨c, hc, hle⟩ := nextAlarm_le hup
    exact Nat.le_trans (Nat.le_of_not_lt fun hlt => hnext ⟨c, hc, hlt⟩) hle

/-- Pools in which the same alarms are to come. -/
theorem nextAlarm_congr {w' : Workload World Work Job Result}
    (h : ∀ a, s.Upcoming w a ↔ s'.Upcoming w' a) : s.nextAlarm w = s'.nextAlarm w' := by
  refine Option.ext fun a => ?_
  simp only [nextAlarm_eq_some_iff, h]

theorem Upcoming.of_silent {a : Instant} (h : s.Upcoming (w.silent decided) a) : s.Upcoming w a :=
  let ⟨hlt, i, t, ht, ha⟩ := h
  ⟨hlt, i, t, ht, alarms_of_silent ha⟩

/-- In pools that are alike the same alarms are to come, but for notices. -/
theorem Beside.upcoming (h : Beside [] s s₀) {a : Instant} (ha : s₀.Upcoming (w.silent decided) a) :
    s.Upcoming (w.silent decided) a := by
  obtain ⟨hlt, i, t, ht, ha⟩ := ha
  obtain ⟨b, ht'⟩ := h.symm.task ht
  refine ⟨by rwa [h.now], i, _, ht', ?_⟩
  rw [mem_alarms_silent] at ha ⊢
  exact ha

theorem Beside.due (h : Beside [] s s₀) (time : Instant) :
    s₀.due (w.silent decided) time = s.due (w.silent decided) time := by
  rw [Pool.due, Pool.due, ← h.length]
  refine List.filter_congr fun i _ => ?_
  rw [← h.now]
  refine (h.any (fun t => ?_) i).symm
  rw [alarms_unnoticed]

theorem due_of_silent {time : Instant} (h : i ∈ s.due (w.silent decided) time) :
    i ∈ s.due w time := by
  obtain ⟨t, ht, a, ha, hlt⟩ := mem_due.mp h
  exact mem_due.mpr ⟨t, ht, a, alarms_of_silent ha, hlt⟩

/-! ### The clock -/

/-- A pool in which everything is in its place. -/
structure Orderly (w : Workload World Work Job Result) (s : Pool World Work Job Result) : Prop where
  slots : SlotsSound s
  jobs : JobsSound s
  place : InPlace w s

theorem Orderly.steps (h : Orderly w s) (hs : Steps w s s') : Orderly w s' where
  slots := slotsSound_steps hs h.slots
  jobs := of_steps (P := JobsSound) (fun _ _ hc hj => hj.effect hc.effect)
    (fun _ work hj => hj.accept work) (fun _ _ hj => ⟨hj.once, hj.held, hj.pending⟩) hs h.jobs
  place := inPlace_steps hs h.place

/-- The tasks of which the clock only says that they are slow. -/
def slow (w : Workload World Work Job Result) (time : Instant) (s : Pool World Work Job Result) :
    List Nat :=
  (s.due w time).filter (· ∉ s.due { w with notice := none } time)

theorem slow_eq (w : Workload World Work Job Result) (decided : List Bool → Bool) (time : Instant)
    (s : Pool World Work Job Result) :
    s.slow w time = (s.due w time).filter (· ∉ s.due (w.silent decided) time) := rfl

/-- The others are due for another reason. -/
theorem filter_slow (w : Workload World Work Job Result) (decided : List Bool → Bool)
    (time : Instant) (s : Pool World Work Job Result) :
    (s.due w time).filter (· ∉ s.slow w time) = s.due (w.silent decided) time := by
  show ((List.range _).filter _).filter _ = (List.range _).filter _
  rw [List.filter_filter]
  refine List.filter_congr fun i hi => ?_
  have hdue : ∀ w' : Workload World Work Job Result, i ∈ s.due w' time ↔
      (s.tasks[i]?.any fun t => (t.alarms w').any fun a => s.now < a && a ≤ time) = true :=
    fun w' => List.mem_filter.trans (and_iff_right hi)
  rw [Bool.eq_iff_iff, Bool.and_eq_true, decide_eq_true_iff, ← hdue, ← hdue, slow, List.mem_filter,
    decide_eq_true_iff]
  have hsub : i ∈ s.due (w.silent decided) time → i ∈ s.due w time := due_of_silent
  tauto

theorem ready_moveTo (hidle : s.idle = true) (looks : Nat) (time : Instant) :
    (s.moveTo w looks time).ready = s.due w time := by
  have hq := not_called (idle_iff.mp hidle).1
  have hr : s.ready = [] := (List.append_eq_nil_iff.mp (idle_iff.mp hidle).1).1
  have hall : (s.due w time).filter (!s.isQueued ·) = s.due w time :=
    List.filter_eq_self.mpr fun i _ => by
      rw [Bool.not_eq_true', ← Bool.not_eq_true, isQueued_iff]
      exact hq i
  show s.ready ++ (s.due w time).filter (!s.isQueued ·) = _
  rw [hall, hr, List.nil_append]

/-- When both clocks move on, some tasks are ready in the first pool only because they are slow. -/
theorem beside_moveTo (h : Beside [] s s₀) (hidle : s.idle = true) (hidle₀ : s₀.idle = true)
    (looks : Nat) (time : Instant) :
    Beside (s.slow w time) (s.moveTo w looks time) (s₀.moveTo (w.silent decided) looks time) where
  core := congrArg (fun p => { p with now := time }) h.core
  gate := h.gate
  ready := by rw [ready_moveTo hidle, ready_moveTo hidle₀, h.due, filter_slow]

/-- **When both clocks move on**, the second pool follows the first. -/
theorem follows_moveTo (h : Beside [] s s₀) (ho : Orderly w s) (hidle : s.idle = true)
    (hidle₀ : s₀.idle = true) (looks : Nat) {time : Instant} (hle : s.now ≤ time) :
    Follows w (s.slow w time) (s.moveTo w looks time)
      (s₀.moveTo (w.silent decided) looks time) where
  beside := beside_moveTo h hidle hidle₀ looks time
  slots := (ho.steps (.single (.tick hle))).slots
  calls := .inr (List.append_eq_nil_iff.mp (idle_iff.mp hidle).1).2
  rests i hi := by
    rw [slow_eq w fun _ => false] at hi
    obtain ⟨hdue, hother⟩ := List.mem_filter.mp hi
    obtain ⟨t, ht, a, ha, hlt, hle⟩ := mem_due.mp hdue
    obtain ⟨hl, hwhy⟩ := mem_alarms.mp ha
    -- an alarm of another kind would be one of the second pool, too
    have hnone : ∀ b, t.wakesAt = some b ∨ t.deadline w = some b → s.now < b → ¬ b ≤ time := by
      intro b hb hlt hle
      refine (of_decide_eq_true hother) (mem_due.mpr ⟨t, ht, b, ?_, hlt, hle⟩)
      exact mem_alarms_silent.mpr ⟨hl, hb⟩
    have hstarted : t.startedAt ≠ none := by
      obtain hw | hd | hn := hwhy
      · exact absurd hle (hnone a (.inl hw) hlt)
      · exact absurd hle (hnone a (.inr hd) hlt)
      · intro hs
        unfold Task.noticeAt at hn
        rw [hs] at hn
        split at hn <;> simp_all
    obtain ⟨hc, hrest⟩ := rests_of_idle ho.place ho.jobs hidle ht hl hstarted
    exact ⟨hc, t, ht, hrest.moveTo (fun b hb => hnone b (.inr hb) (hrest.deadline b hb))
      fun b hb => hnone b (.inl hb) (hrest.wakes hb)⟩

/-! ### Runs of the clock -/

theorem settle_eq_of_idle (h : s.idle = true) : s.settle w = s := settle_of_idle (m := 0) h

section
variable {stop : Pool World Work Job Result → Bool} {goal a : Instant} {n : Nat}

theorem runTo_settle :
    (s.settle w).runTo w stop goal (n + 1) = s.runTo w stop goal (n + 1) := by
  unfold runTo
  rw [settle_eq_of_idle (idle_settle s)]

theorem runTo_of_stop (hidle : s.idle = true) (hstop : stop s = true) :
    s.runTo w stop goal (n + 1) = s := by
  unfold runTo
  rw [settle_eq_of_idle hidle]
  exact if_pos hstop

theorem runTo_of_next (hidle : s.idle = true) (hstop : stop s = false)
    (ha : s.nextAlarm w = some a) (hlt : a < goal) :
    s.runTo w stop goal (n + 1) = (s.moveTo w 1 a).runTo w stop goal n := by
  have hn : ¬ stop s = true := by rw [hstop]; exact Bool.false_ne_true
  rw [runTo, settle_eq_of_idle hidle, if_neg hn, ha]
  exact if_pos hlt

theorem runTo_of_far (hidle : s.idle = true) (hstop : stop s = false)
    (hfar : ∀ b, s.Upcoming w b → goal ≤ b) :
    s.runTo w stop goal (n + 1) = s.moveTo w 2 goal := by
  have hn : ¬ stop s = true := by rw [hstop]; exact Bool.false_ne_true
  unfold runTo
  rw [settle_eq_of_idle hidle]
  dsimp only
  rw [if_neg hn]
  split
  · next b hb => exact if_neg (Nat.not_lt_of_le (hfar b (nextAlarm_eq_some_iff.mp hb).1))
  · rfl

/-- The clock may move on for a while if nothing is due until then. -/
theorem runTo_of_later (hstop : ∀ s', s'.stages = s.stages → stop s' = false)
    (hidle : s.idle = true) (hlt : s.now < a) (hnext : ∀ b, s.Upcoming w b → a < b) :
    Pool.runTo w stop goal (n + 1) { s with now := a } = s.runTo w stop goal (n + 1) := by
  have hup : ∀ b, Upcoming w { s with now := a } b ↔ s.Upcoming w b := fun b =>
    ⟨fun hb => ⟨Nat.lt_trans hlt hb.1, hb.2⟩, fun hb => ⟨hnext b hb, hb.2⟩⟩
  have hdue : ∀ b, Pool.due w b { s with now := a } = s.due w b := by
    refine fun b => due_ext rfl fun i => ?_
    rw [mem_due, mem_due]
    constructor
    · exact fun ⟨t, ht, c, hc, hlt', hle⟩ => ⟨t, ht, c, hc, Nat.lt_trans hlt hlt', hle⟩
    · exact fun ⟨t, ht, c, hc, hlt', hle⟩ => ⟨t, ht, c, hc, hnext c ⟨hlt', i, t, ht, hc⟩, hle⟩
  have hmove : ∀ looks b, Pool.moveTo w looks b { s with now := a } = s.moveTo w looks b := by
    intro looks b
    rw [moveTo_eq, hdue]
    rfl
  have hstop' := hstop { s with now := a } rfl
  have hidle' : Pool.idle { s with now := a } = true := hidle
  obtain ⟨b, hb, hlt⟩ | hfar := s.next_or_far w goal
  · rw [runTo_of_next hidle (hstop s rfl) hb hlt,
      runTo_of_next hidle' hstop' ((nextAlarm_congr hup).trans hb) hlt, hmove]
  · rw [runTo_of_far hidle (hstop s rfl) hfar,
      runTo_of_far hidle' hstop' fun b hb => hfar b ((hup b).mp hb), hmove]

/-- **The clock may stop over** at an instant before which nothing is due. The runtime need not be
at work there. -/
theorem runTo_stopover (hstop : ∀ s', s'.stages = s.stages → stop s' = false)
    (hidle : s.idle = true) (hlt : s.now < a) (hgoal : a < goal)
    (hnext : ∀ b, s.Upcoming w b → a ≤ b) (hn : goal ≤ s.now + (n + 1)) :
    ∃ k m, goal ≤ a + m ∧ s.runTo w stop goal (n + 1) =
      Pool.runTo w stop goal m { s.moveTo w 1 a with ticks := k } := by
  by_cases ha : s.Upcoming w a
  · have hmove : ∀ x y g : Nat, x < y → g ≤ x + (n + 1) → g ≤ y + n := fun x y g => by omega
    exact ⟨s.ticks + 1, n, hmove _ _ _ hlt hn,
      runTo_of_next hidle (hstop s rfl) (nextAlarm_eq_some_iff.mpr ⟨ha, hnext⟩) hgoal⟩
  · -- nothing is due there either
    have hlater : ∀ b, s.Upcoming w b → a < b := by
      refine fun b hb => Nat.lt_of_le_of_ne (hnext b hb) ?_
      rintro rfl
      exact ha hb
    have hnone : s.due w a = [] := by
      refine List.eq_nil_iff_forall_not_mem.mpr fun i hi => ?_
      obtain ⟨t, ht, b, hb, hlt, hle⟩ := mem_due.mp hi
      exact Nat.not_lt_of_le hle (hlater b ⟨hlt, i, t, ht, hb⟩)
    refine ⟨s.ticks, n + 1, Nat.le_trans hn (Nat.add_le_add_right (Nat.le_of_lt hlt) _), ?_⟩
    rw [moveTo_eq, hnone, wake_nil]
    exact (runTo_of_later hstop hidle hlt hlater).symm

end

/-- **No notice falls due** at this very instant. -/
def Unhurried (w : Workload World Work Job Result) (s : Pool World Work Job Result) : Prop :=
  ∀ t ∈ s.tasks, t.isLive = true → t.noticeAt w ≠ some s.now

instance (w : Workload World Work Job Result) (s : Pool World Work Job Result) :
    Decidable (Unhurried w s) :=
  inferInstanceAs (Decidable (∀ t ∈ s.tasks, t.isLive = true → t.noticeAt w ≠ some s.now))

/-- Then no task is ready only because it is slow. -/
theorem slow_of_unhurried {looks : Nat} {goal : Instant} (h : Unhurried w (s.moveTo w looks goal))
    (hfar : ∀ b, s.Upcoming w b → goal ≤ b) : s.slow w goal = [] := by
  refine List.eq_nil_iff_forall_not_mem.mpr fun i hi => ?_
  rw [slow_eq w fun _ => false] at hi
  obtain ⟨hdue, hother⟩ := List.mem_filter.mp hi
  obtain ⟨t, ht, a, ha, hlt, hle⟩ := mem_due.mp hdue
  obtain rfl : a = goal := Nat.le_antisymm hle (hfar a ⟨hlt, i, t, ht, ha⟩)
  refine (of_decide_eq_true hother) (mem_due.mpr ⟨t, ht, a, ?_, hlt, hle⟩)
  obtain ⟨hl, hw | hd | hn⟩ := mem_alarms.mp ha
  · exact mem_alarms_silent.mpr ⟨hl, .inl hw⟩
  · exact mem_alarms_silent.mpr ⟨hl, .inr hd⟩
  · exact absurd hn (h t (List.mem_of_getElem? ht) hl)

/-- Whether to stop is seen from how far the tasks have come. -/
def SeesStages (stop : Pool World Work Job Result → Bool) : Prop :=
  ∀ s s', s.stages = s'.stages → stop s = stop s'

/-- **The second clock stops over** where the first one does, and the second pool follows on. -/
theorem follows_stopover (decided : List Bool → Bool) {stop : Pool World Work Job Result → Bool}
    (hstop : SeesStages stop) {goal a : Instant} {m : Nat} (hb : Beside [] s s₀) (ho : Orderly w s)
    (hidle : s.idle = true) (hidle₀ : s₀.idle = true) (hs : stop s = false)
    (ha : s.nextAlarm w = some a) (hgoal : a < goal) (hm : goal ≤ s.now + (m + 1)) :
    ∃ m' s₁, goal ≤ a + m' ∧ Follows w (s.slow w a) (s.moveTo w 1 a) s₁ ∧
      s₀.runTo (w.silent decided) stop goal (m + 1) = s₁.runTo (w.silent decided) stop goal m' := by
  have hlt := lt_of_nextAlarm ha
  have hle : ∀ b, s₀.Upcoming (w.silent decided) b → a ≤ b := fun b hup =>
    (nextAlarm_eq_some_iff.mp ha).2 b (hb.upcoming hup).of_silent
  have hstop₀ : ∀ s', s'.stages = s₀.stages → stop s' = false := fun s' hst =>
    (hstop s' s (hst.trans hb.stages.symm)).trans hs
  obtain ⟨k, m', hm', he⟩ := runTo_stopover hstop₀ hidle₀ (hb.now ▸ hlt) hgoal hle (hb.now ▸ hm)
  exact ⟨m', { s₀.moveTo (w.silent decided) 1 a with ticks := k }, hm',
    (follows_moveTo hb ho hidle hidle₀ 1 (Nat.le_of_lt hlt)).withTicks k, he⟩

/-- **Letting time pass in both pools**, they are alike in the end. -/
theorem beside_runTo {stop : Pool World Work Job Result → Bool} (hstop : SeesStages stop)
    {goal : Instant} : ∀ (n m : Nat) {E : List Nat} {s s₀ : Pool World Work Job Result},
      Follows w E s s₀ → Orderly w s → s.now < goal → goal ≤ s.now + n → goal ≤ s.now + m →
        Unhurried w (s.runTo w stop goal n) → Heeds decided (s.runTo w stop goal n).contests →
          Beside [] (s.runTo w stop goal n) (s₀.runTo (w.silent decided) stop goal m)
  | 0, _, _, _, _, _, _, hlt, hn, _, _, _ =>
    absurd (Nat.lt_of_lt_of_le hlt hn) (Nat.lt_irrefl _)
  | _ + 1, 0, _, _, _, _, _, hlt, _, hm, _, _ =>
    absurd (Nat.lt_of_lt_of_le hlt hm) (Nat.lt_irrefl _)
  | n + 1, m + 1, E, s, s₀, hf, ho, hlt, hn, hm, hu, hk => by
    have ho' : Orderly w (s.settle w) := ho.steps (lapses_settle s).steps
    have hidle : (s.settle w).idle = true := idle_settle s
    have hidle₀ : (s₀.settle (w.silent decided)).idle = true := idle_settle s₀
    have hnow := (stands_settle (w := w) s).now
    rw [← runTo_settle (s := s)] at hu hk ⊢
    rw [← runTo_settle (s := s₀)]
    rw [← hnow] at hlt hn hm
    have hrun : Lapses w (s.settle w) ((s.settle w).runTo w stop goal (n + 1)) :=
      lapses_runTo stop goal (n + 1) (Nat.le_of_lt hlt)
    have hb := beside_settle hf (hk.before (contests_grow_of_steps hrun.steps))
    generalize s.settle w = s at hb ho' hidle hu hk hlt hn hm ⊢
    generalize s₀.settle (w.silent decided) = s₀ at hb hidle₀ ⊢
    have hsame := hstop s s₀ hb.stages
    rcases hs : stop s with _ | _
    · obtain ⟨a, ha, hgoal⟩ | hfar := s.next_or_far w goal
      · have hlt' := lt_of_nextAlarm ha
        obtain ⟨m', s₁, hm', hfollows, he⟩ :=
          follows_stopover decided hstop hb ho' hidle hidle₀ hs ha hgoal hm
        rw [runTo_of_next hidle hs ha hgoal] at hu hk ⊢
        rw [he]
        have hmove : ∀ x y g : Nat, x < y → g ≤ x + (n + 1) → g ≤ y + n := fun x y g => by omega
        exact beside_runTo hstop n m' hfollows
          (ho'.steps (.single (.tick (Nat.le_of_lt hlt')))) hgoal (hmove _ _ _ hlt' hn) hm' hu hk
      · have hfar₀ : ∀ b, s₀.Upcoming (w.silent decided) b → goal ≤ b := fun b hup =>
          hfar b (hb.upcoming hup).of_silent
        rw [runTo_of_far hidle hs hfar] at hu ⊢
        rw [runTo_of_far hidle₀ (hsame.symm.trans hs) hfar₀]
        have hmove : Beside (s.slow w goal) (s.moveTo w 2 goal)
            (s₀.moveTo (w.silent decided) 2 goal) := beside_moveTo hb hidle hidle₀ 2 goal
        rwa [slow_of_unhurried hu hfar] at hmove
    · rw [runTo_of_stop hidle hs, runTo_of_stop hidle₀ (hsame.symm.trans hs)]
      exact hb

/-- Two pools that are alike follow each other. -/
theorem follows_of_beside (h : Beside [] s s₀) (ho : Orderly w s) : Follows w [] s s₀ :=
  ⟨h, ho.slots, .inl rfl, fun _ hi => absurd hi List.not_mem_nil⟩

/-- A span of time passes in both pools. -/
theorem beside_span (h : Beside [] s s₀) (ho : Orderly w s)
    {stop : Pool World Work Job Result → Bool} (hstop : SeesStages stop) {n : Nat}
    (hu : Unhurried w (s.runTo w stop (s.now + n) n))
    (hk : Heeds decided (s.runTo w stop (s.now + n) n).contests) :
    Beside [] (s.runTo w stop (s.now + n) n)
      (s₀.runTo (w.silent decided) stop (s₀.now + n) n) := by
  rw [← h.now]
  rcases n with _ | n
  · exact h
  · refine beside_runTo hstop _ _ (follows_of_beside h ho) ho ?_ (Nat.le_refl _) (Nat.le_refl _)
      hu hk
    exact Nat.lt_add_of_pos_right (Nat.succ_pos n)

theorem beside_advance (h : Beside [] s s₀) (ho : Orderly w s) {millis : Nat}
    (hu : Unhurried w (s.advance w millis)) (hk : Heeds decided (s.advance w millis).contests) :
    Beside [] (s.advance w millis) (s₀.advance (w.silent decided) millis) :=
  beside_span h ho (fun _ _ _ => rfl) hu hk

theorem beside_await (h : Beside [] s s₀) (ho : Orderly w s) {id patience : Nat}
    (hu : Unhurried w (s.await w id patience))
    (hk : Heeds decided (s.await w id patience).contests) :
    Beside [] (s.await w id patience) (s₀.await (w.silent decided) id patience) := by
  have hstop : SeesStages fun s : Pool World Work Job Result => (s.result? id).isSome :=
    fun s s' hst => by
      dsimp only
      rw [result?_eq, result?_eq, hst]
  unfold await at hu hk ⊢
  rw [← h.result?]
  split_ifs at hu hk ⊢
  · exact h
  · exact beside_span h ho hstop hu hk

theorem beside_drain (h : Beside [] s s₀) (ho : Orderly w s) {window : Nat}
    (hu : Unhurried w (s.drain w window)) (hk : Heeds decided (s.drain w window).contests) :
    Beside [] (s.drain w window) (s₀.drain (w.silent decided) window) := by
  have hstop : SeesStages fun s : Pool World Work Job Result => s.active == 0 :=
    fun s s' hst => by
      dsimp only
      rw [active_congr hst]
  have hclosed : Beside [] { s with closed := true } { s₀ with closed := true } :=
    h.of (congrArg (fun p => { p with closed := true }) h.core) rfl rfl rfl rfl
  have hactive : Pool.active { s₀ with closed := true } = Pool.active { s with closed := true } :=
    hclosed.active.symm
  unfold drain at hu hk ⊢
  dsimp only at hu hk ⊢
  rw [hactive]
  split_ifs at hu hk ⊢
  · exact hclosed
  · exact beside_span hclosed (ho.steps (.single (.close s))) hstop hu hk

theorem beside_abandon (h : Beside [] s s₀) (ho : Orderly w s)
    (hk : Heeds decided (s.abandon w).contests) :
    Beside [] (s.abandon w) (s₀.abandon (w.silent decided)) := by
  have hdown : Beside [] s.tearDown s₀.tearDown := by
    have hlocked : Beside [] { s with teardown := .locked } { s₀ with teardown := .locked } :=
      h.of (congrArg (fun p => { p with teardown := .locked }) h.core) rfl rfl rfl rfl
    unfold tearDown
    rw [← h.live]
    exact hlocked.wake fun _ _ => List.not_mem_nil
  exact beside_settle (follows_of_beside hdown (ho.steps (steps_tearDown s))) hk

end ArtifactFetch.Pool
