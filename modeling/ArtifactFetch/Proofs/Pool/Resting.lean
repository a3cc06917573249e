import ArtifactFetch.Proofs.Pool.Jobs
import ArtifactFetch.Proofs.Pool.Looking

/-! # Tasks that wait

A task that was looked at has gone on as far as it can. So a task that has not ended and is not to
be looked at is in line for a slot, waits for its job, or rests: it sleeps, or it stands in line at
a gate and was granted no pass, and it may work for a while yet (`InPlace`). Looking at one task
leaves those that rest at rest, as long as the pool is not cancelled. -/

namespace ArtifactFetch.Pool

variable {World Work Job Result : Type} {w : Workload World Work Job Result}
  {s s' : Pool World Work Job Result} {id i : Nat} {t : Task Work Job Result}

/-! ### Gates -/

theorem lookup_replace {α β : Type} [DecidableEq α] (a b : α) (v : β) (l : List (α × β)) :
    (l.filter (·.1 != a) ++ [(a, v)]).lookup b = if b = a then some v else l.lookup b := by
  have hne : ∀ {c d : α}, ¬ c = d → (c == d) = false := fun h => beq_eq_false_iff_ne.mpr h
  induction l with
  | nil => by_cases h : b = a <;> simp [List.lookup_cons, h, hne]
  | cons x l ih =>
    obtain ⟨k, u⟩ := x
    by_cases hk : k = a
    · subst hk
      rw [List.filter_cons_of_neg (by simp), ih, List.lookup_cons]
      by_cases hb : b = k <;> simp [hb, hne]
    · rw [List.filter_cons_of_pos (by simpa using hk), List.cons_append, List.lookup_cons,
        List.lookup_cons, ih]
      by_cases hb : b = k
      · subst hb
        simp [hk]
      · simp [hb, hne]

theorem gate_setGate (s : Pool World Work Job Result) (name name' : String) (g : Turnstile) :
    (s.setGate name g).gate name' = if name' = name then g else s.gate name' := by
  unfold gate setGate
  dsimp only
  rw [lookup_replace]
  split_ifs <;> rfl

theorem wake_nil (s : Pool World Work Job Result) : s.wake [] = s := by
  cases s
  simp [wake]

theorem leaveGate_of_not_granted {name : String} (h : id ∉ (s.gate name).granted) :
    s.leaveGate name id =
      s.setGate name { s.gate name with queue := (s.gate name).queue.erase id } := by
  unfold leaveGate
  rw [Turnstile.leave_of_not_granted h]
  exact wake_nil _

/-- A task stands in line at a gate and was granted no pass. -/
structure InLine (s : Pool World Work Job Result) (name : String) (i : Nat) : Prop where
  queue : i ∈ (s.gate name).queue
  granted : i ∉ (s.gate name).granted

/-- A task keeps its place in the lines in which it stands. -/
def KeepsLines (i : Nat) (s s' : Pool World Work Job Result) : Prop :=
  ∀ name, s.InLine name i → s'.InLine name i

theorem KeepsLines.of_gates (h : s'.gates = s.gates) : KeepsLines i s s' := by
  intro name hl
  have hg : s'.gate name = s.gate name := by unfold gate; rw [h]
  exact ⟨by rw [hg]; exact hl.queue, by rw [hg]; exact hl.granted⟩

theorem KeepsLines.trans {a b c : Pool World Work Job Result} (h : KeepsLines i a b)
    (h' : KeepsLines i b c) : KeepsLines i a c := fun name hl => h' name (h name hl)

/-- What does not concern the gates may come before. -/
theorem KeepsLines.head {s₁ : Pool World Work Job Result} (h : KeepsLines i s₁ s')
    (hg : s₁.gates = s.gates) : KeepsLines i s s' := (KeepsLines.of_gates hg).trans h

theorem KeepsLines.setGate {name : String} {g : Turnstile} (h : s.InLine name i →
    i ∈ g.queue ∧ i ∉ g.granted) : KeepsLines i s (s.setGate name g) := by
  intro name' hl
  by_cases hn : name' = name
  · subst hn
    obtain ⟨hq, hg⟩ := h hl
    exact ⟨by rwa [gate_setGate, if_pos rfl], by rwa [gate_setGate, if_pos rfl]⟩
  · exact ⟨by rw [gate_setGate, if_neg hn]; exact hl.queue,
      by rw [gate_setGate, if_neg hn]; exact hl.granted⟩

/-- Whoever tries to walk through a gate, the others keep their places. -/
theorem keepsLines_enter {name : String} {g : Turnstile} {b : Bool}
    (he : (s.gate name).enter id = (g, b)) : KeepsLines i s (s.setGate name g) := by
  refine .setGate fun ⟨hq, hg⟩ => ?_
  cases b with
  | true =>
    obtain ⟨-, rfl⟩ | ⟨-, -, -, rfl⟩ := Turnstile.enter_true he
    · exact ⟨hq, fun h => hg (List.mem_of_mem_erase h)⟩
    · exact ⟨hq, hg⟩
  | false =>
    obtain ⟨-, ⟨-, rfl⟩ | ⟨-, -, rfl⟩⟩ := Turnstile.enter_false he
    · exact ⟨hq, hg⟩
    · exact ⟨List.mem_append_left _ hq, hg⟩

/-- A task was granted no pass through the gate at which it stands. -/
def Ungranted (s : Pool World Work Job Result) (id : Nat) (t : Task Work Job Result) : Prop :=
  ∀ name waits e, t.phase = .working (.gate name :: waits) e → id ∉ (s.gate name).granted

/-- A task that stands at no gate was granted no pass. -/
theorem ungranted_of_phase {ph : Phase Job Result} (hp : t.phase = ph)
    (hph : ∀ name waits e, ph ≠ .working (.gate name :: waits) e) : Ungranted s id t :=
  fun name waits e h => absurd (hp.symm.trans h) (hph name waits e)

/-- A task that does not get through a gate was granted no pass. -/
theorem ungranted_of_enter {name : String} {g : Turnstile}
    (he : (s.gate name).enter id = (g, false)) (waits : List Wait) (e : Ending Job Result)
    {t : Task Work Job Result} :
    Ungranted ((s.setGate name g).setPhase id (.working (.gate name :: waits) e)) id
      { t with phase := .working (.gate name :: waits) e } := by
  intro name' waits' e' h
  cases h
  show id ∉ ((s.setGate name g).gate name).granted
  rw [gate_setGate, if_pos rfl]
  obtain ⟨hg, ⟨-, rfl⟩ | ⟨-, -, rfl⟩⟩ := Turnstile.enter_false he <;> exact hg

theorem keepsLines_letGo (hne : i ≠ id) (hu : Ungranted s id t) :
    KeepsLines i s (s.letGo id t.phase) := by
  unfold letGo
  split
  · exact .of_gates rfl
  · exact .of_gates rfl
  · next name waits e hp =>
    rw [leaveGate_of_not_granted (hu name waits e hp)]
    refine .trans (.setGate fun hl => ?_) (.of_gates rfl)
    exact ⟨(List.mem_erase_of_ne hne).mpr hl.queue, hl.granted⟩
  · exact .of_gates rfl

theorem keepsLines_finish (ht : s.tasks[id]? = some t) (hne : i ≠ id) (hu : Ungranted s id t)
    (r : Result) : KeepsLines i s (s.finish w id r) := by
  rw [finish_eq ht]
  have h := keepsLines_letGo
    (s := { s with world := w.leave id t.work s.world }.setPhase id (.ended s.now r)) hne hu
  exact h.head rfl

theorem keepsLines_stay (ht : s.tasks[id]? = some t) (hne : i ≠ id) (hu : Ungranted s id t) :
    KeepsLines i s (s.stay w id) := by
  unfold stay
  rw [ht]
  dsimp only
  split_ifs
  · exact keepsLines_finish ht hne hu _
  · exact .of_gates rfl
  · exact fun _ hl => hl

/-- Coming through its waits, a task leaves the others in their lines. -/
theorem keepsLines_walk (hne : i ≠ id) : ∀ (waits : List Wait) {e : Ending Job Result}
    {s : Pool World Work Job Result} {t : Task Work Job Result}, s.tasks[id]? = some t →
      t.phase = .working waits e → KeepsLines i s (s.walk w id waits e)
  | [], .done r, s, t, ht, hp => by
    have hfinish := keepsLines_finish (s := s.record (.finished id)) (w := w) ht hne
      (ungranted_of_phase hp (by simp)) r
    exact hfinish.head rfl
  | [], .job j, s, t, ht, hp => by
    rw [walk_job]
    have hstay := keepsLines_stay (s := (s.record (.finished id)).handOver id j) (w := w)
      (getElem?_tasks_setPhase (s := s.record (.finished id)) ht .inJob) hne
      (ungranted_of_phase rfl (by simp))
    exact hstay.head rfl
  | .gate name :: waits, e, s, t, ht, hp => by
    unfold walk
    rcases he : (s.gate name).enter id with ⟨g, _ | _⟩ <;> dsimp only
    · refine (keepsLines_enter he).trans (.head (keepsLines_stay
        (getElem?_tasks_setPhase (s := s.setGate name g) ht _) hne ?_) rfl)
      exact ungranted_of_enter he waits e
    · exact (keepsLines_enter he).trans (.head (keepsLines_walk hne waits
        (getElem?_tasks_setPhase (s := s.setGate name g) ht (.working waits e)) rfl) rfl)
  | .sleep d :: waits, e, s, t, ht, hp => by
    unfold walk
    split_ifs
    · exact (keepsLines_walk hne waits (getElem?_tasks_setPhase ht (.working waits e)) rfl).head rfl
    · have hstay := keepsLines_stay (w := w)
        (getElem?_tasks_setPhase ht (.asleep (s.now + d) waits e)) hne
        (ungranted_of_phase rfl (by simp))
      exact hstay.head rfl

/-- **Looking at a task**, the others keep their places in the lines at the gates. -/
theorem keepsLines_poll (hc : s.cancelled = false) (hne : i ≠ id) :
    KeepsLines i s (s.poll w id) := by
  have hid : KeepsLines i s s := fun _ hl => hl
  rw [poll_of_running hc]
  unfold goOn
  rcases ht : s.tasks[id]? with _ | t
  · exact hid
  dsimp only
  cases hp : t.phase with
  | queued =>
    dsimp only
    split_ifs
    · exact hid
    rcases he : s.slots.enter id with ⟨slots, _ | _⟩ <;> dsimp only
    · exact .of_gates rfl
    · rw [begin_eq]
      exact (keepsLines_walk hne _ (getElem?_tasks_launch (s := { s with slots := slots }) ht)
        rfl).head rfl
  | working waits e => exact keepsLines_walk hne waits ht hp
  | asleep wake waits e =>
    dsimp only
    split_ifs
    · exact (keepsLines_walk hne waits (getElem?_tasks_setPhase ht (.working waits e)) rfl).head rfl
    · exact keepsLines_stay ht hne (ungranted_of_phase hp (by simp))
  | inJob => exact keepsLines_stay ht hne (ungranted_of_phase hp (by simp))
  | reported r => exact keepsLines_finish ht hne (ungranted_of_phase hp (by simp)) r
  | ended time r => exact hid

theorem keepsLines_runJob (id : Nat) (j : Job) (s : Pool World Work Job Result) :
    KeepsLines i s (s.runJob w id j) := by
  unfold runJob
  dsimp only
  split <;> exact .of_gates rfl

/-! ### Tasks at rest -/

/-- **A task rests**: it may work for a while yet, and it sleeps for a while or stands in line at a
gate. -/
structure Rests (w : Workload World Work Job Result) (s : Pool World Work Job Result) (i : Nat)
    (t : Task Work Job Result) : Prop where
  deadline : ∀ a, t.deadline w = some a → s.now < a
  wait : (∃ wake waits e, t.phase = .asleep wake waits e ∧ s.now < wake) ∨
    ∃ name waits e, t.phase = .working (.gate name :: waits) e ∧ s.InLine name i

theorem Rests.mono (h : Rests w s i t) (hn : s'.now = s.now) (hl : KeepsLines i s s') :
    Rests w s' i t where
  deadline := by rw [hn]; exact h.deadline
  wait := by
    rw [hn]
    exact h.wait.imp_right fun ⟨name, waits, e, hp, hline⟩ => ⟨name, waits, e, hp, hl name hline⟩

/-- A task at rest is at work. -/
theorem Rests.endsIn (h : Rests w s i t) : ∃ e, t.phase.endsIn = some e := by
  obtain ⟨_, _, e, hp, -⟩ | ⟨_, _, e, hp, -⟩ := h.wait
  · exact ⟨e, by rw [hp]; rfl⟩
  · exact ⟨e, by rw [hp]; rfl⟩

theorem Rests.phase_ne (h : Rests w s i t) {ph : Phase Job Result} (hph : ph.endsIn = none) :
    t.phase ≠ ph := by
  obtain ⟨e, he⟩ := h.endsIn
  rintro rfl
  rw [hph] at he
  cases he

/-- A task is to be looked at, or the pool is not cancelled and the task has gone on as far as it
can: it is in line for a slot, waits for its job, or rests. -/
structure Placed (w : Workload World Work Job Result) (s : Pool World Work Job Result) (i : Nat)
    (t : Task Work Job Result) : Prop where
  /-- Who is in line has not started. -/
  fresh : t.phase = .queued → t.startedAt = none
  place : s.Called i ∨
    s.cancelled = false ∧ (t.phase = .queued ∨ t.phase = .inJob ∨ Rests w s i t)

/-- **All tasks are in place** that have not ended. -/
def InPlace (w : Workload World Work Job Result) (s : Pool World Work Job Result) : Prop :=
  ∀ i t, s.tasks[i]? = some t → t.isLive = true → Placed w s i t

theorem Placed.mono (h : Placed w s i t) (hn : s'.now = s.now) (hs : s'.cancelled = s.cancelled)
    (hl : s.cancelled = false → KeepsLines i s s') (hc : s.Called i → s'.Called i) :
    Placed w s' i t where
  fresh := h.fresh
  place := h.place.imp hc fun ⟨hk, hp⟩ =>
    ⟨hs.trans hk, hp.imp_right (Or.imp_right fun hr => hr.mono hn (hl hk))⟩

/-- A task that has been looked at waits for its job or rests, unless it has ended. -/
def Halts (w : Workload World Work Job Result) (s : Pool World Work Job Result) (id : Nat) : Prop :=
  ∀ t, s.tasks[id]? = some t → t.isLive = true → t.phase = .inJob ∨ Rests w s id t

theorem getElem?_tasks_finish (ht : s.tasks[id]? = some t) (r : Result) :
    (s.finish w id r).tasks[id]? = some { t with phase := .ended s.now r } := by
  rw [finish_eq ht, tasks_letGo]
  exact getElem?_tasks_setPhase (s := { s with world := _ }) ht _

theorem halts_finish (ht : s.tasks[id]? = some t) (r : Result) :
    Halts w (s.finish w id r) id := by
  intro t' ht' hl
  rw [getElem?_tasks_finish ht] at ht'
  cases ht'
  cases hl

theorem halts_stay (ht : s.tasks[id]? = some t)
    (hw : t.phase = .inJob ∨ (∃ wake waits e, t.phase = .asleep wake waits e ∧ s.now < wake) ∨
      ∃ name waits e, t.phase = .working (.gate name :: waits) e ∧ s.InLine name id) :
    Halts w (s.stay w id) id := by
  have hrest : (t.deadline w).any (· ≤ s.now) = false → t.phase = .inJob ∨ Rests w s id t := by
    refine fun hd => hw.imp_right fun hwait => ⟨fun a ha => ?_, hwait⟩
    rw [ha] at hd
    simpa using hd
  unfold stay
  rw [ht]
  dsimp only
  split_ifs with hd hn
  · exact halts_finish ht _
  · -- that the task is slow is of no importance
    intro t' ht' _
    have heq : t' = { t with noticed := true } := by
      simpa [modifyTask, List.getElem?_modify_eq, ht] using ht'.symm
    rw [heq]
    refine (hrest (by simpa using hd)).imp_right fun h => ⟨h.deadline, h.wait.imp_right ?_⟩
    rintro ⟨name, waits, e, hp, hl⟩
    exact ⟨name, waits, e, hp, hl.queue, hl.granted⟩
  · intro t' ht' _
    obtain rfl : t = t' := Option.some.inj (ht.symm.trans ht')
    exact hrest (by simpa using hd)

/-- Coming through its waits, a task goes on as far as it can. -/
theorem halts_walk : ∀ (waits : List Wait) {e : Ending Job Result}
    {s : Pool World Work Job Result} {t : Task Work Job Result}, s.tasks[id]? = some t →
      Halts w (s.walk w id waits e) id
  | [], .done r, s, t, ht => halts_finish (s := s.record (.finished id)) ht r
  | [], .job j, s, t, ht => by
    rw [walk_job]
    exact halts_stay (s := (s.record (.finished id)).handOver id j)
      (getElem?_tasks_setPhase (s := s.record (.finished id)) ht .inJob) (.inl rfl)
  | .gate name :: waits, e, s, t, ht => by
    unfold walk
    rcases he : (s.gate name).enter id with ⟨g, _ | _⟩ <;> dsimp only
    · refine halts_stay (getElem?_tasks_setPhase (s := s.setGate name g) ht _)
        (.inr (.inr ⟨name, waits, e, rfl, ?_⟩))
      have hg : ((s.setGate name g).setPhase id (.working (.gate name :: waits) e)).gate name = g :=
        (gate_setGate s name name g).trans (if_pos rfl)
      obtain ⟨hn, ⟨hq, rfl⟩ | ⟨-, -, rfl⟩⟩ := Turnstile.enter_false he
      · exact ⟨by rwa [hg], by rwa [hg]⟩
      · exact ⟨by rw [hg]; exact List.mem_append_right _ List.mem_cons_self, by rwa [hg]⟩
    · exact halts_walk waits (getElem?_tasks_setPhase (s := s.setGate name g) ht _)
  | .sleep d :: waits, e, s, t, ht => by
    unfold walk
    split_ifs with hd
    · exact halts_walk waits (getElem?_tasks_setPhase ht _)
    · refine halts_stay (getElem?_tasks_setPhase ht (.asleep (s.now + d) waits e))
        (.inr (.inl ⟨_, waits, e, rfl, ?_⟩))
      exact Nat.lt_add_of_pos_right (Nat.pos_of_ne_zero hd)

/-- **A task that was looked at** is in line, or has gone on as far as it can. -/
theorem queued_or_halts (id : Nat) (hc : s.cancelled = false) :
    (∃ t, s.tasks[id]? = some t ∧ t.phase = .queued ∧ (s.poll w id).tasks[id]? = some t) ∨
      Halts w (s.poll w id) id := by
  rw [poll_of_running hc]
  unfold goOn
  rcases ht : s.tasks[id]? with _ | t
  · right
    intro t' ht'
    rw [ht] at ht'
    cases ht'
  dsimp only
  cases hp : t.phase with
  | queued =>
    dsimp only
    rw [if_neg (not_locked hc)]
    rcases he : s.slots.enter id with ⟨slots, _ | _⟩ <;> dsimp only
    · exact .inl ⟨t, rfl, hp, ht⟩
    · right
      rw [begin_eq]
      exact halts_walk _ (getElem?_tasks_launch (s := { s with slots := slots }) ht)
  | working waits e => exact .inr (halts_walk waits ht)
  | asleep wake waits e =>
    dsimp only
    split_ifs with hw
    · exact .inr (halts_walk waits (getElem?_tasks_setPhase ht _))
    · exact .inr (halts_stay ht (.inr (.inl ⟨wake, waits, e, hp, Nat.lt_of_not_le hw⟩)))
  | inJob => exact .inr (halts_stay ht (.inl hp))
  | reported r => exact .inr (halts_finish ht r)
  | ended time r =>
    right
    intro t' ht' hl
    obtain rfl : t = t' := Option.some.inj (ht.symm.trans ht')
    simp [Task.isLive, Task.result?, hp] at hl

/-! ### All tasks are in place -/

/-- **Looking at a task**, all are in place. -/
theorem inPlace_poll (h : ∀ i t, i ≠ id → s.tasks[i]? = some t → t.isLive = true → Placed w s i t)
    (hfresh : ∀ t, s.tasks[id]? = some t → t.phase = .queued → t.startedAt = none) :
    InPlace w (s.poll w id) := by
  have hlooks := looks_poll (w := w) s id
  intro i t ht hl
  by_cases hne : i = id
  · subst hne
    rcases hc : s.cancelled with _ | _
    · obtain ⟨t₀, ht₀, hp, ht₁⟩ | hhalts := queued_or_halts (w := w) i hc
      · obtain rfl : t₀ = t := Option.some.inj (ht₁.symm.trans ht)
        exact ⟨hfresh _ ht₀, .inr ⟨hlooks.stands.cancelled.trans hc, .inl hp⟩⟩
      · have hplace := hhalts t ht hl
        refine ⟨fun hq => ?_, .inr ⟨hlooks.stands.cancelled.trans hc, .inr hplace⟩⟩
        obtain hp | hrest := hplace
        · rw [hq] at hp
          cases hp
        · exact absurd hq (hrest.phase_ne rfl)
    · -- in a cancelled pool the task has ended
      have hended := ended_poll_of_cancelled hc (getElem?_stages ht)
      rw [Task.isLive_phase, hl] at hended
      cases hended
  · rw [hlooks.task_of_ne hne] at ht
    exact (h i t hne ht hl).mono hlooks.stands.now hlooks.stands.cancelled
      (fun hc => keepsLines_poll hc hne) hlooks.called

/-- A job that is run leaves its task as it is if that does not wait for it. -/
theorem task_runJob {id : Nat} (hp : i = id → ∀ c, s.stages[i]? ≠ some (c, .inJob)) (j : Job)
    (jobs : List (Nat × Job)) :
    ({ s with jobs := jobs }.runJob w id j).tasks[i]? = s.tasks[i]? := by
  unfold runJob
  dsimp only
  split
  · next hid =>
    obtain ⟨t, ht, htp⟩ := Option.map_eq_some_iff.mp hid
    have hne : id ≠ i := by
      rintro rfl
      have hst := getElem?_stages ht
      rw [htp] at hst
      exact hp rfl _ hst
    rw [tasks_wake, tasks_setPhase, List.getElem?_modify_ne _ _ hne]
  · rfl

theorem inPlace_runJob (h : InPlace w s) (id : Nat) (j : Job) (jobs : List (Nat × Job)) :
    InPlace w ({ s with jobs := jobs }.runJob w id j) := by
  have hstands := stands_runJob (w := w) id j jobs s
  intro i t ht hl
  by_cases hjob : i = id ∧ ∃ c, s.stages[i]? = some (c, .inJob)
  · obtain ⟨rfl, c, hst⟩ := hjob
    refine ⟨fun hq => ?_, .inl (called_of_inJob hst j jobs)⟩
    obtain ⟨c', hst', hs⟩ | ⟨hn, -⟩ := stages_runJob w i j { s with jobs := jobs }
    · have hnow := getElem?_stages ht
      rw [hs, getElem?_set_of hst', if_pos rfl, hq] at hnow
      cases hnow
    · exact absurd hst (hn c)
  · rw [task_runJob fun hi c hst => hjob ⟨hi, c, hst⟩] at ht
    exact (h i t ht hl).mono hstands.now hstands.cancelled
      (fun _ => (keepsLines_runJob id j { s with jobs := jobs }).head rfl) (called_runJob id j jobs)

theorem inPlace_turn (h : InPlace w s) : InPlace w (s.turn w) := by
  have hturn := turn_cases (w := w) s
  generalize s.turn w = s' at hturn ⊢
  cases hturn with
  | @look id ready called contests hq =>
    refine inPlace_poll (fun i t hne ht hl => ?_) fun t ht hq => (h id t ht ?_).fresh hq
    · exact (h i t ht hl).mono rfl rfl (fun _ => .of_gates rfl) (hq.called_of_ne hne)
    · rw [← Task.isLive_phase, hq]
      rfl
  | job => exact inPlace_runJob h _ _ _
  | rest => exact h

/-- A task whose alarm goes off on the way is called. -/
theorem called_moveTo {looks : Nat} {time : Instant} (ht : s.tasks[i]? = some t) {a : Instant}
    (ha : a ∈ t.alarms w) (hlt : s.now < a) (hle : a ≤ time) :
    (s.moveTo w looks time).Called i := by
  refine called_wake.mpr (.inr (List.mem_filter.mpr ⟨?_, ?_⟩))
  · exact List.mem_range.mpr (List.getElem?_eq_some_iff.mp ht).1
  · rw [ht, Option.any_some, List.any_eq_true]
    exact ⟨a, ha, by simpa using ⟨hlt, hle⟩⟩

/-- Who rests on after the clock has moved is not called. -/
theorem Rests.moveTo (h : Rests w s i t) {looks : Nat} {time : Instant}
    (hd : ∀ a, t.deadline w = some a → ¬ a ≤ time) (hw : ∀ a, t.wakesAt = some a → ¬ a ≤ time) :
    Rests w (s.moveTo w looks time) i t where
  deadline a ha := Nat.lt_of_not_le (hd a ha)
  wait := by
    refine h.wait.imp ?_ ?_
    · rintro ⟨wake, waits, e, hp, -⟩
      exact ⟨wake, waits, e, hp, Nat.lt_of_not_le (hw wake (by simp [Task.wakesAt, hp]))⟩
    · rintro ⟨name, waits, e, hp, hl⟩
      exact ⟨name, waits, e, hp, hl.queue, hl.granted⟩

/-- Who sleeps sleeps on until later. -/
theorem Rests.wakes (h : Rests w s i t) {a : Instant} (ha : t.wakesAt = some a) : s.now < a := by
  obtain ⟨wake, waits, e, hp, hlt⟩ | ⟨name, waits, e, hp, -⟩ := h.wait
  · simp only [Task.wakesAt, hp, Option.some.injEq] at ha
    rwa [← ha]
  · simp [Task.wakesAt, hp] at ha

theorem inPlace_moveTo (h : InPlace w s) (looks : Nat) (time : Instant) :
    InPlace w (s.moveTo w looks time) := by
  intro i t ht hl
  obtain ⟨hfresh, hcall | ⟨hc, hplace⟩⟩ := h i t ht hl
  · exact ⟨hfresh, .inl (called_wake.mpr (.inl hcall))⟩
  by_cases hdue : ∃ a ∈ t.alarms w, s.now < a ∧ a ≤ time
  · obtain ⟨a, ha, hlt, hle⟩ := hdue
    exact ⟨hfresh, .inl (called_moveTo ht ha hlt hle)⟩
  · refine ⟨hfresh, .inr ⟨hc, hplace.imp_right (Or.imp_right fun hr => ?_)⟩⟩
    refine hr.moveTo (fun a ha hle => hdue ⟨a, ?_, hr.deadline a ha, hle⟩)
      fun a ha hle => hdue ⟨a, ?_, hr.wakes ha, hle⟩ <;>
    simp [Task.alarms, hl, ha]

/-- Whoever is granted a pass is called, and the others keep their places. -/
theorem called_or_keepsLines_releaseGate (name : String) (n : Nat)
    (s : Pool World Work Job Result) (i : Nat) :
    (s.releaseGate name n).Called i ∨ KeepsLines i s (s.releaseGate name n) := by
  by_cases hi : i ∈ ((s.gate name).release n).2
  · exact .inl (called_call.mpr (.inr hi))
  · refine .inr (.trans (.setGate fun hl => ?_) (.of_gates rfl))
    exact ⟨(Turnstile.mem_queue_release hl.queue).resolve_right hi,
      fun hg => (Turnstile.mem_granted_release.mp hg).elim hl.granted hi⟩

/-- **One step of a pool** leaves all tasks in place. -/
theorem InPlace.step (h : InPlace w s) (hstep : Step w s s') : InPlace w s' := by
  have hfresh : ∀ (i : Nat) (t : Task Work Job Result), s.tasks[i]? = some t →
      t.phase = .queued → t.startedAt = none := by
    intro i t ht hq
    refine (h i t ht ?_).fresh hq
    rw [← Task.isLive_phase, hq]
    rfl
  cases hstep with
  | spawn work =>
    intro i t ht hl
    change (s.tasks ++ [Task.new work])[i]? = some t at ht
    rw [List.getElem?_append] at ht
    split_ifs at ht with hn
    · exact (h i t ht hl).mono rfl rfl (fun _ => .of_gates rfl) fun hc =>
        called_call.mpr (.inl hc)
    · obtain ⟨hlt, rfl⟩ := List.getElem?_eq_some_iff.mp ht
      rw [List.length_singleton] at hlt
      have hlast : i = s.tasks.length := by omega
      refine ⟨fun _ => ?_, .inl (called_call.mpr (.inr (List.mem_singleton.mpr hlast)))⟩
      rw [List.getElem_singleton]
      rfl
  | touch | close =>
    exact fun i t ht hl => (h i t ht hl).mono rfl rfl (fun _ => .of_gates rfl) fun hc => hc
  | look id => exact inPlace_poll (fun i t _ => h i t) (hfresh id)
  | job n =>
    unfold runJobAt
    split
    · exact inPlace_runJob h _ _ _
    · exact h
  | turn => exact inPlace_turn h
  | tick => exact inPlace_moveTo h _ _
  | release name n =>
    intro i t ht hl
    have hp := h i t ht hl
    obtain hc | hk := called_or_keepsLines_releaseGate name n s i
    · exact ⟨hp.fresh, .inl hc⟩
    · exact hp.mono rfl rfl (fun _ => hk) fun hc => called_call.mpr (.inl hc)
  | cancel =>
    intro i t ht hl
    have hlive : i ∈ s.live := by
      refine mem_live.mpr ⟨t.work, t.phase, getElem?_stages ht, ?_⟩
      rwa [Task.isLive_phase]
    exact ⟨hfresh i t ht, .inl (called_wake.mpr (.inr hlive))⟩
  | lock =>
    exact fun i t ht hl => (h i t ht hl).mono rfl s.teardown.cancels_lock
      (fun _ => .of_gates rfl) fun hc => hc

theorem inPlace_steps (h : Steps w s s') (hs : InPlace w s) : InPlace w s' := by
  induction h with
  | refl => exact hs
  | tail _ h ih => exact ih.step h

theorem inPlace_withLimit (w : Workload World Work Job Result) (limit : Nat) (world : World) :
    InPlace w (withLimit limit world) := fun i t ht => by simp [withLimit] at ht

/-- **In an idle pool** a task that has started and not ended rests. -/
theorem rests_of_idle (h : InPlace w s) (hj : JobsSound s) (hidle : s.idle = true)
    (ht : s.tasks[i]? = some t) (hl : t.isLive = true) (hb : t.startedAt ≠ none) :
    s.cancelled = false ∧ Rests w s i t := by
  obtain ⟨hq, hjobs⟩ := idle_iff.mp hidle
  obtain ⟨hfresh, hcall | ⟨hc, hplace⟩⟩ := h i t ht hl
  · exact absurd hcall (not_called hq i)
  · refine ⟨hc, (hplace.resolve_left fun hp => hb (hfresh hp)).resolve_left fun hp => ?_⟩
    have hst := getElem?_stages ht
    rw [hp] at hst
    have hm := hj.pending hst
    rw [hjobs] at hm
    exact List.not_mem_nil hm

end ArtifactFetch.Pool
