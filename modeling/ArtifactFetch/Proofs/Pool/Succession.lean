import ArtifactFetch.Proofs.Pool.Resting

/-! # The order in which tasks get their slots

Tasks get their slots in the order in which they were accepted. For this it matters which tasks are
in line, where they stand in the two queues, the slots, and which tasks have started: the `Front` of
a pool. The tasks that have started or were granted a slot are just the first ones, and those behind
them stand at the slots or have not been looked at yet, in order (`Front.InTurn`). So a slot that
becomes free is for the first of these, and a task that comes to a free slot finds none of them
before it.

Who was granted a slot is ready, and starts when it is looked at. Only a task that was called from
outside can come before it, if the runtime takes it first and there is another slot for it. A pool
in which this was never done is `calm`, and its tasks also start in order.

Of what a pool does in one of its turns, only three things change the front: a slot is given back
(`InTurn.release`), the next task starts (`InTurn.start`), or a task finds no slot and lines up
(`InTurn.lineUp`). Tasks in line are called in no other way, since nobody in line stands at a gate
or has an alarm (`Ordered`). -/

namespace ArtifactFetch

/-- The task that has started, if one has. -/
def Milestone.started? : Milestone → Option Nat
  | .started id => some id
  | .finished _ => none

/-- What the order of slots and starts depends on. -/
structure Front where
  /-- For every task, whether it is in line. -/
  line : List Bool
  /-- The tasks in line that are ready. -/
  ready : List Nat
  /-- The tasks in line that were called from outside. -/
  called : List Nat
  slots : Turnstile
  /-- The tasks that have started, in the order of time. -/
  begun : List Nat
  /-- No task that was called from outside went before a ready one. -/
  calm : Prop

namespace Front

/-- The tasks that have got a slot: those that have started, and those that were granted one. -/
def served (f : Front) : List Nat := f.begun ++ f.slots.granted

/-- **The tasks are in turn**: the first ones have got a slot, those that were granted one are in
order, and behind them the others are in line in order, those that stand at the slots before those
that were not looked at yet. -/
structure InTurn (f : Front) : Prop where
  served : f.served.Perm (List.range f.served.length)
  /-- In a calm pool those that have got a slot are in order. -/
  calm : f.calm → f.served = List.range f.served.length
  granted : f.slots.granted.Pairwise (· < ·)
  bound : f.served.length ≤ f.line.length
  line : ∀ i, f.line[i]? = some true ↔ i < f.line.length ∧ i ∉ f.begun
  order : f.slots.queue ++ f.called =
    List.range' f.served.length (f.line.length - f.served.length)
  /-- Who was granted a slot is ready. -/
  ready : f.ready = f.slots.granted
  sound : f.slots.Sound

/-- The first task is taken out of two queues: out of the second, in a calm pool, only if the first
is empty. -/
inductive Taken (id : Nat) (calm : Prop) : List Nat → List Nat → List Nat → List Nat → Prop
  | ready (ready called : List Nat) : Taken id calm (id :: ready) called ready called
  | called {ready : List Nat} (called : List Nat) (h : calm → ready = []) :
    Taken id calm ready (id :: called) ready called

namespace InTurn

variable {f : Front} {id i : Nat} {calm : Prop} {ready called : List Nat} {slots : Turnstile}

theorem mem_served (h : f.InTurn) : i ∈ f.served ↔ i < f.served.length := by
  rw [h.served.mem_iff, List.mem_range]

theorem mem_order (h : f.InTurn) :
    i ∈ f.slots.queue ++ f.called ↔ f.served.length ≤ i ∧ i < f.line.length := by
  have hbound := h.bound
  rw [h.order, List.mem_range'_1]
  omega

theorem lt_of_granted (h : f.InTurn) (hi : i ∈ f.slots.granted) : i < f.served.length :=
  h.mem_served.mp (List.mem_append_right _ hi)

theorem lt_of_begun (h : f.InTurn) (hi : i ∈ f.begun) : i < f.served.length :=
  h.mem_served.mp (List.mem_append_left _ hi)

/-- Who was called from outside was not granted a slot. -/
theorem not_granted (h : f.InTurn) (hi : i ∈ f.called) : i ∉ f.slots.granted := fun hg => by
  have hlo := (h.mem_order.mp (List.mem_append_right _ hi)).1
  exact Nat.not_lt.mpr hlo (h.lt_of_granted hg)

theorem nodup (h : f.InTurn) : (f.slots.queue ++ f.called).Nodup := by
  rw [h.order]
  exact List.nodup_range'

/-- The first of those that have got no slot yet. -/
theorem head_order (h : f.InTurn) {rest : List Nat} (hf : f.slots.queue ++ f.called = id :: rest) :
    f.served.length = id ∧ id < f.line.length ∧
      rest = List.range' (id + 1) (f.line.length - (id + 1)) := by
  have hhead : id ∈ f.slots.queue ++ f.called := by
    rw [hf]
    exact List.mem_cons_self
  obtain ⟨hlo, hlt⟩ := h.mem_order.mp hhead
  have hlen : f.line.length - f.served.length = f.line.length - (f.served.length + 1) + 1 := by
    omega
  have horder := h.order
  rw [hf, hlen, List.range'_succ] at horder
  obtain ⟨rfl, hrest⟩ := List.cons.inj horder
  exact ⟨rfl, hlt, hrest⟩

/-- The first of those that have got no slot gets one: the tasks that have got one are again the
first ones. -/
theorem served_next (h : f.InTurn) (hn : f.served.length = id) {served : List Nat}
    (hs : served.Perm (f.served ++ [id])) :
    served.length = id + 1 ∧ served.Perm (List.range served.length) := by
  have hlen : served.length = id + 1 := by
    rw [hs.length_eq, List.length_append, List.length_singleton, hn]
  have hserved := h.served
  rw [hn] at hserved
  refine ⟨hlen, ?_⟩
  rw [hlen, List.range_succ]
  exact hs.trans (hserved.append_right [id])

/-- A pool that is less calm is in turn as well. -/
theorem of_calm (h : f.InTurn) (hcalm : calm → f.calm) : InTurn { f with calm := calm } :=
  { h with calm := fun hk => h.calm (hcalm hk) }

/-- A slot is given back, and the first who stands at the slots is granted it. -/
theorem release (h : f.InTurn) : InTurn { f with
    slots := (f.slots.release 1).1
    ready := f.ready ++ (f.slots.release 1).2 } := by
  have hsound := h.sound.release 1
  rcases hq : f.slots.queue with _ | ⟨id, queue⟩
  · have hkept : f.slots.release 1 = ({ f.slots with free := f.slots.free + 1 }, []) := by
      simp [Turnstile.release, hq]
    rw [hkept] at hsound ⊢
    have hready : f.ready ++ [] = f.slots.granted := by rw [List.append_nil, h.ready]
    exact ⟨h.served, h.calm, h.granted, h.bound, h.line, h.order, hready, hsound⟩
  · have hfirst : f.slots.queue ++ f.called = id :: (queue ++ f.called) := by rw [hq]; rfl
    obtain ⟨hn, hlt, hrest⟩ := h.head_order hfirst
    have hgiven : f.slots.release 1 =
        ({ f.slots with queue := queue, granted := f.slots.granted ++ [id] }, [id]) := by
      simp [Turnstile.release, hq]
    rw [hgiven] at hsound ⊢
    have hready : f.ready ++ [id] = f.slots.granted ++ [id] := by rw [h.ready]
    have hserved : f.begun ++ (f.slots.granted ++ [id]) = f.served ++ [id] :=
      (List.append_assoc _ _ _).symm
    have hperm : (f.begun ++ (f.slots.granted ++ [id])).Perm (f.served ++ [id]) := .of_eq hserved
    obtain ⟨hlen, hnext⟩ := h.served_next hn hperm
    refine ⟨hnext, fun hc => ?_, ?_, ?_, h.line, ?_, hready, hsound⟩
    · show f.begun ++ (f.slots.granted ++ [id]) =
        List.range (f.begun ++ (f.slots.granted ++ [id])).length
      rw [hlen, hserved, h.calm hc, hn, List.range_succ]
    · refine List.pairwise_append.mpr ⟨h.granted, List.pairwise_singleton _ _, fun i hi j hj => ?_⟩
      rw [List.mem_singleton.mp hj, ← hn]
      exact h.lt_of_granted hi
    · show (f.begun ++ (f.slots.granted ++ [id])).length ≤ f.line.length
      rw [hlen]
      exact hlt
    · show queue ++ f.called = List.range' (f.begun ++ (f.slots.granted ++ [id])).length
        (f.line.length - (f.begun ++ (f.slots.granted ++ [id])).length)
      rw [hlen]
      exact hrest

/-- Who gets a slot was granted it and is the first who was, or is the first of those that were not,
and then nobody stands at the slots. -/
theorem first (h : f.InTurn) (hn : Taken id calm f.ready f.called ready called)
    (he : f.slots.enter id = (slots, true)) :
    (f.slots.granted = id :: ready ∧ called = f.called ∧
      slots = { f.slots with granted := ready }) ∨
    (ready = f.slots.granted ∧ f.called = id :: called ∧ f.slots.queue = [] ∧
      slots = { f.slots with free := f.slots.free - 1 } ∧ (calm → f.slots.granted = [])) := by
  generalize hr : f.ready = r, hc : f.called = c at hn
  cases hn with
  | ready =>
    have hg : f.slots.granted = id :: ready := h.ready.symm.trans hr
    refine .inl ⟨hg, rfl, ?_⟩
    obtain ⟨-, rfl⟩ | ⟨hnot, -⟩ := Turnstile.enter_true he
    · rw [hg, List.erase_cons_head]
    · rw [hg] at hnot
      exact absurd List.mem_cons_self hnot
  | called _ hcalm =>
    have hmem : id ∈ f.called := by
      rw [hc]
      exact List.mem_cons_self
    obtain ⟨hgranted, -⟩ | ⟨-, -, hfree, rfl⟩ := Turnstile.enter_true he
    · exact absurd hgranted (h.not_granted hmem)
    · have hqueue : f.slots.queue = [] := by
        by_contra hq
        exact absurd (h.sound.full hq) (Nat.pos_iff_ne_zero.mp hfree)
      have hready := h.ready
      rw [hr] at hready
      exact .inr ⟨hready, rfl, hqueue, rfl, fun hk => hready.symm.trans (hcalm hk)⟩

/-- **Who starts next** is the first of all that have not started, or it comes before tasks that
were granted a slot, in a pool that is not calm. -/
theorem next (h : f.InTurn) (hn : Taken id calm f.ready f.called ready called)
    (he : f.slots.enter id = (slots, true)) (hi : i < id) :
    i ∈ f.begun ∨ i ∈ f.slots.granted ∧ ¬ calm := by
  obtain ⟨hg, -, -⟩ | ⟨-, hc, hq, -, hcalm⟩ := h.first hn he
  · have hid : id < f.served.length := h.lt_of_granted (by rw [hg]; exact List.mem_cons_self)
    have hserved := h.mem_served.mpr (Nat.lt_trans hi hid)
    refine (List.mem_append.mp hserved).imp_right fun hgi => ?_
    have hsorted := h.granted
    rw [hg] at hgi hsorted
    obtain rfl | hlater := List.mem_cons.mp hgi
    · exact absurd hi (Nat.lt_irrefl _)
    · exact absurd (List.rel_of_pairwise_cons hsorted hlater) (Nat.lt_asymm hi)
  · have hfirst : f.slots.queue ++ f.called = id :: called := by rw [hq, hc]; rfl
    have hserved : i ∈ f.served := h.mem_served.mpr (by rwa [(h.head_order hfirst).1])
    refine (List.mem_append.mp hserved).imp_right fun hgi => ⟨hgi, fun hk => ?_⟩
    rw [hcalm hk] at hgi
    cases hgi

/-- Who gets a slot is called but once. -/
theorem not_mem (h : f.InTurn) (hn : Taken id calm f.ready f.called ready called)
    (he : f.slots.enter id = (slots, true)) : id ∉ ready ∧ id ∉ called := by
  obtain ⟨hg, rfl, -⟩ | ⟨rfl, hc, -⟩ := h.first hn he
  · have hmem : id ∈ f.slots.granted := by
      rw [hg]
      exact List.mem_cons_self
    have hsorted := h.granted
    rw [hg] at hsorted
    refine ⟨fun hm => Nat.lt_irrefl _ (List.rel_of_pairwise_cons hsorted hm), fun hm => ?_⟩
    exact h.not_granted hm hmem
  · have hnodup := (List.nodup_append'.mp h.nodup).2.1
    rw [hc] at hnodup
    refine ⟨fun hm => h.not_granted ?_ hm, (List.nodup_cons.mp hnodup).1⟩
    rw [hc]
    exact List.mem_cons_self

/-- A task that starts leaves the line. -/
theorem line_set (h : f.InTurn) (i : Nat) :
    (f.line.set id false)[i]? = some true ↔
      i < (f.line.set id false).length ∧ i ∉ f.begun ++ [id] := by
  rw [List.length_set, List.getElem?_set, List.mem_append, List.mem_singleton, not_or]
  by_cases hi : id = i
  · simp [hi]
  · rw [if_neg hi, h.line]
    exact ⟨fun hb => ⟨hb.1, hb.2, Ne.symm hi⟩, fun hb => ⟨hb.1, hb.2.1⟩⟩

/-- The next task starts. -/
theorem start (h : f.InTurn) (hn : Taken id calm f.ready f.called ready called)
    (hcalm : calm → f.calm) (he : f.slots.enter id = (slots, true)) :
    InTurn ⟨f.line.set id false, ready, called, slots, f.begun ++ [id], calm⟩ := by
  have hsound := h.sound.enter_true he
  obtain ⟨hg, rfl, rfl⟩ | ⟨rfl, hc, hq, rfl, hnone⟩ := h.first hn he
  · -- it was among those that have got a slot
    have hserved : f.begun ++ [id] ++ ready = f.served := by
      rw [Front.served, hg, List.append_assoc]
      rfl
    have hsorted := h.granted
    rw [hg] at hsorted
    refine ⟨?_, fun hk => ?_, hsorted.of_cons, ?_, h.line_set, ?_, rfl, hsound⟩
    · show (f.begun ++ [id] ++ ready).Perm (List.range (f.begun ++ [id] ++ ready).length)
      rw [hserved]
      exact h.served
    · show f.begun ++ [id] ++ ready = List.range (f.begun ++ [id] ++ ready).length
      rw [hserved]
      exact h.calm (hcalm hk)
    · show (f.begun ++ [id] ++ ready).length ≤ (f.line.set id false).length
      rw [hserved, List.length_set]
      exact h.bound
    · show f.slots.queue ++ f.called = List.range' (f.begun ++ [id] ++ ready).length
        ((f.line.set id false).length - (f.begun ++ [id] ++ ready).length)
      rw [hserved, List.length_set]
      exact h.order
  · -- it is the first behind them
    have hfirst : f.slots.queue ++ f.called = id :: called := by rw [hq, hc]; rfl
    obtain ⟨hn, hlt, hrest⟩ := h.head_order hfirst
    have hperm : (f.begun ++ [id] ++ f.slots.granted).Perm (f.served ++ [id]) := by
      rw [Front.served, List.append_assoc, List.append_assoc]
      exact List.perm_append_comm.append_left f.begun
    obtain ⟨hlen, hnext⟩ := h.served_next hn hperm
    refine ⟨hnext, fun hk => ?_, h.granted, ?_, h.line_set, ?_, rfl, hsound⟩
    · show f.begun ++ [id] ++ f.slots.granted =
        List.range (f.begun ++ [id] ++ f.slots.granted).length
      have hbegun : f.begun = f.served := by rw [Front.served, hnone hk, List.append_nil]
      rw [hlen, hnone hk, List.append_nil, hbegun, h.calm (hcalm hk), hn, List.range_succ]
    · show (f.begun ++ [id] ++ f.slots.granted).length ≤ (f.line.set id false).length
      rw [hlen, List.length_set]
      exact hlt
    · show f.slots.queue ++ called = List.range' (f.begun ++ [id] ++ f.slots.granted).length
        ((f.line.set id false).length - (f.begun ++ [id] ++ f.slots.granted).length)
      rw [hlen, List.length_set, hq]
      exact hrest

/-- The next task finds no slot. -/
theorem lineUp (h : f.InTurn) (hn : Taken id calm f.ready f.called ready called)
    (hcalm : calm → f.calm) (he : f.slots.enter id = (slots, false)) :
    InTurn { f with ready := ready, called := called, slots := slots, calm := calm } := by
  obtain ⟨hnot, hcase⟩ := Turnstile.enter_false he
  have hsound := h.sound.enter_false he
  generalize hr : f.ready = r, hc : f.called = c at hn
  cases hn with
  | ready =>
    rw [← h.ready, hr] at hnot
    exact absurd List.mem_cons_self hnot
  | called =>
    have hready := h.ready
    rw [hr] at hready
    obtain ⟨hmem, -⟩ | ⟨-, -, rfl⟩ := hcase
    · -- who has not been looked at does not stand at the slots
      have hdup := h.nodup
      rw [hc, List.nodup_append'] at hdup
      exact absurd List.mem_cons_self (hdup.2.2 hmem)
    · have horder := h.order
      refine ⟨h.served, fun hk => h.calm (hcalm hk), h.granted, h.bound, h.line, ?_, hready, hsound⟩
      rw [hc] at horder
      show f.slots.queue ++ [id] ++ called = _
      rw [List.append_assoc]
      exact horder

/-- A new task is called behind all others. -/
theorem accept (h : f.InTurn) : InTurn { f with
    line := f.line ++ [true]
    called := f.called ++ [f.line.length] } := by
  have hbound := h.bound
  refine ⟨h.served, h.calm, h.granted, ?_, fun i => ?_, ?_, h.ready, h.sound⟩
  · rw [List.length_append, List.length_singleton]
    exact Nat.le_succ_of_le hbound
  · have hline := h.line i
    have hnew : f.line.length ∉ f.begun := fun hm =>
      Nat.not_lt.mpr hbound (h.lt_of_begun hm)
    show (f.line ++ [true])[i]? = some true ↔ i < (f.line ++ [true]).length ∧ i ∉ f.begun
    rw [List.length_append, List.length_singleton, List.getElem?_append]
    split_ifs with hi
    · rw [hline]
      exact and_congr_left' ⟨fun _ => by omega, fun _ => hi⟩
    · rw [List.getElem?_singleton]
      split_ifs with hz
      · obtain rfl : i = f.line.length := by omega
        simp [hnew]
      · simp only [false_iff, not_and]
        omega
  · show f.slots.queue ++ (f.called ++ [f.line.length]) =
      List.range' f.served.length ((f.line ++ [true]).length - f.served.length)
    rw [← List.append_assoc, h.order, List.length_append, List.length_singleton,
      Nat.sub_add_comm hbound, List.range'_concat]
    congr 2
    omega

end InTurn

end Front

namespace Turnstile

variable {t t' : Turnstile} {id i : Nat} {b : Bool}

/-- Who tries to walk through may stand there afterwards, and nobody else who did not before. -/
theorem holds_of_enter (h : t.enter id = (t', b)) (hi : t'.Holds i) : t.Holds i ∨ i = id := by
  cases b with
  | true =>
    obtain ⟨-, rfl⟩ | ⟨-, -, -, rfl⟩ := enter_true h
    · exact .inl (hi.imp_right List.mem_of_mem_erase)
    · exact .inl hi
  | false => exact (holds_enter_false h).mp hi

theorem holds_of_leave (hi : (t.leave id).1.Holds i) : t.Holds i := by
  by_cases hg : id ∈ t.granted
  · rw [leave_of_granted hg, holds_release] at hi
    exact hi.imp_right List.mem_of_mem_erase
  · rw [leave_of_not_granted hg] at hi
    exact hi.imp_left List.mem_of_mem_erase

end Turnstile

namespace Pool

variable {World Work Job Result : Type} {w : Workload World Work Job Result}
  {s s' : Pool World Work Job Result} {id i : Nat} {t : Task Work Job Result}

/-! ### The front of a pool -/

/-- For every task, whether it is in line. -/
def line (s : Pool World Work Job Result) : List Bool := s.places.map (· == .line)

/-- The tasks that have started, in the order of time. -/
def begun (s : Pool World Work Job Result) : List Nat := s.history.filterMap Milestone.started?

/-- Those of some tasks that are in line. -/
def among (l : List Bool) (ids : List Nat) : List Nat :=
  ids.filter fun i => l[i]? == some true

/-- What the order of slots and starts depends on. -/
def front (s : Pool World Work Job Result) : Front where
  line := s.line
  ready := among s.line s.ready
  called := among s.line s.called
  slots := s.slots
  begun := s.begun
  calm := true ∉ s.contests

theorem mem_among {l : List Bool} {ids : List Nat} :
    i ∈ among l ids ↔ i ∈ ids ∧ l[i]? = some true := by
  simp [among]

theorem among_append (l : List Bool) (ids ids' : List Nat) :
    among l (ids ++ ids') = among l ids ++ among l ids' := by
  unfold among
  exact List.filter_append _ _

/-- Of tasks that are not in line, none is. -/
theorem among_filter_eq_nil {l : List Bool} {ids : List Nat} (h : ∀ i ∈ ids, l[i]? = some false)
    (p : Nat → Bool) : among l (ids.filter p) = [] := by
  refine List.filter_eq_nil_iff.mpr fun i hi => ?_
  rw [h i (List.mem_of_mem_filter hi)]
  decide

theorem among_cons_of_line {l : List Bool} (h : l[id]? = some true) (ids : List Nat) :
    among l (id :: ids) = id :: among l ids :=
  List.filter_cons_of_pos (by rw [h]; rfl)

theorem among_cons_of_ne {l : List Bool} (h : l[id]? ≠ some true) (ids : List Nat) :
    among l (id :: ids) = among l ids :=
  List.filter_cons_of_neg (by simpa using h)

/-- A task that leaves the line and is not among the tasks. -/
theorem among_set {l : List Bool} {ids : List Nat} (h : id ∉ among l ids) :
    among (l.set id false) ids = among l ids := by
  refine List.filter_congr fun i hi => ?_
  by_cases hid : id = i
  · subst hid
    have hnot : l[id]? ≠ some true := fun hl => h (mem_among.mpr ⟨hi, hl⟩)
    rw [List.getElem?_set, if_pos rfl]
    split_ifs <;> simpa using hnot
  · rw [List.getElem?_set_ne hid]

/-- A new task is not among those there were. -/
theorem among_concat {l : List Bool} {ids : List Nat} (h : ∀ i ∈ ids, i < l.length) :
    among (l ++ [true]) ids = among l ids :=
  List.filter_congr fun i hi => by rw [List.getElem?_append_left (h i hi)]

theorem length_line (s : Pool World Work Job Result) : s.line.length = s.tasks.length := by
  rw [line, List.length_map, length_places]

theorem line_of_task (ht : s.tasks[id]? = some t) :
    s.line[id]? = some (t.phase.place == .line) := by
  rw [line, List.getElem?_map, place_of_task ht]
  rfl

theorem task_of_line {b : Bool} (h : s.line[id]? = some b) :
    ∃ t, s.tasks[id]? = some t ∧ (t.phase.place == .line) = b := by
  rw [line, List.getElem?_map, Option.map_eq_some_iff] at h
  obtain ⟨p, hp, hb⟩ := h
  obtain ⟨t, ht, rfl⟩ := task_of_place hp
  exact ⟨t, ht, hb⟩

theorem line_setPhase (ht : s.tasks[id]? = some t) (hp : t.phase.place ≠ .line)
    {ph : Phase Job Result} (hph : ph.place ≠ .line) : (s.setPhase id ph).line = s.line := by
  have hold : s.line[id]? = some (ph.place == .line) := by
    rw [line_of_task ht, beq_eq_false_iff_ne.mpr hp, beq_eq_false_iff_ne.mpr hph]
  rw [line, places_set (stages_setPhase ht ph), List.map_set]
  exact set_of_getElem? hold

theorem begun_finished (id : Nat) (s : Pool World Work Job Result) :
    (s.record (.finished id)).begun = s.begun := by
  simp [begun, record, Milestone.started?]

theorem begun_started (id : Nat) (s : Pool World Work Job Result) :
    (s.record (.started id)).begun = s.begun ++ [id] := by
  simp [begun, record, Milestone.started?]

/-! ### Tasks in order -/

/-- **The tasks of a pool are in order**: they are in turn, nobody in line stands at a gate, and who
is called is a task. -/
structure Ordered (s : Pool World Work Job Result) : Prop where
  front : s.front.InTurn
  gates : ∀ name i, (s.gate name).Holds i → s.line[i]? = some false
  known : ∀ i, s.Called i → i < s.line.length

namespace Ordered

/-- What leaves front, gates and queues alone leaves the tasks in order. -/
theorem congr (h : s.Ordered) (hl : s'.line = s.line) (hr : s'.ready = s.ready)
    (hc : s'.called = s.called) (hs : s'.slots = s.slots) (hb : s'.begun = s.begun)
    (hg : s'.gates = s.gates) (ht : s'.contests = s.contests) : s'.Ordered where
  front := by
    have hf : s'.front = s.front := by
      unfold Pool.front
      rw [hl, hr, hc, hs, hb, ht]
    rw [hf]
    exact h.front
  gates name i hi := by
    have hgate : s'.gate name = s.gate name := by
      unfold gate
      rw [hg]
    rw [hgate] at hi
    rw [hl]
    exact h.gates name i hi
  known i hi := by
    rw [hl]
    refine h.known i ?_
    unfold Called at hi ⊢
    rwa [hr, hc] at hi

theorem setPhase (h : s.Ordered) (ht : s.tasks[id]? = some t) (hp : t.phase.place ≠ .line)
    {ph : Phase Job Result} (hph : ph.place ≠ .line) : (s.setPhase id ph).Ordered :=
  h.congr (line_setPhase ht hp hph) rfl rfl rfl rfl rfl rfl

/-- At a gate of which the same is to be said. -/
theorem setGate (h : s.Ordered) (name : String) {g : Turnstile}
    (hg : ∀ i, g.Holds i → s.line[i]? = some false) : (s.setGate name g).Ordered where
  front := h.front
  gates name' i hi := by
    rw [gate_setGate] at hi
    split_ifs at hi
    · exact hg i hi
    · exact h.gates name' i hi
  known := h.known

/-- Tasks are woken that are not in line. -/
theorem wake (h : s.Ordered) {ids : List Nat} (hids : ∀ i ∈ ids, s.line[i]? = some false) :
    (s.wake ids).Ordered where
  front := by
    have hnone := among_filter_eq_nil hids (!s.isQueued ·)
    have hf : (s.wake ids).front = s.front := by
      show (⟨s.line, among s.line (s.ready ++ _), _, _, _, _⟩ : Front) = _
      rw [among_append, hnone, List.append_nil]
      rfl
    rw [hf]
    exact h.front
  gates := h.gates
  known i hi := by
    refine (called_wake.mp hi).elim (h.known i) fun hm => ?_
    exact (List.getElem?_eq_some_iff.mp (hids i hm)).1

/-- Tasks are called that are not in line. -/
theorem call (h : s.Ordered) {ids : List Nat} (hids : ∀ i ∈ ids, s.line[i]? = some false) :
    (s.call ids).Ordered where
  front := by
    have hnone := among_filter_eq_nil hids (!s.isQueued ·)
    have hf : (s.call ids).front = s.front := by
      show (⟨s.line, _, among s.line (s.called ++ _), _, _, _⟩ : Front) = _
      rw [among_append, hnone, List.append_nil]
      rfl
    rw [hf]
    exact h.front
  gates := h.gates
  known i hi := by
    refine (called_call.mp hi).elim (h.known i) fun hm => ?_
    exact (List.getElem?_eq_some_iff.mp (hids i hm)).1

/-- Who stands at the slots is in line and to be looked at in neither queue. -/
theorem of_queue (h : s.Ordered) (hq : i ∈ s.slots.queue) :
    s.line[i]? = some true ∧ ¬ s.Called i := by
  obtain ⟨hlo, hlt⟩ := h.front.mem_order.mp (List.mem_append_left _ hq)
  have hnot : i ∉ s.front.served := fun hm => Nat.not_lt.mpr hlo (h.front.mem_served.mp hm)
  have hline : s.line[i]? = some true :=
    (h.front.line i).mpr ⟨hlt, fun hm => hnot (List.mem_append_left _ hm)⟩
  refine ⟨hline, fun hcalled => ?_⟩
  rcases hcalled with hc | hc
  · have hready : i ∈ s.front.ready := mem_among.mpr ⟨hc, hline⟩
    rw [h.front.ready] at hready
    exact hnot (List.mem_append_right _ hready)
  · exact (List.nodup_append'.mp h.front.nodup).2.2 hq (mem_among.mpr ⟨hc, hline⟩)

theorem releaseSlot (h : s.Ordered) : s.releaseSlot.Ordered where
  front := by
    have hserved : ∀ i ∈ (s.slots.release 1).2, s.line[i]? = some true ∧ ¬ s.Called i :=
      fun i hi => h.of_queue (List.mem_of_mem_take hi)
    have hwoken : (s.slots.release 1).2.filter (!s.isQueued ·) = (s.slots.release 1).2 := by
      refine List.filter_eq_self.mpr fun i hi => ?_
      have hnot := (hserved i hi).2
      rw [← isQueued_iff] at hnot
      simpa using hnot
    have hline : among s.line (s.slots.release 1).2 = (s.slots.release 1).2 :=
      List.filter_eq_self.mpr fun i hi => by rw [(hserved i hi).1]; rfl
    have hf : s.releaseSlot.front = { s.front with
        slots := (s.slots.release 1).1, ready := s.front.ready ++ (s.slots.release 1).2 } := by
      show (⟨_, among s.line (s.ready ++ (s.slots.release 1).2.filter (!s.isQueued ·)),
        _, _, _, _⟩ : Front) = _
      rw [hwoken, among_append, hline]
      rfl
    rw [hf]
    exact h.front.release
  gates := h.gates
  known i hi := by
    refine (called_wake.mp hi).elim (h.known i) fun hm => ?_
    have hline := (h.of_queue (List.mem_of_mem_take hm)).1
    exact (List.getElem?_eq_some_iff.mp hline).1

/-- Nobody in line is woken when a task leaves a gate. -/
theorem leaveGate (h : s.Ordered) (name : String) (id : Nat) : (s.leaveGate name id).Ordered := by
  have hwoken : ∀ i ∈ ((s.gate name).leave id).2, s.line[i]? = some false := fun i hi =>
    h.gates name i (.inl (Turnstile.mem_of_leave hi).2)
  exact (h.setGate name fun i hi => h.gates name i (Turnstile.holds_of_leave hi)).wake hwoken

/-! ### Looking at a task that is not in line -/

theorem letGo (h : s.Ordered) (id : Nat) {ph : Phase Job Result} (hp : ph.place ≠ .line) :
    (s.letGo id ph).Ordered := by
  unfold Pool.letGo
  split
  · exact h
  · exact absurd rfl hp
  · exact (h.leaveGate _ _).releaseSlot
  · exact h.releaseSlot

theorem finish (h : s.Ordered) (ht : s.tasks[id]? = some t) (hp : t.phase.place ≠ .line)
    (r : Result) : (s.finish w id r).Ordered := by
  rw [finish_eq ht]
  have hworld : Ordered { s with world := w.leave id t.work s.world } :=
    h.congr rfl rfl rfl rfl rfl rfl rfl
  exact (hworld.setPhase ht hp (by simp [Phase.place])).letGo id hp

theorem stay (h : s.Ordered) (ht : s.tasks[id]? = some t) (hp : t.phase.place ≠ .line) :
    (s.stay w id).Ordered := by
  unfold Pool.stay
  rw [ht]
  dsimp only
  split_ifs
  · exact h.finish ht hp _
  · have hline : (s.modifyTask id fun t => { t with noticed := true }).line = s.line :=
      congrArg (fun l => List.map _ (List.map _ l)) (stages_notice id s)
    exact h.congr hline rfl rfl rfl rfl rfl rfl
  · exact h

/-- **Coming through its waits**, a task leaves the others in order. -/
theorem walk : ∀ (waits : List Wait) {e : Ending Job Result} {s : Pool World Work Job Result}
    {t : Task Work Job Result}, s.Ordered → s.tasks[id]? = some t → t.phase.place ≠ .line →
      (s.walk w id waits e).Ordered
  | [], .done r, s, t, h, ht, hp => by
    have hrecord : (s.record (.finished id)).Ordered :=
      h.congr rfl rfl rfl rfl (begun_finished id s) rfl rfl
    exact hrecord.finish ht hp r
  | [], .job j, s, t, h, ht, hp => by
    have hover : ((s.record (.finished id)).handOver id j).Ordered :=
      h.congr (line_setPhase (s := s.record (.finished id)) ht hp (by simp [Phase.place])) rfl rfl
        rfl (begun_finished id s) rfl rfl
    rw [walk_job]
    exact hover.stay (getElem?_tasks_setPhase (s := s.record (.finished id)) ht .inJob)
      (by simp [Phase.place])
  | .gate name :: waits, e, s, t, h, ht, hp => by
    have hline : s.line[id]? = some false := by
      rw [line_of_task ht, beq_eq_false_iff_ne.mpr hp]
    unfold Pool.walk
    rcases he : (s.gate name).enter id with ⟨g, b⟩
    have hgate : (s.setGate name g).Ordered := h.setGate name fun i hi => by
      obtain hold | rfl := Turnstile.holds_of_enter he hi
      · exact h.gates name i hold
      · exact hline
    cases b with
    | false =>
      exact (hgate.setPhase ht hp (by simp [Phase.place])).stay
        (getElem?_tasks_setPhase (s := s.setGate name g) ht _) (by simp [Phase.place])
    | true =>
      exact walk waits (hgate.setPhase ht hp (by simp [Phase.place]))
        (getElem?_tasks_setPhase (s := s.setGate name g) ht _) (by simp [Phase.place])
  | .sleep d :: waits, e, s, t, h, ht, hp => by
    unfold Pool.walk
    split_ifs
    · exact walk waits (h.setPhase ht hp (by simp [Phase.place])) (getElem?_tasks_setPhase ht _)
        (by simp [Phase.place])
    · exact (h.setPhase ht hp (by simp [Phase.place])).stay (getElem?_tasks_setPhase ht _)
        (by simp [Phase.place])

end Ordered

end Pool

end ArtifactFetch
