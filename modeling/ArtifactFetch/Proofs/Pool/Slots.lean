import ArtifactFetch.Proofs.Pool.Run
import ArtifactFetch.Proofs.Pool.Stages
import ArtifactFetch.Proofs.Pool.Turnstile
import Mathlib.Data.List.Induction

/-! # The slots of a pool

For its slots it matters where the tasks of a pool are: in line, with a slot, or gone (`places`).
`Lineup` says what a change does to places and slots: a task waits, starts, quits the line or gives
its slot back, however its work ends, or nothing of that kind happens. So no slot is lost and none
is made, and only tasks in line stand at the slots (`SlotsSound`); and the tasks with a slot are
those that have started and not ended (`StartsSound`). -/

namespace ArtifactFetch

/-- Where a task is. -/
inductive Place where
  | line
  | slot
  | gone
  deriving DecidableEq, Repr

namespace Phase

variable {Job Result : Type} {ph : Phase Job Result}

/-- Where a task of this phase is. -/
def place : Phase Job Result → Place
  | .queued => .line
  | .ended _ _ => .gone
  | _ => .slot

theorem place_of_endsIn {e : Ending Job Result} (h : ph.endsIn = some e) : ph.place = .slot := by
  cases ph <;> simp_all [endsIn, place]

theorem place_eq_line : ph.place = .line ↔ ph = .queued := by
  cases ph <;> simp [place]

theorem place_eq_gone : ph.place = .gone ↔ ph.isLive = false := by
  cases ph <;> simp [place, isLive, result?]

end Phase

theorem Task.holdsSlot_iff {Work Job Result : Type} {t : Task Work Job Result} :
    t.holdsSlot = true ↔ t.phase.place = .slot := by
  cases h : t.phase <;> simp [holdsSlot, Phase.place, h]

namespace Pool

variable {World Work Job Result : Type}

/-- Where every task is. -/
def places (s : Pool World Work Job Result) : List Place := s.stages.map fun st => st.2.place

/-- How many tasks have a slot. -/
def atWork (s : Pool World Work Job Result) : Nat := s.places.count .slot

/-- The tasks that have started and not ended. -/
def underWay (s : Pool World Work Job Result) : List Nat :=
  s.live.filter fun id => .started id ∈ s.history

variable {w : Workload World Work Job Result} {s s' : Pool World Work Job Result} {id i : Nat}
  {t : Task Work Job Result} {ph : Phase Job Result} {c : Work}

theorem getElem?_places (h : s.stages[id]? = some (c, ph)) : s.places[id]? = some ph.place := by
  rw [places, List.getElem?_map, h]
  rfl

theorem place_of_task (h : s.tasks[id]? = some t) : s.places[id]? = some t.phase.place :=
  getElem?_places (getElem?_stages h)

theorem task_of_place {p : Place} (h : s.places[id]? = some p) :
    ∃ t, s.tasks[id]? = some t ∧ t.phase.place = p := by
  rw [places, stages, List.map_map, List.getElem?_map, Option.map_eq_some_iff] at h
  exact h

theorem length_places (s : Pool World Work Job Result) : s.places.length = s.tasks.length := by
  rw [places, List.length_map, length_stages]

theorem places_set (h : s'.stages = s.stages.set id (c, ph)) :
    s'.places = s.places.set id ph.place := by
  rw [places, h, List.map_set]
  rfl

theorem set_of_getElem? {α : Type} {l : List α} {n : Nat} {a : α} (h : l[n]? = some a) :
    l.set n a = l := by
  obtain ⟨hn, rfl⟩ := List.getElem?_eq_some_iff.mp h
  exact List.set_getElem_self hn

theorem stages_accept (s : Pool World Work Job Result) (work : Work) :
    (s.accept work).stages = s.stages ++ [(work, .queued)] := List.map_append

theorem places_accept (s : Pool World Work Job Result) (work : Work) :
    (s.accept work).places = s.places ++ [.line] := by
  rw [places, stages_accept, List.map_append]
  rfl

/-! ### What a change does to places and slots -/

/-- **What a change does** to places and slots, and which tasks start. -/
inductive Lineup (s s' : Pool World Work Job Result) : Prop
  | still (hp : s'.places = s.places) (hs : s'.slots = s.slots)
    (hh : ∀ i, .started i ∈ s'.history ↔ .started i ∈ s.history)
  /-- A task finds no slot. -/
  | wait {id : Nat} (hi : s.places[id]? = some .line) (hs : s.slots.enter id = (s'.slots, false))
    (hp : s'.places = s.places) (hh : ∀ i, .started i ∈ s'.history ↔ .started i ∈ s.history)
  | start {id : Nat} (hi : s.places[id]? = some .line) (hs : s.slots.enter id = (s'.slots, true))
    (hp : s'.places = s.places.set id .slot)
    (hh : ∀ i, .started i ∈ s'.history ↔ .started i ∈ s.history ∨ i = id)
  /-- A task in line ends. -/
  | quit {id : Nat} (hi : s.places[id]? = some .line) (hs : s'.slots = (s.slots.leave id).1)
    (hp : s'.places = s.places.set id .gone)
    (hh : ∀ i, .started i ∈ s'.history ↔ .started i ∈ s.history)
  /-- A task with a slot ends. -/
  | done {id : Nat} (hi : s.places[id]? = some .slot) (hs : s'.slots = (s.slots.release 1).1)
    (hp : s'.places = s.places.set id .gone)
    (hh : ∀ i, .started i ∈ s'.history ↔ .started i ∈ s.history)

theorem slots_letGo_line (id : Nat) (s : Pool World Work Job Result) :
    (s.letGo id .queued).slots = (s.slots.leave id).1 := rfl

/-- However the work of a task ends, it gives back its one slot. -/
theorem slots_letGo_slot (id : Nat) (h : ph.place = .slot) (s : Pool World Work Job Result) :
    (s.letGo id ph).slots = (s.slots.release 1).1 := by
  unfold letGo
  split
  · cases h
  · cases h
  · rfl
  · rfl

theorem lineup_finish (ht : s.tasks[id]? = some t) (hl : t.isLive = true) (r : Result) :
    Lineup s (s.finish w id r) := by
  have hp := places_set (stages_finish (w := w) ht r)
  have hh : ∀ i, .started i ∈ (s.finish w id r).history ↔ .started i ∈ s.history := fun i => by
    rw [history_finish ht]
  have hplace := place_of_task ht
  rcases hph : t.phase.place with _ | _ | _ <;> rw [hph] at hplace
  · refine .quit hplace ?_ hp hh
    rw [finish_eq ht, Phase.place_eq_line.mp hph, slots_letGo_line]
    rfl
  · refine .done hplace ?_ hp hh
    rw [finish_eq ht, slots_letGo_slot id hph]
    rfl
  · rw [Phase.place_eq_gone, Task.isLive_phase, hl] at hph
    cases hph

/-- A task that stays where it is. -/
theorem places_set_same {ph' : Phase Job Result} (hst : s.stages[id]? = some (c, ph))
    (hph : ph'.place = ph.place) (hp : s'.stages = s.stages.set id (c, ph')) :
    s'.places = s.places := by
  rw [places_set hp, hph]
  exact set_of_getElem? (getElem?_places hst)

/-- A job that is run changes neither places nor slots. -/
theorem places_runJob (id : Nat) (j : Job) (jobs : List (Nat × Job))
    (s : Pool World Work Job Result) :
    ({ s with jobs := jobs }.runJob w id j).places = s.places ∧
      ({ s with jobs := jobs }.runJob w id j).slots = s.slots := by
  constructor
  · obtain ⟨c, hst, hs⟩ | ⟨-, hs⟩ := stages_runJob w id j { s with jobs := jobs }
    · have hst' : s.stages[id]? = some (c, .inJob) := hst
      refine places_set_same hst' ?_ hs
      rfl
    · rw [places, hs]
      rfl
  · unfold runJob
    dsimp only
    split <;> rfl

/-- **What every change does** to places and slots. -/
theorem Change.lineup (h : Change w s s') : Lineup s s' := by
  cases h with
  | queue | tick | gate | close | cancel | lock => exact .still rfl rfl fun _ => Iff.rfl
  | notice id => exact .still (congrArg (List.map _) (stages_notice id s)) rfl fun _ => Iff.rfl
  | through =>
    refine .still rfl rfl fun i => ?_
    show Milestone.started i ∈ s.history ++ [.finished _] ↔ _
    simp
  | line ht hp he =>
    refine .wait ?_ he rfl fun _ => Iff.rfl
    rw [place_of_task ht, hp]
    rfl
  | @start id t slots ht hp he =>
    refine .start ?_ he (places_set (stages_launch (s := { s with slots := slots }) ht)) fun i => ?_
    · rw [place_of_task ht, hp]
      rfl
    · show Milestone.started i ∈ s.history ++ [.started id] ↔ _
      simp
  | proceed ph ht hp he =>
    obtain ⟨e, hs⟩ := Option.isSome_iff_exists.mp hp
    refine .still (places_set_same (getElem?_stages ht) ?_ (stages_setPhase ht ph)) rfl
      fun _ => Iff.rfl
    rw [Phase.place_of_endsIn hs, Phase.place_of_endsIn (he.trans hs)]
  | handOver ht hp =>
    refine .still (places_set_same (getElem?_stages ht) ?_ (stages_setPhase ht .inJob)) rfl
      fun _ => Iff.rfl
    rw [hp]
    rfl
  | @run i id j =>
    obtain ⟨hp, hs⟩ := places_runJob (w := w) id j (s.jobs.eraseIdx i) s
    refine .still hp hs fun i => ?_
    rw [history_runJob]
  | finish ht hl => exact lineup_finish ht hl _

/-! ### What every run keeps -/

theorem limit_letGo (id : Nat) (ph : Phase Job Result) (s : Pool World Work Job Result) :
    (s.letGo id ph).limit = s.limit := by
  unfold letGo
  split <;> rfl

theorem Change.limit (h : Change w s s') : s'.limit = s.limit := by
  cases h with
  | queue | tick | gate | line | start | proceed | notice | through | handOver => rfl
  | close | cancel | lock => rfl
  | run =>
    unfold runJob
    dsimp only
    split <;> rfl
  | finish ht => rw [finish_eq ht, limit_letGo]; rfl

theorem count_set_add {α : Type} [DecidableEq α] {l : List α} {n : Nat} {a : α}
    (h : l[n]? = some a) (b x : α) :
    (l.set n b).count x + (if a = x then 1 else 0) = l.count x + (if b = x then 1 else 0) := by
  obtain ⟨hn, rfl⟩ := List.getElem?_eq_some_iff.mp h
  have hpos : l[n] = x → 0 < l.count x := by
    rintro rfl
    exact List.count_pos_iff.mpr (List.getElem_mem hn)
  rw [List.count_set hn]
  simp only [beq_iff_eq]
  split_ifs with h₁ h₂ h₂
  · have := hpos h₁; omega
  · have := hpos h₁; omega
  · omega
  · omega

theorem getElem?_places_set_ne {p : Place} (hne : id ≠ i) (h : s.places[i]? = some p) (q : Place) :
    (s.places.set id q)[i]? = some p := by
  rw [List.getElem?_set_ne hne, h]

/-- **Slots**: those that are free, that were granted and that tasks at work have are all there are,
and only tasks in line stand at them. -/
structure SlotsSound (s : Pool World Work Job Result) : Prop where
  total : s.slots.passes + s.atWork = s.limit
  order : s.slots.Sound
  line : ∀ i, s.slots.Holds i → s.places[i]? = some .line

theorem SlotsSound.lineup (hs : SlotsSound s) (hl : s'.limit = s.limit) (h : Lineup s s') :
    SlotsSound s' := by
  obtain ⟨htotal, horder, hline⟩ := hs
  cases h with
  | still hp hs =>
    refine ⟨?_, by rw [hs]; exact horder, ?_⟩
    · rw [atWork, hs, hp, hl]
      exact htotal
    · rw [hs, hp]
      exact hline
  | @wait id hi he hp =>
    refine ⟨?_, horder.enter_false he, fun i hh => ?_⟩
    · rw [atWork, Turnstile.passes_enter_false he, hp, hl]
      exact htotal
    · rw [hp]
      obtain hh | rfl := (Turnstile.holds_enter_false he).mp hh
      · exact hline i hh
      · exact hi
  | @start id hi he hp =>
    refine ⟨?_, horder.enter_true he, fun i hh => ?_⟩
    · have hpass := Turnstile.passes_enter_true he
      have hcount := count_set_add hi .slot .slot
      simp only [atWork, reduceCtorEq, if_false, if_true] at htotal hcount ⊢
      rw [hp, hl]
      omega
    · obtain ⟨hh, hne⟩ := (Turnstile.holds_enter_true horder he).mp hh
      rw [hp]
      exact getElem?_places_set_ne hne.symm (hline i hh) _
  | @quit id hi hs hp =>
    refine ⟨?_, by rw [hs]; exact horder.leave id, fun i hh => ?_⟩
    · have hcount := count_set_add hi .gone .slot
      simp only [atWork, reduceCtorEq, if_false] at htotal hcount ⊢
      rw [hs, Turnstile.passes_leave, hp, hl]
      omega
    · rw [hs, Turnstile.holds_leave horder] at hh
      rw [hp]
      exact getElem?_places_set_ne hh.2.symm (hline i hh.1) _
  | @done id hi hs hp =>
    refine ⟨?_, by rw [hs]; exact horder.release 1, fun i hh => ?_⟩
    · have hcount := count_set_add hi .gone .slot
      simp only [atWork, reduceCtorEq, if_false, if_true] at htotal hcount ⊢
      rw [hs, Turnstile.passes_release, hp, hl]
      omega
    · rw [hs, Turnstile.holds_release] at hh
      have hplace := hline i hh
      have hne : id ≠ i := by
        rintro rfl
        rw [hi] at hplace
        cases hplace
      rw [hp]
      exact getElem?_places_set_ne hne hplace _

theorem SlotsSound.accept (hs : SlotsSound s) (work : Work) : SlotsSound (s.accept work) where
  total := by
    have hcount : (s.accept work).atWork = s.atWork := by
      rw [atWork, places_accept, List.count_append]
      rfl
    rw [hcount]
    exact hs.total
  order := hs.order
  line i hh := by
    have hp := hs.line i hh
    rw [places_accept, List.getElem?_append_left (List.getElem?_eq_some_iff.mp hp).1, hp]

/-- **Starts**: a task with a slot has started, and a task that has started is not in line. -/
structure StartsSound (s : Pool World Work Job Result) : Prop where
  begun : ∀ i, s.places[i]? = some .slot → .started i ∈ s.history
  left : ∀ i, .started i ∈ s.history → ∃ p, s.places[i]? = some p ∧ p ≠ .line

theorem StartsSound.set (hs : StartsSound s) {p q : Place} (hi : s.places[id]? = some p)
    (hp : s'.places = s.places.set id q) (hq : q ≠ .line)
    (hb : q = .slot → .started id ∈ s'.history)
    (hh : ∀ i, .started i ∈ s'.history ↔ .started i ∈ s.history ∨ i = id ∧ q = .slot) :
    StartsSound s' where
  begun i h := by
    rw [hp] at h
    obtain ⟨rfl, hq⟩ | hold := of_getElem?_set h
    · exact hb hq
    · exact (hh i).mpr (.inl (hs.begun i hold))
  left i h := by
    rw [hp, getElem?_set_of hi]
    split_ifs with hn
    · exact ⟨q, rfl, hq⟩
    · exact hs.left i (((hh i).mp h).resolve_right fun h => hn h.1.symm)

theorem StartsSound.lineup (hs : StartsSound s) (h : Lineup s s') : StartsSound s' := by
  cases h with
  | still hp _ hh | wait _ _ hp hh =>
    refine ⟨fun i h => ?_, fun i h => ?_⟩
    · rw [hp] at h
      exact (hh i).mpr (hs.begun i h)
    · rw [hp]
      exact hs.left i ((hh i).mp h)
  | start hi _ hp hh =>
    exact hs.set hi hp (by simp) (fun _ => (hh _).mpr (.inr rfl)) fun i => by simp [hh]
  | quit hi _ hp hh | done hi _ hp hh =>
    exact hs.set hi hp (by simp) (fun h => by cases h) fun i => by simp [hh]

theorem StartsSound.accept (hs : StartsSound s) (work : Work) : StartsSound (s.accept work) where
  begun i h := by
    rw [places_accept, List.getElem?_append] at h
    split_ifs at h with hn
    · exact hs.begun i h
    · simp [List.getElem?_singleton] at h
  left i h := by
    obtain ⟨p, hp, hne⟩ := hs.left i h
    rw [places_accept, List.getElem?_append_left (List.getElem?_eq_some_iff.mp hp).1]
    exact ⟨p, hp, hne⟩

theorem startsSound_withLimit (limit : Nat) (world : World) :
    StartsSound (withLimit limit world : Pool World Work Job Result) :=
  ⟨fun i hi => by simp [places, stages, withLimit] at hi, fun i hi => by simp [withLimit] at hi⟩

/-! ### Counting -/

theorem length_filter_range {α : Type} (p : α → Bool) (l : List α) :
    ((List.range l.length).filter fun i => l[i]?.any p).length = l.countP p := by
  induction l using List.reverseRecOn with
  | nil => rfl
  | append_singleton l a ih =>
    have hold : (List.range l.length).filter (fun i => (l ++ [a])[i]?.any p) =
        (List.range l.length).filter fun i => l[i]?.any p := by
      refine List.filter_congr fun i hi => ?_
      rw [List.getElem?_append_left (List.mem_range.mp hi)]
    rw [List.length_append, List.length_singleton, List.range_succ, List.filter_append, hold,
      List.length_append, ih, List.countP_append]
    congr 1
    cases hp : p a <;> simp [hp]

theorem active_eq (s : Pool World Work Job Result) : s.active = s.live.length :=
  (length_filter_range Task.isLive s.tasks).symm

namespace StartsSound

variable (hs : StartsSound s)
include hs

/-- The tasks that have started and not ended are those with a slot. -/
theorem underWay_eq : s.underWay =
    (List.range s.places.length).filter fun i => s.places[i]?.any (· == .slot) := by
  rw [underWay, live, List.filter_filter, length_places]
  refine List.filter_congr fun i hi => ?_
  obtain ⟨t, ht⟩ : ∃ t, s.tasks[i]? = some t :=
    ⟨_, List.getElem?_eq_getElem (List.mem_range.mp hi)⟩
  have hp := place_of_task ht
  rw [ht, hp, Option.any_some, Option.any_some, ← Task.isLive_phase]
  cases hph : t.phase.place with
  | slot =>
    have hlive : t.phase.isLive = true := by
      by_contra hl
      rw [Bool.not_eq_true, ← Phase.place_eq_gone, hph] at hl
      cases hl
    rw [hph] at hp
    simp [hs.begun i hp, hlive]
  | line =>
    have hn : .started i ∉ s.history := fun h => by
      obtain ⟨p, hp', hne⟩ := hs.left i h
      rw [hp, hph] at hp'
      exact hne (Option.some.inj hp').symm
    simp [hn]
  | gone => simp [Phase.place_eq_gone.mp hph]

theorem mem_underWay : i ∈ s.underWay ↔ s.places[i]? = some .slot := by
  rw [hs.underWay_eq, List.mem_filter, List.mem_range]
  constructor
  · rintro ⟨hi, hp⟩
    simpa [List.getElem?_eq_getElem hi] using hp
  · intro hp
    exact ⟨(List.getElem?_eq_some_iff.mp hp).1, by simp [hp]⟩

theorem length_underWay : s.underWay.length = s.atWork := by
  rw [hs.underWay_eq, length_filter_range]
  rfl

end StartsSound

end Pool

end ArtifactFetch
