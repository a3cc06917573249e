import ArtifactFetch.Proofs.Registration.Additions
import ArtifactFetch.Proofs.Registration.Events

/-! # The events of a registration among others

While a registration is under way, others may add entries, replace files, exchange the listener and
deliver events of their own. Each turn of the registration (`Turn`) then has its own listener: the
one that is installed when the turn has come. The events of the turn go to that one and to nobody
else (`tells_amid`). -/

namespace ArtifactFetch

/-- What was delivered for a task. -/
def ListenerSlot.told (s : ListenerSlot) (task : Option Nat) : List Delivery :=
  s.deliveries.filter (·.task = task)

namespace Registration

/-- One turn of a registration: the slot when the turn has come, an artifact, and what becomes of
it. -/
structure Turn where
  slot : ListenerSlot
  artifact : Artifact
  verdict : Verdict

namespace Turn

/-- What becomes of the artifact. -/
def result (x : Turn) : Artifact × Verdict := (x.artifact, x.verdict)

/-- What is delivered in a turn. -/
def deliveries (task : Option Nat) (x : Turn) : List Delivery :=
  x.slot.installed.elim [] fun l => (x.verdict.events x.artifact).map fun e => ⟨l.name, e, task⟩

end Turn

/-- The turns of artifacts one after another while others are at work. -/
def turnsEach (trees : Nat → FileTree) (others : Nat → Classpath → Classpath) (task : Option Nat) :
    Nat → List Artifact → Classpath → Summary → List Turn
  | _, [], _, _ => []
  | n, a :: rest, cp, done =>
    let cp := others n cp
    let r := each (trees n) task [a] cp done
    (verdicts (trees n) [a] cp).map (fun (a, v) => ⟨cp.slot, a, v⟩) ++
      match r.result with
      | .error _ => []
      | .ok done => turnsEach trees others task (n + 1) rest r.classpath done

/-- The turns of the artifacts that were found for a coordinate: none, if checks are made and
fail. -/
def turns (trees : Nat → FileTree) (others : Nat → Classpath → Classpath) (t : FileTree)
    (task : Option Nat) (verify : Bool) (root : Coordinate) (artifacts : List Artifact)
    (cp : Classpath) : List Turn :=
  if verify && !(Artifact.verifyAll t (cp.pending artifacts)).isOk then []
  else turnsEach trees others task 0 artifacts cp ⟨root, [], []⟩

/-- What others do before a turn of a task: they install no listener that panics, and what they
deliver is not of the task. -/
structure Elsewhere (task : Option Nat) (others : Nat → Classpath → Classpath) : Prop where
  quiet : ∀ n (cp : Classpath), (∀ e, cp.Quiet e) → ∀ e, (others n cp).Quiet e
  told : ∀ n (cp : Classpath), (others n cp).slot.told task = cp.slot.told task

variable {trees : Nat → FileTree} {others : Nat → Classpath → Classpath} {t : FileTree}
  {task : Option Nat} {cp : Classpath}

theorem told_tell (s : ListenerSlot) (task : Option Nat) (es : List Event) :
    (s.tell task es).told task =
      s.told task ++ s.installed.elim [] fun l => es.map fun e => ⟨l.name, e, task⟩ := by
  rw [ListenerSlot.told, ListenerSlot.tell, List.filter_append]
  congr 1
  rcases s.installed with _ | l
  · rfl
  · exact List.filter_eq_self.mpr fun x hx => by
      obtain ⟨e, -, rfl⟩ := List.mem_map.mp hx
      exact decide_eq_true rfl

/-! ### One turn -/

theorem result_verdicts (vs : List (Artifact × Verdict)) (s : ListenerSlot) :
    (vs.map fun (a, v) => (⟨s, a, v⟩ : Turn)).map Turn.result = vs := by
  rw [List.map_map]
  exact List.map_id vs

theorem deliveries_verdicts (task : Option Nat) (s : ListenerSlot) :
    ∀ vs : List (Artifact × Verdict),
      (vs.map fun (a, v) => (⟨s, a, v⟩ : Turn)).flatMap (Turn.deliveries task) =
        s.installed.elim [] fun l => (events vs).map fun e => ⟨l.name, e, task⟩
  | [] => by cases s.installed <;> rfl
  | (a, v) :: vs => by
    rw [List.map_cons, List.flatMap_cons, deliveries_verdicts task s vs, Turn.deliveries]
    cases s.installed with
    | none => rfl
    | some l => exact (List.map_append ..).symm

/-- **One turn**: it adds what its verdict says and tells the listener that is installed. -/
theorem Registers.tells_turn {as : List Artifact} {s : Summary} {r : Registered}
    (h : Registers t task as cp s r) (hq : ∀ e, cp.Quiet e) :
    r.classpath.slot.told task = cp.slot.told task ++ ((verdicts t as cp).map fun (a, v) =>
        (⟨cp.slot, a, v⟩ : Turn)).flatMap (Turn.deliveries task) ∧
      ∀ e, r.classpath.Quiet e := by
  obtain ⟨-, hslot⟩ := h.tells_verdicts hq
  refine ⟨?_, fun e => (hq e).of_installed (by rw [hslot]; rfl)⟩
  rw [hslot, told_tell, deliveries_verdicts]

/-! ### All turns -/

/-- **What a registration tells** that has these turns and leaves this behind. -/
structure TellsAmid (task : Option Nat) (cp : Classpath) (xs : List Turn) (r : Registered) :
    Prop where
  /-- The files of just the artifacts are added of which that is the verdict. -/
  appended : r.appended = added (xs.map Turn.result)
  /-- Every event goes to the listener that is installed when its turn has come, and to nobody if
  there is none. -/
  told : r.classpath.slot.told task = cp.slot.told task ++ xs.flatMap (Turn.deliveries task)

theorem added_append (vs vs' : List (Artifact × Verdict)) :
    added (vs ++ vs') = added vs ++ added vs' := by
  rw [added, List.filter_append, List.map_append]
  rfl

theorem tells_eachAmid (ho : Elsewhere task others) : ∀ (as : List Artifact) (n : Nat)
    (cp : Classpath) (done : Summary), (∀ e, cp.Quiet e) →
      TellsAmid task cp (turnsEach trees others task n as cp done)
        (eachAmid trees others task n as cp done)
  | [], _, _, _, _ => ⟨rfl, (List.append_nil _).symm⟩
  | a :: rest, n, cp, done, hq => by
    have hreg : Registers (trees n) task [a] (others n cp) done _ := registers_each _ _ _
    have happ := (hreg.tells_verdicts (ho.quiet n cp hq)).1
    obtain ⟨htold, hquiet⟩ := hreg.tells_turn (ho.quiet n cp hq)
    rw [ho.told n cp] at htold
    unfold turnsEach eachAmid
    dsimp only
    rcases hr : (each (trees n) task [a] (others n cp) done).result with f | done'
    · refine ⟨?_, ?_⟩
      · rw [List.append_nil, result_verdicts]
        exact happ
      · rw [List.append_nil]
        exact htold
    · have hrest := tells_eachAmid ho rest (n + 1) _ done' hquiet
      refine ⟨?_, ?_⟩
      · rw [List.map_append, added_append, result_verdicts, ← happ, ← hrest.appended]
      · rw [List.flatMap_append, ← List.append_assoc, ← htold]
        exact hrest.told

/-- **A registration among others** tells the listeners that are installed when its turns come. -/
theorem tells_amid (ho : Elsewhere task others) (verify : Bool) (root : Coordinate)
    (artifacts : List Artifact) (hq : ∀ e, cp.Quiet e) :
    TellsAmid task cp (turns trees others t task verify root artifacts cp)
      (allAmid trees others t task verify root artifacts cp) := by
  unfold turns allAmid
  cases verify with
  | false => exact tells_eachAmid ho artifacts 0 cp _ hq
  | true =>
    dsimp only
    rcases Artifact.verifyAll t (cp.pending artifacts) with e | ⟨⟩
    · exact ⟨rfl, (List.append_nil _).symm⟩
    · exact tells_eachAmid ho artifacts 0 cp _ hq

/-! ### With a listener at all turns -/

theorem events_of_isSet {x : Turn} (h : x.slot.isSet = true) :
    (x.deliveries task).map Delivery.event = x.verdict.events x.artifact := by
  obtain ⟨l, hl⟩ := Option.isSome_iff_exists.mp h
  rw [Turn.deliveries, hl, Option.elim_some, List.map_map]
  exact List.map_id _

/-- Whoever they go to, the events are those of the verdicts. -/
theorem events_turns : ∀ {xs : List Turn}, (∀ x ∈ xs, x.slot.isSet = true) →
    (xs.flatMap (Turn.deliveries task)).map Delivery.event = events (xs.map Turn.result)
  | [], _ => rfl
  | x :: xs, h => by
    rw [List.flatMap_cons, List.map_append, events_of_isSet (h x List.mem_cons_self),
      events_turns fun y hy => h y (List.mem_cons_of_mem _ hy)]
    rfl

theorem named_turnsEach : ∀ (as : List Artifact) (n : Nat) (cp : Classpath) (done : Summary),
    ∀ v ∈ (turnsEach trees others task n as cp done).map Turn.result, Named v
  | [], _, _, _, v, hv => absurd hv List.not_mem_nil
  | a :: rest, n, cp, done, v, hv => by
    unfold turnsEach at hv
    dsimp only at hv
    rw [List.map_append, result_verdicts] at hv
    rcases List.mem_append.mp hv with hv | hv
    · exact named_verdicts [a] _ v hv
    · split at hv
      · exact absurd hv List.not_mem_nil
      · exact named_turnsEach rest (n + 1) _ _ v hv

theorem named_turns (verify : Bool) (root : Coordinate) (artifacts : List Artifact) :
    ∀ v ∈ (turns trees others t task verify root artifacts cp).map Turn.result, Named v := by
  unfold turns
  split_ifs
  · exact fun v hv => absurd hv List.not_mem_nil
  · exact named_turnsEach artifacts 0 cp _

end Registration

end ArtifactFetch
