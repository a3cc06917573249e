import ArtifactFetch.Proofs.Registration.Atomic

/-! # The events of a registration

What becomes of each artifact of a registration can be said without its listener: it is present, its
file is added, or the class loader refuses the file, which ends the registration (`verdicts`). With
a listener that does not panic, a registration adds the files of just the artifacts that are added,
and delivers one event for each of them and for each that is present and has a name, in order
(`tells_verdicts_all`). This holds however the registration ends. -/

namespace ArtifactFetch

/-! ### Delivering several events -/

/-- The slot after it has delivered events of one origin, to nobody if it is empty. -/
def ListenerSlot.tell (s : ListenerSlot) (task : Option Nat) (es : List Event) : ListenerSlot :=
  { s with deliveries := s.deliveries ++
      s.installed.elim [] fun l => es.map fun e => ⟨l.name, e, task⟩ }

/-- What the host is told of an artifact that is present. -/
def Hit.events (c : Coordinate) : Hit → List Event
  | .trivial => []
  | .static | .dynamic => [.available c]

section Tell
variable {s : ListenerSlot} {task : Option Nat} {cp cp' : Classpath} {p : Option Panic}

@[simp] theorem ListenerSlot.tell_nil (s : ListenerSlot) (task : Option Nat) :
    s.tell task [] = s := by
  cases s with
  | mk installed deliveries => cases installed <;> simp [tell]

theorem ListenerSlot.tell_append (s : ListenerSlot) (task : Option Nat) (es es' : List Event) :
    (s.tell task es).tell task es' = s.tell task (es ++ es') := by
  cases s with
  | mk installed deliveries => cases installed <;> simp [tell]

theorem ListenerSlot.fst_deliver (s : ListenerSlot) (task : Option Nat) (e : Event) :
    (s.deliver task e).1 = s.tell task [e] := by
  cases s with
  | mk installed deliveries => cases installed <;> simp [deliver, tell]

theorem Classpath.slot_of_deliver {e : Event} (h : cp.deliver task e = (cp', p)) :
    cp'.slot = cp.slot.tell task [e] := by
  cases h
  exact cp.slot.fst_deliver task e

theorem Classpath.slot_of_notifyHit {c : Coordinate} {hit : Hit}
    (h : cp.notifyHit task c hit = (cp', p)) : cp'.slot = cp.slot.tell task (hit.events c) := by
  unfold Classpath.notifyHit at h
  cases hit with
  | trivial => cases h; exact (ListenerSlot.tell_nil _ _).symm
  | static | dynamic => exact Classpath.slot_of_deliver h

end Tell

namespace Registration

/-! ### What becomes of the artifacts -/

/-- What becomes of an artifact when its turn comes. -/
inductive Verdict where
  | present (hit : Hit)
  | added
  /-- The class loader refuses its file. -/
  | refused
  deriving DecidableEq, Repr

namespace Verdict

def isPresent : Verdict → Bool
  | present _ => true
  | _ => false

/-- The events of an artifact. -/
def events (a : Artifact) : Verdict → List Event
  | present hit => hit.events a.coordinate
  | added => [.added a.coordinate a.file]
  | refused => []

end Verdict

/-- What becomes of artifacts one after another. Nothing becomes of those behind a refused one. -/
def verdicts (t : FileTree) : List Artifact → Classpath → List (Artifact × Verdict)
  | [], _ => []
  | a :: rest, cp =>
    match cp.lookup a.coordinate with
    | some hit => (a, .present hit) :: verdicts t rest cp
    | none =>
      if cp.accepts t a then (a, .added) :: verdicts t rest (cp.withEntry a.file)
      else [(a, .refused)]

/-- What becomes of the artifacts that were found for a coordinate: nothing, if checks are made and
fail. -/
def verdictsAll (t : FileTree) (verify : Bool) (artifacts : List Artifact) (cp : Classpath) :
    List (Artifact × Verdict) :=
  if verify && !(Artifact.verifyAll t (cp.pending artifacts)).isOk then []
  else verdicts t artifacts cp

/-- The artifacts that are added. -/
def added (vs : List (Artifact × Verdict)) : List Artifact :=
  (vs.filter (·.2 = .added)).map Prod.fst

/-- The coordinates of the artifacts with a name that are present. -/
def reported (vs : List (Artifact × Verdict)) : List Coordinate :=
  (vs.filter fun v => v.2.isPresent && v.1.coordinate.artifact ≠ "").map (·.1.coordinate)

/-- The events of a registration. -/
def events (vs : List (Artifact × Verdict)) : List Event := vs.flatMap fun (a, v) => v.events a

variable {t : FileTree} {task : Option Nat} {cp cp' : Classpath}

theorem accepts_congr (hl : cp'.loader = cp.loader) (t : FileTree) :
    cp'.accepts t = cp.accepts t := by
  unfold Classpath.accepts
  rw [hl]

/-- The listener has no part in what becomes of the artifacts. -/
theorem verdicts_congr : ∀ (as : List Artifact) {cp cp' : Classpath}, cp'.boot = cp.boot →
    cp'.loader = cp.loader → verdicts t as cp' = verdicts t as cp
  | [], _, _, _, _ => rfl
  | a :: rest, cp, cp', hb, hl => by
    have hw : (cp'.withEntry a.file).loader = (cp.withEntry a.file).loader := by
      unfold Classpath.withEntry
      rw [hl]
    rw [verdicts, verdicts, lookup_congr hb hl, accepts_congr hl, verdicts_congr rest hb hl,
      @verdicts_congr rest (cp.withEntry a.file) (cp'.withEntry a.file) hb hw]

theorem verdicts_of_present {a : Artifact} {hit : Hit} (rest : List Artifact)
    (h : cp.lookup a.coordinate = some hit) :
    verdicts t (a :: rest) cp = (a, .present hit) :: verdicts t rest cp := by
  rw [verdicts, h]

theorem verdicts_of_accepted {a : Artifact} (rest : List Artifact)
    (h : cp.lookup a.coordinate = none) (ha : cp.accepts t a = true) :
    verdicts t (a :: rest) cp = (a, .added) :: verdicts t rest (cp.withEntry a.file) := by
  rw [verdicts, h]
  exact if_pos ha

theorem verdicts_of_refused {a : Artifact} (rest : List Artifact)
    (h : cp.lookup a.coordinate = none) (ha : cp.accepts t a = false) :
    verdicts t (a :: rest) cp = [(a, .refused)] := by
  rw [verdicts, h]
  exact if_neg (by rw [ha]; exact Bool.false_ne_true)

theorem accepts_of_addFile {a : Artifact} {r : Except Failure Unit}
    (h : cp.addFile t a.file = (cp', r)) : cp.accepts t a = r.isOk := by
  rw [Classpath.accepts, Classpath.check_of_addFile h]

/-- **The events of a registration artifact by artifact.** -/
theorem Registers.tells_verdicts {as : List Artifact} {s : Summary} {r : Registered}
    (h : Registers t task as cp s r) (hq : ∀ e, cp.Quiet e) :
    r.appended = added (verdicts t as cp) ∧
      r.classpath.slot = cp.slot.tell task (events (verdicts t as cp)) := by
  induction h with
  | done => exact ⟨rfl, (ListenerSlot.tell_nil _ _).symm⟩
  | reportPanic _ hn => exact absurd hn (hq _).notifyHit_ne
  | @report a rest cp cp' s hit r hl hn _ ih =>
    have hrest := verdicts_congr (t := t) rest (Classpath.grows_of_notifyHit hn).boot
      (Classpath.loader_of_notifyHit hn)
    obtain ⟨happ, hslot⟩ := ih fun e => (hq e).of_notifyHit hn
    rw [hrest] at happ hslot
    rw [verdicts_of_present rest hl]
    refine ⟨happ, ?_⟩
    rw [hslot, Classpath.slot_of_notifyHit hn, ListenerSlot.tell_append]
    rfl
  | @refuse a rest cp s f hl ha =>
    rw [verdicts_of_refused rest hl (accepts_of_addFile ha)]
    exact ⟨rfl, (ListenerSlot.tell_nil _ _).symm⟩
  | addPanic _ ha hn => exact absurd hn ((hq _).of_addFile ha).deliver_ne
  | @add a rest cp cp₁ cp₂ s r hl ha hn _ ih =>
    have hcp₁ := Classpath.fst_addFile_of_ok ha
    have hrest : verdicts t rest cp₂ = verdicts t rest (cp.withEntry a.file) := by
      rw [← hcp₁]
      exact verdicts_congr rest (Classpath.grows_of_deliver hn).boot
        (Classpath.loader_of_deliver hn)
    obtain ⟨happ, hslot⟩ := ih fun e => ((hq e).of_addFile ha).of_deliver hn
    rw [hrest] at happ hslot
    rw [verdicts_of_accepted rest hl (accepts_of_addFile ha)]
    refine ⟨congrArg (List.cons a) happ, ?_⟩
    rw [hslot, Classpath.slot_of_deliver hn, hcp₁, ListenerSlot.tell_append]
    rfl

/-- **The events of a registration.** -/
theorem tells_verdicts_all (t : FileTree) (task : Option Nat) (verify : Bool) (root : Coordinate)
    (artifacts : List Artifact) (cp : Classpath) (hq : ∀ e, cp.Quiet e) :
    (all t task verify root artifacts cp).appended = added (verdictsAll t verify artifacts cp) ∧
      (all t task verify root artifacts cp).classpath.slot =
        cp.slot.tell task (events (verdictsAll t verify artifacts cp)) := by
  obtain ⟨e, hv, he, hall⟩ | ⟨hok, hall⟩ := all_eq t task verify root artifacts cp
  · have hnone : verdictsAll t verify artifacts cp = [] := by
      rw [verdictsAll, hv, he]
      rfl
    rw [hall, hnone]
    exact ⟨rfl, (ListenerSlot.tell_nil _ _).symm⟩
  · have heach : verdictsAll t verify artifacts cp = verdicts t artifacts cp := by
      refine if_neg fun hfail => ?_
      rw [Bool.and_eq_true] at hfail
      rw [hok hfail.1] at hfail
      cases hfail.2
    rw [hall, heach]
    exact (registers_each _ _ _).tells_verdicts hq

/-! ### Events by kind -/

/-- An artifact is present for no reason but that it has no name, just if it has none. -/
def Named (v : Artifact × Verdict) : Prop :=
  ∀ hit, v.2 = .present hit → (hit = .trivial ↔ v.1.coordinate.artifact = "")

theorem eq_trivial_iff {c : Coordinate} {hit : Hit} (h : cp.lookup c = some hit) :
    hit = .trivial ↔ c.artifact = "" := by
  unfold Classpath.lookup at h
  split_ifs at h with hn <;> cases h <;> simp [hn]

theorem named_verdicts : ∀ (as : List Artifact) (cp : Classpath), ∀ v ∈ verdicts t as cp, Named v
  | [], _, v, hv => absurd hv List.not_mem_nil
  | a :: rest, cp, v, hv => by
    rcases hl : cp.lookup a.coordinate with _ | hit
    · rcases ha : cp.accepts t a with _ | _
      · rw [verdicts_of_refused rest hl ha, List.mem_singleton] at hv
        rintro hit hp
        rw [hv] at hp
        cases hp
      · rw [verdicts_of_accepted rest hl ha] at hv
        rcases List.mem_cons.mp hv with rfl | hv
        · rintro hit hp
          cases hp
        · exact named_verdicts rest _ v hv
    · rw [verdicts_of_present rest hl] at hv
      rcases List.mem_cons.mp hv with rfl | hv
      · rintro _ ⟨⟩
        exact eq_trivial_iff hl
      · exact named_verdicts rest _ v hv

theorem named_verdictsAll (verify : Bool) (artifacts : List Artifact) (cp : Classpath) :
    ∀ v ∈ verdictsAll t verify artifacts cp, Named v := by
  unfold verdictsAll
  split_ifs
  · exact fun v hv => absurd hv List.not_mem_nil
  · exact named_verdicts artifacts cp

end Registration

namespace Event

/-- The coordinate that was requested. -/
def requested? : Event → Option Coordinate
  | requested c => some c
  | _ => none

/-- The coordinate that is already available. -/
def available? : Event → Option Coordinate
  | available c => some c
  | _ => none

/-- The artifact that was added, and its file. -/
def added? : Event → Option (Coordinate × Path)
  | added c file => some (c, file)
  | _ => none

end Event

namespace Registration

variable {vs : List (Artifact × Verdict)}

theorem requested_events (vs : List (Artifact × Verdict)) :
    (events vs).filterMap Event.requested? = [] := by
  refine List.filterMap_eq_nil_iff.mpr fun e he => ?_
  obtain ⟨⟨a, v⟩, -, hv⟩ := List.mem_flatMap.mp he
  rcases v with ⟨_ | _ | _⟩ | _ | _ <;> simp [Verdict.events, Hit.events] at hv <;> rw [hv] <;> rfl

/-- Of the artifacts that are added, and of no others, it is said that they were added. -/
theorem added_events : ∀ vs : List (Artifact × Verdict),
    (events vs).filterMap Event.added? = (added vs).map fun a => (a.coordinate, a.file)
  | [] => rfl
  | (a, v) :: vs => by
    rw [events, List.flatMap_cons, List.filterMap_append]
    refine (congrArg _ (added_events vs)).trans ?_
    rcases v with ⟨_ | _ | _⟩ | _ | _ <;> rfl

/-- Of the artifacts with a name that are present, and of no others, it is said that they are
available. -/
theorem available_events : ∀ {vs : List (Artifact × Verdict)}, (∀ v ∈ vs, Named v) →
    (events vs).filterMap Event.available? = reported vs
  | [], _ => rfl
  | (a, v) :: vs, h => by
    have hrest := available_events fun v hv => h v (List.mem_cons_of_mem _ hv)
    rw [events, List.flatMap_cons, List.filterMap_append]
    refine (congrArg _ hrest).trans ?_
    have hn := h (a, v) List.mem_cons_self
    rcases v with hit | _ | _
    · have hnamed := hn hit rfl
      cases hit <;>
        simp_all [Verdict.events, Hit.events, Event.available?, reported, Verdict.isPresent]
    · rfl
    · rfl

end Registration

end ArtifactFetch
