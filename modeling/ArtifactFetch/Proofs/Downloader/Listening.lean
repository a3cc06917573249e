import ArtifactFetch.Proofs.Downloader.Additions
import ArtifactFetch.Proofs.Registration.EventsAmid

/-! # What a listener sees

Events come from three places: requests and inquiries of the host, and the jobs of the tasks. The
log of a run (`Logged`) lists these in the order of time, each with what came of it, together with
the listeners that the host installs. If no listener panics, the deliveries of a run are those of
its log, each to the listener that is installed at that moment (`slot_of_logged`), and the files
that tasks have added are those of its log. With a listener at all times, it is told of every
request, of every file that is added, and of every artifact that is found present
(`listener_sees`). A job that is not alone tells the listeners that are installed when its turns
come (`HeardAmid`). -/

namespace ArtifactFetch

/-- The listener panics in no event. -/
def Listener.Calm (l : Listener) : Prop := ∀ e, l.panics e = none

namespace Downloader

/-! ### Logs -/

/-- Something that a listener is told of, with what came of it, or the exchange of the listener. -/
inductive Happening where
  | requested (c : Coordinate) (answer : Except Failure Ensured)
  /-- The host asked whether an artifact is present. -/
  | inquired (c : Coordinate) (hit : Option Hit)
  /-- The job of a task was run. -/
  | registered (task : Nat) (verdicts : List (Artifact × Registration.Verdict))
  | installed (l : Option Listener)

namespace Happening

/-- The events of a happening: a request before all else. -/
def events : Happening → List Event
  | requested c answer =>
    .requested c :: match answer with
      | .ok (.skipped hit) => hit.events c
      | _ => []
  | inquired c hit => hit.elim [] (Hit.events c)
  | registered _ vs => Registration.events vs
  | installed _ => []

/-- The task that events come from. -/
def task : Happening → Option Nat
  | registered id _ => some id
  | _ => none

/-- The files that a task has added. -/
def appends : Happening → List Append
  | registered id vs => (Registration.added vs).map (Append.mk id)
  | _ => []

/-- The coordinates that are found present: one if a request is answered so or an inquiry hits, and
one for each artifact with a name that a job finds present. -/
def present : Happening → List Coordinate
  | requested c (.ok (.skipped .static)) | requested c (.ok (.skipped .dynamic)) => [c]
  | inquired c (some .static) | inquired c (some .dynamic) => [c]
  | registered _ vs => Registration.reported vs
  | _ => []

/-- The slot after a happening: its events go to the listener that is installed. -/
def tell (s : ListenerSlot) : Happening → ListenerSlot
  | installed l => s.install l
  | h => s.tell h.task h.events

end Happening

variable {d d' d₁ : Downloader} {id : Nat} {j : Found} {ms : List Move} {log : List Happening}

/-- What becomes of the artifacts of a job that is run now. -/
def verdicts (d : Downloader) (j : Found) : List (Artifact × Registration.Verdict) :=
  Registration.verdictsAll d.shared.files d.config.settings.verifyArtifacts j.artifacts d.classpath

/-- The jobs that are run on the way from the first downloader to the last, in order. -/
inductive Runs : Downloader → List Happening → Downloader → Prop
  | refl (d : Downloader) : Runs d [] d
  /-- Something else happens, with the host aside: no job is run, and nobody is told anything. -/
  | other {d d₁ d' : Downloader} {log : List Happening} (h : Change (fun _ => True) d d₁)
    (hj : d.pool.jobs <+: d₁.pool.jobs) (hs : d₁.classpath.slot = d.classpath.slot)
    (ha : d₁.shared.appends = d.shared.appends) (more : Runs d₁ log d') : Runs d log d'
  | job {d d₁ d' : Downloader} {id : Nat} {j : Found} {log : List Happening} (h : Ran d d₁ id j)
    (more : Runs d₁ log d') : Runs d (.registered id (d.verdicts j) :: log) d'

/-- The move is none that the log has an entry for by itself. -/
def Move.isOther : Move → Bool
  | .act (.ensure _) | .act (.inquire _) | .act (.setListener _) => false
  | _ => true

/-- **The log of a run.** -/
inductive Logged : Downloader → List Move → List Happening → Prop
  | nil (d : Downloader) : Logged d [] []
  | request {d : Downloader} {ms : List Move} {log : List Happening} (c : Coordinate)
    (more : Logged (d.ensure c).1 ms log) :
    Logged d (.act (.ensure c) :: ms) (.requested c (d.ensure c).2 :: log)
  | inquire {d : Downloader} {ms : List Move} {log : List Happening} (c : Coordinate)
    (more : Logged (d.alreadyAvailable c).1 ms log) :
    Logged d (.act (.inquire c) :: ms) (.inquired c (d.classpath.lookup c) :: log)
  | install {d : Downloader} {ms : List Move} {log : List Happening} (l : Option Listener)
    (more : Logged (d.setListener l) ms log) :
    Logged d (.act (.setListener l) :: ms) (.installed l :: log)
  | other {d : Downloader} {m : Move} {ms : List Move} {jobs log : List Happening}
    (hm : m.isOther = true) (hj : Runs d jobs (d.move m).1) (more : Logged (d.move m).1 ms log) :
    Logged d (m :: ms) (jobs ++ log)

/-! ### Every run has a log -/

theorem Runs.append {jobs' : List Happening} (h : Runs d log d₁) (h' : Runs d₁ jobs' d') :
    Runs d (log ++ jobs') d' := by
  induction h with
  | refl => exact h'
  | other hc hj hs ha _ ih => exact .other hc hj hs ha (ih h')
  | job hr _ ih => exact .job hr (ih h')

theorem runs_pool_change {p : DownloadPool} (h : Pool.Change d.config.workload d.pool p) :
    ∃ log, Runs d log { d with pool := p } := by
  have hc : Change (fun _ => True) d { d with pool := p } := .pool h
  cases h with
  | @run i id j hj =>
    refine ⟨_, .job (?_ : Ran d _ id j) (.refl _)⟩
    exact ⟨i, hj, by rw [Pool.runJobAt, hj]⟩
  | finish ht =>
    have hw := Pool.world_finish (w := d.config.workload) ht
    refine ⟨[], .other hc ?_ ?_ ?_ (.refl _)⟩
    · exact ⟨[], (List.append_nil _).trans (Pool.jobs_finish ht _).symm⟩
    · rw [classpath, shared, hw]
      rfl
    · rw [shared, hw]
      rfl
  | handOver => exact ⟨[], .other hc (List.prefix_append _ _) rfl rfl (.refl _)⟩
  | queue | tick | gate | line | proceed | notice | through | close | cancel | lock | start =>
    exact ⟨[], .other hc (List.prefix_refl _) rfl rfl (.refl _)⟩

theorem runs_pool {p : DownloadPool} (h : Pool.Changes d.config.workload d.pool p) :
    ∃ log, Runs d log { d with pool := p } := by
  induction h with
  | refl => exact ⟨[], .refl d⟩
  | @tail p₁ p₂ _ h ih =>
    obtain ⟨log, hr⟩ := ih
    obtain ⟨log', hr'⟩ := runs_pool_change (d := { d with pool := p₁ }) h
    exact ⟨log ++ log', hr.append hr'⟩

theorem runs_wait (d : Downloader) (h : Handle) (patience : Nat) :
    ∃ log, Runs d log (d.wait h patience).1 := by
  obtain ⟨log, hr⟩ := runs_pool (Pool.changes_await (w := d.config.workload) h.task patience d.pool)
  have hw := waits_wait d h patience
  generalize d.wait h patience = result at hw ⊢
  cases hw with
  | result hres =>
    have hc := Change.observe (R := fun _ => True) (d := { d with pool := _ }) hres
    exact ⟨log ++ [], hr.append (.other hc (List.prefix_refl _) rfl rfl (.refl _))⟩
  | nothing => exact ⟨log, hr⟩

theorem runs_move {m : Move} (hm : m.isOther = true) : ∃ log, Runs d log (d.move m).1 := by
  cases m with
  | act a =>
    cases a with
    | ensure | inquire | setListener => cases hm
    | wait h patience => exact runs_wait d h patience
    | advance millis => exact runs_pool (Pool.changes_advance millis d.pool)
    | release gate n => exact runs_pool (Pool.changes_releaseGate gate n d.pool)
    | shutdown drain => exact runs_pool (Pool.changes_shutdown drain d.pool)
    | setFiles files =>
      exact ⟨[], .other (.replace d files) (List.prefix_refl _) rfl rfl (.refl _)⟩
    | addFile p => exact ⟨[], .other (.add d p) (List.prefix_refl _) rfl rfl (.refl _)⟩
  | look id => exact runs_pool (Pool.changes_poll d.pool id)
  | job i => exact runs_pool (Pool.changes_runJobAt i d.pool)
  | tick millis => exact runs_pool (Pool.changes_moveTo (Nat.le_add_right _ _))
  | close => exact runs_pool (.single (.close d.pool))
  | cancel =>
    exact runs_pool (.head (.close d.pool) (Pool.changes_cancel { d.pool with closed := true }))
  | lock => exact runs_pool (.single (.lock d.pool))

/-- **Every run has a log.** -/
theorem exists_logged : ∀ (ms : List Move) (d : Downloader), ∃ log, Logged d ms log
  | [], d => ⟨[], .nil d⟩
  | m :: ms, d => by
    obtain ⟨log, hlog⟩ := exists_logged ms (d.move m).1
    by_cases hm : m.isOther = true
    · obtain ⟨jobs, hj⟩ := runs_move (d := d) hm
      exact ⟨jobs ++ log, .other hm hj hlog⟩
    · cases m with
      | act a =>
        cases a with
        | ensure c => exact ⟨_, .request c hlog⟩
        | inquire c => exact ⟨_, .inquire c hlog⟩
        | setListener l => exact ⟨_, .install l hlog⟩
        | wait | advance | release | shutdown | setFiles | addFile => exact absurd rfl hm
      | look | job | tick | close | cancel | lock => exact absurd rfl hm

/-! ### The slot follows the log -/

/-- A listener that is installed does not panic. -/
def CalmSlot (s : ListenerSlot) : Prop := ∀ l, s.installed = some l → l.Calm

theorem quiet_of_calm (h : CalmSlot d.classpath.slot) (e : Event) : d.classpath.Quiet e :=
  fun l hl => h l hl e

@[simp] theorem installed_tell (s : ListenerSlot) (task : Option Nat) (es : List Event) :
    (s.tell task es).installed = s.installed := rfl

theorem slot_ensure (d : Downloader) (c : Coordinate) (h : CalmSlot d.classpath.slot) :
    (d.ensure c).1.classpath.slot =
        d.classpath.slot.tell none (Happening.events (.requested c (d.ensure c).2)) ∧
      (d.ensure c).1.shared.appends = d.shared.appends := by
  have htold : (d.told c).classpath.slot = d.classpath.slot.tell none [.requested c] :=
    d.classpath.slot.fst_deliver none (.requested c)
  have hquiet : ∀ e, (d.told c).classpath.Quiet e := fun e =>
    quiet_of_calm (d := d.told c) (by rw [htold]; exact h) e
  have he := ensures_ensure d c
  generalize d.ensure c = r at he
  cases he with
  | requestPanic hn =>
    rw [(quiet_of_calm h _).deliver none] at hn
    cases hn
  | @skipPanic hit cp p hr hp hn =>
    have hnone := (hquiet (.available c)).notifyHit none hit
    rw [hn] at hnone
    cases hnone
  | @skip hit cp hr hp hn =>
    refine ⟨?_, rfl⟩
    show cp.slot = _
    rw [Classpath.slot_of_notifyHit hn, htold, ListenerSlot.tell_append]
    rfl
  | join | refuse | submit => exact ⟨htold, rfl⟩

theorem slot_alreadyAvailable (d : Downloader) (c : Coordinate) :
    (d.alreadyAvailable c).1.classpath.slot =
        d.classpath.slot.tell none (Happening.events (.inquired c (d.classpath.lookup c))) ∧
      (d.alreadyAvailable c).1.shared.appends = d.shared.appends := by
  refine ⟨?_, rfl⟩
  show (d.classpath.alreadyAvailable c).1.slot = _
  unfold Classpath.alreadyAvailable
  rcases d.classpath.lookup c with _ | hit
  · exact (ListenerSlot.tell_nil _ _).symm
  · dsimp only
    rcases hn : d.classpath.notifyHit none c hit with ⟨cp, _ | p⟩
    · exact Classpath.slot_of_notifyHit hn
    · exact Classpath.slot_of_notifyHit hn

theorem Ran.slot (hr : Ran d d' id j) (h : CalmSlot d.classpath.slot) :
    d'.classpath.slot = d.classpath.slot.tell (some id) (Registration.events (d.verdicts j)) ∧
      d'.shared.appends =
        d.shared.appends ++ (Registration.added (d.verdicts j)).map (Append.mk id) := by
  obtain ⟨happ, hslot⟩ := Registration.tells_verdicts_all d.shared.files (some id)
    d.config.settings.verifyArtifacts j.coordinate j.artifacts d.classpath (quiet_of_calm h)
  refine ⟨?_, ?_⟩
  · rw [classpath, hr.shared]
    exact hslot
  · rw [hr.appends]
    exact congrArg (fun as => d.shared.appends ++ as.map (Append.mk id)) happ

/-- What a chain of jobs has told the listener, and what it has added. -/
theorem Runs.slot (hr : Runs d log d') (h : CalmSlot d.classpath.slot) :
    d'.classpath.slot = log.foldl Happening.tell d.classpath.slot ∧
      d'.shared.appends = d.shared.appends ++ log.flatMap Happening.appends ∧
        d'.classpath.slot.installed = d.classpath.slot.installed := by
  induction hr with
  | refl => exact ⟨rfl, (List.append_nil _).symm, rfl⟩
  | other _ _ hs ha _ ih =>
    rw [← hs, ← ha]
    exact ih (by rw [hs]; exact h)
  | job hran _ ih =>
    obtain ⟨hslot, happ⟩ := hran.slot h
    obtain ⟨hs, ha, hi⟩ := ih (by rw [hslot]; exact h)
    rw [List.foldl_cons, List.flatMap_cons, hs, ha, happ, ← List.append_assoc]
    refine ⟨by rw [hslot]; rfl, rfl, ?_⟩
    rw [← hs, hi, hslot, installed_tell]

/-- The listeners that a run installs do not panic. -/
def CalmMoves (ms : List Move) : Prop := ∀ l, .act (.setListener (some l)) ∈ ms → l.Calm

theorem CalmMoves.tail {m : Move} (h : CalmMoves (m :: ms)) : CalmMoves ms :=
  fun l hl => h l (List.mem_cons_of_mem _ hl)

/-- **The slot after a run** has been told of its log, and the files that were added are those of
its log. -/
theorem slot_of_logged (hl : Logged d ms log) (h : CalmSlot d.classpath.slot)
    (hms : CalmMoves ms) :
    (d.moveAll ms).1.classpath.slot = log.foldl Happening.tell d.classpath.slot ∧
      (d.moveAll ms).1.shared.appends = d.shared.appends ++ log.flatMap Happening.appends ∧
        CalmSlot (d.moveAll ms).1.classpath.slot := by
  induction hl with
  | nil => exact ⟨rfl, (List.append_nil _).symm, h⟩
  | @request d ms log c _ ih =>
    obtain ⟨hslot, happ⟩ := slot_ensure d c h
    obtain ⟨hs, ha, hc⟩ := ih (by rw [hslot]; exact h) hms.tail
    rw [happ] at ha
    rw [hslot] at hs
    exact ⟨hs, ha, hc⟩
  | @inquire d ms log c _ ih =>
    obtain ⟨hslot, happ⟩ := slot_alreadyAvailable d c
    obtain ⟨hs, ha, hc⟩ := ih (by rw [hslot]; exact h) hms.tail
    rw [happ] at ha
    rw [hslot] at hs
    exact ⟨hs, ha, hc⟩
  | @install d ms log l _ ih =>
    refine ih (fun l' hl' => ?_) hms.tail
    obtain rfl : l = some l' := hl'
    exact hms l' List.mem_cons_self
  | @other d m ms jobs log _ hj _ ih =>
    obtain ⟨hslot, happ, hi⟩ := hj.slot h
    obtain ⟨hs, ha, hc⟩ := ih (fun l hl => h l (hi ▸ hl)) hms.tail
    rw [hslot] at hs
    rw [happ, List.append_assoc] at ha
    rw [List.foldl_append, List.flatMap_append]
    exact ⟨hs, ha, hc⟩

/-! ### With a listener at all times -/

/-- What was told, to whomever. -/
def heard (d : Downloader) : List Event := d.classpath.slot.deliveries.map Delivery.event

theorem deliveries_tell {s : ListenerSlot} (hs : s.isSet = true) (task : Option Nat)
    (es : List Event) :
    (s.tell task es).deliveries.map Delivery.event = s.deliveries.map Delivery.event ++ es := by
  obtain ⟨l, hl⟩ := Option.isSome_iff_exists.mp hs
  simp [ListenerSlot.tell, hl, Function.comp_def]

/-- A slot that is never emptied delivers everything. -/
theorem deliveries_foldl : ∀ {log : List Happening} {s : ListenerSlot}, s.isSet = true →
    .installed none ∉ log → (log.foldl Happening.tell s).deliveries.map Delivery.event =
      s.deliveries.map Delivery.event ++ log.flatMap Happening.events
  | [], s, _, _ => (List.append_nil _).symm
  | h :: log, s, hs, hlog => by
    have hnone : ∀ {s : ListenerSlot}, s.isSet = true → _ := fun hs =>
      deliveries_foldl hs fun hm => hlog (List.mem_cons_of_mem _ hm)
    rw [List.foldl_cons, List.flatMap_cons]
    cases h with
    | installed l =>
      have hset : l.isSome = true := by
        rcases l with _ | l
        · exact absurd List.mem_cons_self hlog
        · rfl
      exact hnone (s := s.install l) hset
    | requested | inquired | registered =>
      refine (hnone (s := s.tell _ _) hs).trans ?_
      rw [deliveries_tell hs, List.append_assoc]

/-- A run whose moves never empty the slot has a log without that. -/
theorem Runs.not_installed (hr : Runs d log d') (l : Option Listener) : .installed l ∉ log := by
  induction hr with
  | refl => exact List.not_mem_nil
  | other _ _ _ _ _ ih => exact ih
  | job _ _ ih =>
    intro hm
    rcases List.mem_cons.mp hm with heq | hm
    · cases heq
    · exact ih hm

theorem Logged.installed (hl : Logged d ms log) {l : Option Listener}
    (hm : .installed l ∈ log) : .act (.setListener l) ∈ ms := by
  induction hl with
  | nil => cases hm
  | request _ _ ih | inquire _ _ ih =>
    rcases List.mem_cons.mp hm with heq | hm
    · cases heq
    · exact List.mem_cons_of_mem _ (ih hm)
  | install _ _ ih =>
    rcases List.mem_cons.mp hm with heq | hm
    · cases heq
      exact List.mem_cons_self
    · exact List.mem_cons_of_mem _ (ih hm)
  | other _ hj _ ih =>
    rcases List.mem_append.mp hm with hm | hm
    · exact absurd hm (hj.not_installed l)
    · exact List.mem_cons_of_mem _ (ih hm)

/-! ### The events of each kind -/

/-- What a log says of each kind of event. -/
structure Tallies (requests : List Coordinate) (log : List Happening) : Prop where
  requested : (log.flatMap Happening.events).filterMap Event.requested? = requests
  added : (log.flatMap Happening.events).filterMap Event.added? =
    (log.flatMap Happening.appends).map fun x => (x.artifact.coordinate, x.artifact.file)
  available : (log.flatMap Happening.events).filterMap Event.available? =
    log.flatMap Happening.present

theorem Tallies.nil : Tallies [] [] := ⟨rfl, rfl, rfl⟩

theorem Tallies.append {requests requests' : List Coordinate} {log' : List Happening}
    (h : Tallies requests log) (h' : Tallies requests' log') :
    Tallies (requests ++ requests') (log ++ log') where
  requested := by
    rw [List.flatMap_append, List.filterMap_append, h.requested, h'.requested]
  added := by
    rw [List.flatMap_append, List.filterMap_append, h.added, h'.added, List.flatMap_append,
      List.map_append]
  available := by
    rw [List.flatMap_append, List.filterMap_append, h.available, h'.available,
      List.flatMap_append]

theorem tallies_requested (c : Coordinate) (answer : Except Failure Ensured) :
    Tallies [c] [.requested c answer] := by
  rcases answer with f | ⟨⟨_ | _ | _⟩⟩ | h | h <;> exact ⟨rfl, rfl, rfl⟩

theorem tallies_inquired (c : Coordinate) (hit : Option Hit) :
    Tallies [] [.inquired c hit] := by
  rcases hit with _ | _ | _ | _ <;> exact ⟨rfl, rfl, rfl⟩

theorem tallies_registered (d : Downloader) (id : Nat) (j : Found) :
    Tallies [] [.registered id (d.verdicts j)] := by
  have hnamed := Registration.named_verdictsAll (t := d.shared.files)
    d.config.settings.verifyArtifacts j.artifacts d.classpath
  refine ⟨?_, ?_, ?_⟩ <;> rw [List.flatMap_cons, List.flatMap_nil, List.append_nil]
  · exact Registration.requested_events _
  · refine (Registration.added_events _).trans ?_
    simp [Happening.appends, Function.comp_def]
  · rw [List.flatMap_cons, List.flatMap_nil, List.append_nil]
    exact Registration.available_events hnamed

theorem Runs.tallies (hr : Runs d log d') : Tallies [] log := by
  induction hr with
  | refl => exact .nil
  | other _ _ _ _ _ ih => exact ih
  | job _ _ ih => exact (tallies_registered _ _ _).append ih

theorem Logged.tallies (hl : Logged d ms log) : Tallies (requested ms) log := by
  induction hl with
  | nil => exact .nil
  | request c _ ih => exact (tallies_requested c _).append ih
  | inquire c _ ih => exact (tallies_inquired c _).append ih
  | install l _ ih => exact (Tallies.append ⟨rfl, rfl, rfl⟩ ih : Tallies _ ([.installed l] ++ _))
  | @other d m ms jobs log hm hj _ ih =>
    have hnone : requested (m :: ms) = [] ++ requested ms := by
      rcases m with ⟨_ | _ | _ | _ | _ | _ | _ | _ | _⟩ | _ | _ | _ | _ | _ <;>
        first | rfl | cases hm
    rw [hnone]
    exact hj.tallies.append ih

/-! ### Jobs that are not alone -/

/-- What a job is that is run now while others are at work. -/
def registrationAmid (d : Downloader) (id : Nat) (j : Found) (trees : Nat → FileTree)
    (others : Nat → Classpath → Classpath) : Registered :=
  Registration.allAmid trees others d.shared.files (some id) d.config.settings.verifyArtifacts
    j.coordinate j.artifacts d.classpath

/-- Its turns. -/
def turnsAmid (d : Downloader) (id : Nat) (j : Found) (trees : Nat → FileTree)
    (others : Nat → Classpath → Classpath) : List Registration.Turn :=
  Registration.turns trees others d.shared.files (some id) d.config.settings.verifyArtifacts
    j.coordinate j.artifacts d.classpath

/-- What the listeners see of a job with these turns that is not alone and leaves this behind. -/
structure HeardAmid (id : Nat) (cp : Classpath) (xs : List Registration.Turn) (r : Registered) :
    Prop extends Registration.TellsAmid (some id) cp xs r where
  /-- With a listener at all turns, the files that were told to be added are those that the job has
  added, in order. -/
  added : (∀ x ∈ xs, x.slot.isSet = true) →
    ((xs.flatMap (·.deliveries (some id))).map Delivery.event).filterMap Event.added? =
      r.appended.map fun a => (a.coordinate, a.file)
  /-- With a listener at all turns, the artifacts that were told to be available are those with a
  name that were found present, in order. -/
  available : (∀ x ∈ xs, x.slot.isSet = true) →
    ((xs.flatMap (·.deliveries (some id))).map Delivery.event).filterMap Event.available? =
      Registration.reported (xs.map Registration.Turn.result)

theorem heardAmid {trees : Nat → FileTree} {others : Nat → Classpath → Classpath}
    (hq : ∀ e, d.classpath.Quiet e) (ho : Registration.Elsewhere (some id) others) :
    HeardAmid id d.classpath (d.turnsAmid id j trees others)
      (d.registrationAmid id j trees others) := by
  have htells : Registration.TellsAmid (some id) d.classpath (d.turnsAmid id j trees others)
      (d.registrationAmid id j trees others) := Registration.tells_amid ho _ _ _ hq
  refine ⟨htells, fun hset => ?_, fun hset => ?_⟩
  · rw [Registration.events_turns hset, Registration.added_events]
    exact congrArg (List.map _) htells.appended.symm
  · rw [Registration.events_turns hset]
    exact Registration.available_events (Registration.named_turns _ _ _)

/-! ### What the listener sees -/

/-- **What the listeners see of a run** of a downloader, and how that agrees with the log of the run
and with what its tasks have added. -/
structure Sees (d : Downloader) (ms : List Move) (log : List Happening) : Prop where
  logged : Logged d ms log
  /-- Every event of the log goes to the listener that is installed when it happens, and to nobody
  if there is none. -/
  slot : (d.moveAll ms).1.classpath.slot = log.foldl Happening.tell d.classpath.slot
  /-- The files that tasks have added are those of the log. -/
  appends : (d.moveAll ms).1.shared.appends = log.flatMap Happening.appends
  /-- A request is told before anything else that is told in it. -/
  first : ∀ before c after, ms = before ++ .act (.ensure c) :: after →
    let d₁ := (d.moveAll before).1
    (d₁.ensure c).1.classpath.slot = d₁.classpath.slot.tell none
      (.requested c :: match (d₁.ensure c).2 with
        | .ok (.skipped hit) => hit.events c
        | _ => [])
  /-- With a listener at all times, the requests that were told are those of the run, in order. -/
  requested : d.classpath.slot.isSet = true → .act (.setListener none) ∉ ms →
    (d.moveAll ms).1.heard.filterMap Event.requested? = requested ms
  /-- With a listener at all times, the files that were told to be added are those that tasks have
  added, in order. -/
  added : d.classpath.slot.isSet = true → .act (.setListener none) ∉ ms →
    (d.moveAll ms).1.heard.filterMap Event.added? =
      (d.moveAll ms).1.shared.appends.map fun x => (x.artifact.coordinate, x.artifact.file)
  /-- With a listener at all times, the artifacts that were told to be available are those of the
  log that were found present. -/
  available : d.classpath.slot.isSet = true → .act (.setListener none) ∉ ms →
    (d.moveAll ms).1.heard.filterMap Event.available? = log.flatMap Happening.present
  /-- At all times, a job that is not alone tells the listeners that are installed when its turns
  come, whatever others do between these. -/
  amid : ∀ d₁ id (j : Found) (trees : Nat → FileTree) (others : Nat → Classpath → Classpath),
    Later d d₁ → (∀ e, d₁.classpath.Quiet e) → Registration.Elsewhere (some id) others →
      HeardAmid id d₁.classpath (d₁.turnsAmid id j trees others)
        (d₁.registrationAmid id j trees others)

theorem slot_of_build {b : Builder} {files : FileTree} {environment : String → Option Bytes}
    (h : b.build files environment = .ok d) : d.classpath.slot = .holding b.listener := by
  obtain ⟨boot, loader, rfl⟩ := eq_of_build h
  rfl

/-- **The listener sees exactly what happened**, in every run in which no listener panics and jobs
are run one after another, and of every job that is not alone. -/
theorem listener_sees {b : Builder} {files : FileTree} {environment : String → Option Bytes}
    (hb : b.build files environment = .ok d) (hl : ∀ l, b.listener = some l → l.Calm)
    (ms : List Move) (hms : CalmMoves ms) : ∃ log, Sees d ms log := by
  have hcalm : CalmSlot d.classpath.slot := by
    rw [slot_of_build hb]
    exact hl
  have hnone : d.classpath.slot.deliveries = [] := by
    rw [slot_of_build hb]
    rfl
  obtain ⟨log, hlog⟩ := exists_logged ms d
  obtain ⟨hslot, happ, -⟩ := slot_of_logged hlog hcalm hms
  rw [appends_of_build hb, List.nil_append] at happ
  have hheard : d.classpath.slot.isSet = true → .act (.setListener none) ∉ ms →
      (d.moveAll ms).1.heard = log.flatMap Happening.events := by
    intro hset hempty
    rw [heard, hslot, deliveries_foldl hset fun hm => hempty (hlog.installed hm), hnone]
    rfl
  refine ⟨log, hlog, hslot, happ, ?_, ?_, ?_, ?_, fun _ _ _ _ _ _ hq ho => heardAmid hq ho⟩
  · rintro before c after rfl
    obtain ⟨log₁, hlog₁⟩ := exists_logged before d
    have hbefore : CalmMoves before := fun l hl => hms l (List.mem_append_left _ hl)
    exact (slot_ensure _ c (slot_of_logged hlog₁ hcalm hbefore).2.2).1
  · intro hset hempty
    rw [hheard hset hempty, hlog.tallies.requested]
  · intro hset hempty
    rw [hheard hset hempty, hlog.tallies.added, happ]
  · intro hset hempty
    rw [hheard hset hempty, hlog.tallies.available]

/-- A download that finds one artifact present, adds the next and then finds that one present, with
another listener than the one that was told of the request; after it a request and an inquiry that
hit. -/
theorem listener_sees_exchange :
    let root : Coordinate := ⟨"org", "lib", some "1.0"⟩
    let lib : Artifact := ⟨root, ⟨"/lib-1.0"⟩, none⟩
    let core : Artifact := ⟨⟨"org", "core", none⟩, ⟨"/core.jar"⟩, none⟩
    let d := plain (fun _ _ => ⟨[], .artifacts [core, lib, lib]⟩) (some ⟨"a", fun _ => none⟩) none
      ⟨[(["core.jar"], .file []), (["lib-1.0"], .file [])], []⟩
    let ms : List Move := [.act (.addFile core.file), .act (.ensure root), .look 0,
      .act (.setListener (some ⟨"b", fun _ => none⟩)), .job 0, .look 0, .act (.ensure root),
      .act (.inquire core.coordinate)]
    (d.moveAll ms).1.classpath.slot.deliveries =
        [⟨"a", .requested root, none⟩, ⟨"b", .available core.coordinate, some 0⟩,
          ⟨"b", .added root lib.file, some 0⟩, ⟨"b", .available root, some 0⟩,
          ⟨"b", .requested root, none⟩, ⟨"b", .available root, none⟩,
          ⟨"b", .available core.coordinate, none⟩] ∧
      (d.moveAll ms).1.heard.filterMap Event.requested? = [root, root] := by
  intro root lib core d ms
  have hms : CalmMoves ms := by
    intro l hl
    have hb : l = ⟨"b", fun _ => none⟩ := by simpa [ms] using hl
    rw [hb]
    exact fun _ => rfl
  have hcalm : ∀ l, (some ⟨"a", fun _ => none⟩ : Option Listener) = some l → l.Calm := by
    rintro l ⟨⟩
    exact fun _ => rfl
  obtain ⟨log, hsees⟩ := listener_sees (build_plain _ _ _ _ fun _ => none) hcalm ms hms
  exact ⟨by decide +kernel, hsees.requested rfl (by simp [ms])⟩

end Downloader

end ArtifactFetch
