import ArtifactFetch.Proofs.Downloader.Shutdown

/-! # Everybody who waits gets the same

A download has at most one result, and it belongs to the download and not to its key: later
downloads of the key leave it alone. So all handles of a download, from the request that started it
and from those that joined it, show the same result to everybody who waits, whenever that is, and
once one of them has got it, `peek` shows it as well (`waiters_agree`).

Here a wait is one move. Somebody who waits while others do things comes to the result by a wait
without patience, which lets nothing happen and only looks; a run may have any number of these
between any two of its other moves. -/

namespace ArtifactFetch.Downloader

variable {d : Downloader} {h h' : Handle} {r : Outcome} {ws : List (Nat × Outcome)}

/-! ### Waits that came to an end -/

/-- The task of a wait and the result that it gave. -/
def Move.waited? : Move → Response → Option (Nat × Outcome)
  | .act (.wait h _), .waited (some r) => some (h.task, r)
  | _, _ => none

/-- The waits of a run that gave a result, in the order of time. -/
def waited (ms : List Move) (rs : List Response) : List (Nat × Outcome) :=
  (ms.zip rs).filterMap fun x => x.1.waited? x.2

theorem waited_cons (m : Move) (ms : List Move) (r : Response) (rs : List Response) :
    waited (m :: ms) (r :: rs) = (m.waited? r).toList ++ waited ms rs := by
  unfold waited
  rw [List.zip_cons_cons, List.filterMap_cons]
  rcases m.waited? r with _ | w <;> rfl

/-- These waits have come to an end: they gave the results of their tasks, and what somebody has
waited for are their tasks. -/
structure Waited (d : Downloader) (ws : List (Nat × Outcome)) : Prop where
  results : ∀ i r, (i, r) ∈ ws → d.pool.result? i = some r
  observed : ∀ i, i ∈ d.observed ↔ ∃ r, (i, r) ∈ ws

theorem observed_ensure (d : Downloader) (c : Coordinate) :
    (d.ensure c).1.observed = d.observed := by
  have he := ensures_ensure d c
  generalize d.ensure c = result at he ⊢
  cases he with
  | requestPanic | join | skip | skipPanic | refuse | submit => rfl

theorem observed_wait (d : Downloader) (h : Handle) (patience : Nat) :
    (d.wait h patience).1.observed = match (d.wait h patience).2 with
      | some _ => h.task :: d.observed
      | none => d.observed := by
  have hw := waits_wait d h patience
  generalize d.wait h patience = result at hw ⊢
  cases hw with
  | result | nothing => rfl

/-- One move ends at most one wait, and nothing else counts as waiting. -/
theorem observed_move (d : Downloader) (m : Move) : (d.move m).1.observed =
    ((m.waited? (d.move m).2).map Prod.fst).toList ++ d.observed := by
  cases m with
  | act a =>
    cases a with
    | ensure c => exact observed_ensure d c
    | wait h patience =>
      have hwait := observed_wait d h patience
      show (d.wait h patience).1.observed =
        ((Move.waited? _ (.waited (d.wait h patience).2)).map Prod.fst).toList ++ d.observed
      rcases hr : (d.wait h patience).2 with _ | r <;> rw [hr] at hwait <;> exact hwait
    | advance | release | shutdown | setListener | setFiles | addFile | inquire => rfl
  | look | job | tick | close | cancel | lock => rfl

/-- What a wait gives is the result of its task. -/
theorem result?_of_waited {m : Move} {i : Nat} (hw : m.waited? (d.move m).2 = some (i, r)) :
    (d.move m).1.pool.result? i = some r := by
  cases m with
  | act a =>
    cases a with
    | wait h patience =>
      change Move.waited? _ (.waited (d.wait h patience).2) = _ at hw
      rcases hr : (d.wait h patience).2 with _ | r' <;> rw [hr] at hw <;> cases hw
      exact (result?_wait h patience).trans hr
    | ensure | advance | release | shutdown | setListener | setFiles | addFile | inquire => cases hw
  | look | job | tick | close | cancel | lock => cases hw

namespace Waited

theorem move (hs : Waited d ws) (m : Move) :
    Waited (d.move m).1 (ws ++ (m.waited? (d.move m).2).toList) where
  results i r hm := by
    rcases List.mem_append.mp hm with hm | hm
    · exact result?_moveAll (x := ⟨"", i⟩) (hs.results i r hm) [m]
    · exact result?_of_waited (Option.mem_toList.mp hm)
  observed i := by
    rw [observed_move, List.mem_append, hs.observed]
    simp only [List.mem_append, exists_or, Option.mem_toList, Option.map_eq_some_iff, Prod.exists,
      exists_and_right, exists_eq_right]
    exact or_comm

theorem moveAll : ∀ (ms : List Move) {d : Downloader} {ws : List (Nat × Outcome)}, Waited d ws →
    Waited (d.moveAll ms).1 (ws ++ waited ms (d.moveAll ms).2)
  | [], d, ws, hs => by
    rw [moveAll_nil, waited, List.zip_nil_left, List.filterMap_nil, List.append_nil]
    exact hs
  | m :: ms, d, ws, hs => by
    rw [moveAll_cons, waited_cons, ← List.append_assoc]
    exact moveAll ms (hs.move m)

theorem peek_of_mem (hs : Waited d ws) (hm : (h.task, r) ∈ ws) : d.peek h = some r := by
  unfold peek
  rw [if_pos ((hs.observed h.task).mpr ⟨r, hm⟩)]
  exact hs.results _ _ hm

theorem peek_eq_none_iff (hs : Waited d ws) : d.peek h = none ↔ ∀ r, (h.task, r) ∉ ws := by
  constructor
  · intro hnone r hm
    rw [hs.peek_of_mem hm] at hnone
    cases hnone
  · intro hall
    unfold peek
    rw [if_neg]
    rw [hs.observed]
    rintro ⟨r, hm⟩
    exact hall r hm

end Waited

/-- In every run, the waits that gave results have come to an end. -/
theorem waited_moveAll {b : Builder} {files : FileTree} {environment : String → Option Bytes}
    (hb : b.build files environment = .ok d) (ms : List Move) :
    Waited (d.moveAll ms).1 (waited ms (d.moveAll ms).2) := by
  have hnone : Waited d [] := by
    obtain ⟨boot, loader, rfl⟩ := eq_of_build hb
    exact ⟨fun i r hm => absurd hm List.not_mem_nil, fun i => by simp⟩
  exact hnone.moveAll ms

/-! ### All handles of a download -/

/-- A wait without patience lets nothing happen. -/
theorem pool_wait_zero (d : Downloader) (h : Handle) : (d.wait h 0).1.pool = d.pool := by
  rw [pool_wait]
  exact ite_self _

/-- A wait goes on until the download has ended or the patience is over. -/
theorem wait_stops (d : Downloader) (h : Handle) (patience : Nat) :
    (d.wait h patience).1.pool.now ≤ d.pool.now + patience ∧
      ((d.wait h patience).2 = none →
        (d.wait h patience).1.pool.now = d.pool.now + patience) := by
  rw [← result?_wait, result?, pool_wait]
  exact Pool.await_stops h.task patience d.pool

/-- A wait for a download that has ended gives its result. -/
theorem wait_of_result (hr : d.result? h = some r) (patience : Nat) :
    (d.wait h patience).2 = some r :=
  (result?_wait h patience).symm.trans (result?_moveAll hr [.act (.wait h patience)])

/-- In a cancelled pool a look at a download ends it. -/
theorem isSome_result?_look_of_cancelled (hc : d.pool.cancelled = true) (hm : h ∈ d.handles) :
    ((d.move (.look h.task)).1.result? h).isSome := by
  obtain ⟨c, ph, hst, -⟩ := mem_handles.mp (handles_subset d [.look h.task] hm)
  have hended := Pool.ended_poll_of_cancelled (w := d.config.workload) hc hst
  rw [Option.isSome_iff_ne_none]
  intro hnone
  rw [(isLive_iff_of_stage hst).mpr hnone] at hended
  cases hended

/-- It abandons the download, unless that goes on once more or has ended. -/
theorem result?_look_of_cancelled (hc : d.pool.cancelled = true) (hm : h ∈ d.handles)
    (hw : d.config.runtime.workFirst h.task = false) (hr : d.result? h = none) :
    (d.move (.look h.task)).1.result? h = some (.error (.cancelled h.key)) := by
  obtain ⟨c, ph, hst, hk⟩ := mem_handles.mp hm
  have hpoll := Pool.stage_poll_of_abandoned (w := d.config.workload) hc hw hst
    ((isLive_iff_of_stage hst).mpr hr)
  rw [← hk]
  exact result?_of_stage (d := (d.move (.look h.task)).1) hpoll

/-- **What the handles of a download show**, in a run from `d₀` to `d` in which these handles were
handed out and these waits gave results. -/
structure WaitersAgree (d₀ d : Downloader) (handed : List Handle) (ws : List (Nat × Outcome))
    (h : Handle) : Prop where
  /-- All its handles are equal, also those that are handed out later. -/
  alike : ∀ h' ∈ handed, h'.task = h.task → h' = h
  later : ∀ ns, ∀ h' ∈ handedOut (d.moveAll ns).2, h'.task = h.task → h' = h
  /-- A wait gives the result that is there at its end. -/
  waits : ∀ patience, (d.wait h patience).2 = (d.wait h patience).1.result? h
  /-- It goes on until the download has ended, or its patience is over. -/
  persists : ∀ patience, (d.wait h patience).1.pool.now ≤ d.pool.now + patience ∧
    ((d.wait h patience).2 = none → (d.wait h patience).1.pool.now = d.pool.now + patience)
  /-- Without patience it lets nothing happen. -/
  glance : (d.wait h 0).1.pool = d.pool
  /-- From the end of the download on every wait gives its result. -/
  ended : ∀ r, d.result? h = some r → ∀ ns patience, ((d.moveAll ns).1.wait h patience).2 = some r
  /-- All waits that gave results gave the same. -/
  agree : ∀ r r', (h.task, r) ∈ ws → (h.task, r') ∈ ws → r = r'
  /-- Nothing can be seen until one of them has. -/
  unseen : d.peek h = none ↔ ∀ r, (h.task, r) ∉ ws
  /-- From then on its result can be seen, whatever follows, and every wait gives it. -/
  seen : ∀ r, (h.task, r) ∈ ws → ∀ ns, (d.moveAll ns).1.peek h = some r ∧
    ∀ patience, ((d.moveAll ns).1.wait h patience).2 = some r
  /-- The result is the own outcome of the download, or the download was abandoned. -/
  outcome : ∀ r, d.result? h = some r →
    Own d₀ d h r ∨ d.pool.cancelled = true ∧ r = .error (.cancelled h.key)
  /-- In a cancelled pool a look at the download ends it. -/
  ends : d.pool.cancelled = true → ((d.move (.look h.task)).1.result? h).isSome
  /-- Unless it goes on once more or has ended, the look abandons it. -/
  abandoned : d.pool.cancelled = true → d.config.runtime.workFirst h.task = false →
    d.result? h = none → (d.move (.look h.task)).1.result? h = some (.error (.cancelled h.key))

/-- **Waiters agree**, in every run and for every download, whatever else happens under its key. -/
theorem waiters_agree {b : Builder} {files : FileTree} {environment : String → Option Bytes}
    (hb : b.build files environment = .ok d) (ms : List Move) :
    ∀ h ∈ handedOut (d.moveAll ms).2,
      WaitersAgree d (d.moveAll ms).1 (handedOut (d.moveAll ms).2) (waited ms (d.moveAll ms).2)
        h := by
  intro h hh
  have horder := (inOrder_of_build hb).1
  have hsub := handedOut_subset ms horder
  have hsub' := fun ns => handedOut_subset ns (horder.moveAll ms)
  have hwaited := waited_moveAll hb ms
  have hsound := (outcomesSound_of_build hb (later_moveAll d ms)).1
  have hlater : ∀ ns, Waited ((d.moveAll ms).1.moveAll ns).1 (waited ms (d.moveAll ms).2 ++ _) :=
    fun ns => hwaited.moveAll ns
  have hm := hsub hh
  generalize handedOut (d.moveAll ms).2 = handed at hsub ⊢
  generalize waited ms (d.moveAll ms).2 = ws at hwaited hlater ⊢
  generalize (d.moveAll ms).1 = d' at *
  exact {
    alike := fun h' hh' ht => handle_unique hm (hsub hh') ht
    later := fun ns h' hh' ht => handle_unique (handles_subset d' ns hm) (hsub' ns hh') ht
    waits := fun patience => (result?_wait h patience).symm
    persists := wait_stops d' h
    glance := pool_wait_zero d' h
    ended := fun r hr ns patience => wait_of_result (result?_moveAll hr ns) patience
    agree := fun r r' hr hr' =>
      Option.some.inj ((hwaited.results _ _ hr).symm.trans (hwaited.results _ _ hr'))
    unseen := hwaited.peek_eq_none_iff
    seen := fun r hr ns => ⟨(hlater ns).peek_of_mem (List.mem_append_left _ hr),
      wait_of_result (result?_moveAll (hwaited.results _ _ hr) ns)⟩
    outcome := fun r hr => own_or_cancelled hsound hm hr
    ends := fun hc => isSome_result?_look_of_cancelled hc hm
    abandoned := fun hc hw hr => result?_look_of_cancelled hc hm hw hr }

/-- A download that is joined fails, and a second one of its key is given to the resolver, which
panics. Both handles of the first go on to show its failure. -/
theorem waiters_agree_second_panics :
    let c : Coordinate := ⟨"org", "a", none⟩
    let first : Handle := ⟨"org:a", 0⟩
    let second : Handle := ⟨"org:a", 1⟩
    let d := plain (fun earlier _ => match earlier.length with
      | 0 => ⟨[], .error .shuttingDown⟩
      | _ => ⟨[], .panic ⟨some "broken"⟩⟩) none none ⟨[], []⟩
    let ms : List Move := [.act (.ensure c), .act (.ensure c), .act (.wait first 1),
      .act (.ensure c), .act (.wait second 1)]
    let d' := (d.moveAll ms).1
    let handed := handedOut (d.moveAll ms).2
    let ws := waited ms (d.moveAll ms).2
    handed = [first, first, second] ∧
      ws = [(0, .error .shuttingDown), (1, .error (.taskPanicked "org:a" "broken"))] ∧
      d'.peek first = some (.error .shuttingDown) ∧
      WaitersAgree d d' handed ws first ∧ WaitersAgree d d' handed ws second := by
  intro c first second d ms d' handed ws
  have hhanded : handed = [first, first, second] := by decide +kernel
  have hagree : ∀ h ∈ handed, WaitersAgree d d' handed ws h :=
    waiters_agree (build_plain _ _ _ _ fun _ => none) ms
  exact ⟨hhanded, by decide +kernel, by decide +kernel, hagree first (by simp [hhanded]),
    hagree second (by simp [hhanded])⟩

end ArtifactFetch.Downloader
