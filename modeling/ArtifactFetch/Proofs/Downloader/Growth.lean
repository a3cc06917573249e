import ArtifactFetch.Proofs.Downloader.Additions

/-! # The class loader of a downloader only grows

In every run, the entries of the class loader at one moment are the first of those at any later
moment, and what a lookup has found it finds again, for the same reason (`only_grows`). Every new
entry is the path of a file that the class loader accepted in between, for the host or for a job; a
file that it refuses leaves no trace. This holds of jobs that succeed, fail or panic, and between
the turns of a job as well, even if others are at work then (`grows_midway`,
`eachAmid_of_refused`). -/

namespace ArtifactFetch

namespace Registration

variable {t : FileTree} {task : Option Nat} {cp : Classpath} {as : List Artifact} {s : Summary}
  {r : Registered}

/-- What a registration adds, the class loader has accepted. -/
theorem Registers.accepted (h : Registers t task as cp s r) :
    ∀ a ∈ r.appended, cp.loader.check t a.file = .ok () := by
  induction h with
  | done | refuse | reportPanic => exact fun a ha => absurd ha List.not_mem_nil
  | report _ hn _ ih =>
    rw [← Classpath.loader_of_notifyHit hn]
    exact ih
  | addPanic _ ha => exact List.forall_mem_singleton.mpr (Classpath.check_of_addFile ha)
  | add _ ha hn _ ih =>
    have hg := (Classpath.grows_of_addFile ha).trans (Classpath.grows_of_deliver hn)
    rw [hg.check] at ih
    exact List.forall_mem_cons.mpr ⟨Classpath.check_of_addFile ha, ih⟩

theorem accepted_all (t : FileTree) (task : Option Nat) (verify : Bool) (root : Coordinate)
    (artifacts : List Artifact) (cp : Classpath) :
    ∀ a ∈ (all t task verify root artifacts cp).appended, cp.loader.check t a.file = .ok () := by
  obtain ⟨e, -, -, h⟩ | ⟨-, h⟩ := all_eq t task verify root artifacts cp
  · rw [h]
    exact fun a ha => absurd ha List.not_mem_nil
  · rw [h]
    exact (registers_each _ _ _).accepted

/-! ### Moments within a registration -/

section Amid
variable {trees : Nat → FileTree} {others : Nat → Classpath → Classpath}

/-- A registration of some artifacts and others behind them does the first part and, if that goes
well, the other. -/
theorem eachAmid_append (before after : List Artifact) (n : Nat) (cp : Classpath) (s : Summary) :
    eachAmid trees others task n (before ++ after) cp s =
      let mid := eachAmid trees others task n before cp s
      match mid.result with
      | .error _ => mid
      | .ok done =>
        let r := eachAmid trees others task (n + before.length) after mid.classpath done
        { r with appended := mid.appended ++ r.appended } := by
  induction before generalizing n cp s with
  | nil => simp [eachAmid]
  | cons a before ih =>
    have turns : n + (a :: before).length = n + 1 + before.length := by
      rw [List.length_cons, Nat.add_right_comm, Nat.add_assoc]
    rw [List.cons_append, eachAmid, eachAmid, turns]
    dsimp only
    rcases hr : (each (trees n) task [a] (others n cp) s).result with f | done
    · simp only [hr]
    · simp only [ih]
      rcases eachAmid trees others task (n + 1) before
        (each (trees n) task [a] (others n cp) s).classpath done with ⟨cp', appended, f | done'⟩
      · rfl
      · simp only [List.append_assoc]

theorem grows_eachAmid (ho : ∀ n (cp : Classpath), cp.Grows (others n cp)) :
    ∀ (as : List Artifact) (n : Nat) (cp : Classpath) (s : Summary),
      cp.Grows (eachAmid trees others task n as cp s).classpath
  | [], _, cp, _ => .refl cp
  | a :: rest, n, cp, s => by
    have hreg : Registers (trees n) task [a] (others n cp) s _ := registers_each _ _ _
    have hg := (ho n cp).trans hreg.grows
    unfold eachAmid
    dsimp only
    split
    · exact hg
    · exact hg.trans (grows_eachAmid ho rest (n + 1) _ _)

/-- **A classpath grows between any two turns of a registration**, and from there to its end. -/
theorem grows_midway (ho : ∀ n (cp : Classpath), cp.Grows (others n cp))
    (before after : List Artifact) (n : Nat) (cp : Classpath) (s : Summary) :
    (eachAmid trees others task n before cp s).classpath.Grows
      (eachAmid trees others task n (before ++ after) cp s).classpath := by
  rw [eachAmid_append]
  dsimp only
  split
  · exact .refl _
  · exact grows_eachAmid ho after _ _ _

/-- A registration ends where the class loader refuses a file, with the classpath that there was at
that turn. -/
theorem eachAmid_of_refused {before after : List Artifact} {a : Artifact} {n : Nat} {s' : Summary}
    {here : Classpath} {f : Failure}
    (hs : (eachAmid trees others task n before cp s).result = .ok s')
    (hh : others (n + before.length) (eachAmid trees others task n before cp s).classpath = here)
    (hl : here.lookup a.coordinate = none)
    (hf : (here.addFile (trees (n + before.length)) a.file).2 = .error f) :
    eachAmid trees others task n (before ++ a :: after) cp s =
      ⟨here, (eachAmid trees others task n before cp s).appended, .error f⟩ := by
  have ha : here.addFile (trees (n + before.length)) a.file = (here, .error f) :=
    Classpath.addFile_of_error ((Classpath.snd_addFile _ _ _).symm.trans hf)
  have turn : each (trees (n + before.length)) task [a] here s' = ⟨here, [], .error f⟩ :=
    (Registers.refuse hl ha).eq_each
  rw [eachAmid_append]
  dsimp only
  rw [hs]
  dsimp only
  rw [eachAmid, hh, turn]
  exact congrArg (fun appended => Registered.mk here appended (.error f)) (List.append_nil _)

end Amid

end Registration

namespace Downloader

variable {R : Coordinate → Prop} {d d' d'' : Downloader} {p : Path}

/-! ### Additions -/

/-- A file that the class loader refuses leaves no trace. -/
theorem addFile_of_refused {f : Failure} (h : (d.addFile p).2 = .error f) :
    (d.addFile p).1 = d := by
  have hf : d.classpath.addFile d.shared.files p = (d.classpath, .error f) :=
    Classpath.addFile_of_error ((Classpath.snd_addFile _ _ _).symm.trans h)
  rw [addFile, hf]
  rfl

/-- In the step from `d` to `d'` a file is added that the class loader accepts. -/
inductive Adds (d d' : Downloader) (p : Path) : Prop
  /-- The host adds it. -/
  | host (h : d.addFile p = (d', .ok ()))
  /-- A job adds it, be it that the job then fails or panics. -/
  | job {id : Nat} {j : Found} {a : Artifact} (h : Ran d d' id j)
    (ha : a ∈ (d.registration id j).appended) (hp : a.file = p)

theorem Adds.accepted (h : Adds d d' p) : d.classpath.loader.check d.shared.files p = .ok () := by
  cases h with
  | host h => rw [← Classpath.snd_addFile]; exact congrArg Prod.snd h
  | job _ ha hp => rw [← hp]; exact Registration.accepted_all _ _ _ _ _ _ _ ha

/-- Apart from jobs and files that the host adds, no change concerns the class loader. -/
theorem adds_or_same (h : Change R d d') : (∃ id j, Ran d d' id j) ∨ (∃ p, d' = (d.addFile p).1) ∨
    d'.classpath.loader = d.classpath.loader := by
  cases h with
  | pool h => exact (ran_or_still h).imp_right fun hs => .inr (congrArg Classpath.loader hs.1)
  | add p => exact .inr (.inl ⟨p, rfl⟩)
  | tell | install | replace | submit | observe => exact .inr (.inr rfl)

/-- **What a change adds to the class loader**: new entries, each of a file that was accepted. -/
theorem entries_change (h : Change R d d') : ∃ new,
    d'.classpath.loader.entries = d.classpath.loader.entries ++ new ∧
      ∀ e ∈ new, ∃ p, Adds d d' p ∧ p.text = e := by
  obtain ⟨id, j, hran⟩ | ⟨p, rfl⟩ | hsame := adds_or_same h
  · refine ⟨_, hran.entries, fun e he => ?_⟩
    obtain ⟨a, ha, rfl⟩ := List.mem_map.mp he
    exact ⟨a.file, .job hran ha rfl, rfl⟩
  · rcases hr : (d.addFile p).2 with f | ⟨⟩
    · rw [addFile_of_refused hr]
      exact ⟨[], (List.append_nil _).symm, fun e he => absurd he List.not_mem_nil⟩
    · have hcp : (d.classpath.addFile d.shared.files p).1 = d.classpath.withEntry p :=
        Classpath.fst_addFile_of_ok (Prod.ext rfl hr)
      refine ⟨[p.text], congrArg (fun cp => cp.loader.entries) hcp, ?_⟩
      exact List.forall_mem_singleton.mpr ⟨p, .host (Prod.ext rfl hr), rfl⟩
  · exact ⟨[], by rw [hsame, List.append_nil], fun e he => absurd he List.not_mem_nil⟩

/-- In a run from `d` to `d'`, the file of an entry is added, and was accepted. -/
def AddedBetween (d d' : Downloader) (e : String) : Prop :=
  ∃ d₁ d₂ p, Later d d₁ ∧ Adds d₁ d₂ p ∧ Later d₂ d' ∧ p.text = e ∧
    d₁.classpath.loader.check d₁.shared.files p = .ok ()

theorem AddedBetween.later {e : String} (h : AddedBetween d d' e) (hl : Later d' d'') :
    AddedBetween d d'' e := by
  obtain ⟨d₁, d₂, p, h₁, ha, h₂, hrest⟩ := h
  exact ⟨d₁, d₂, p, h₁, ha, h₂.trans hl, hrest⟩

theorem entries_later (h : Later d d') : ∃ new,
    d'.classpath.loader.entries = d.classpath.loader.entries ++ new ∧
      ∀ e ∈ new, AddedBetween d d' e := by
  induction h with
  | refl => exact ⟨[], (List.append_nil _).symm, fun e he => absurd he List.not_mem_nil⟩
  | tail hl h ih =>
    obtain ⟨new, hnew, hadded⟩ := ih
    obtain ⟨newer, hnewer, hadds⟩ := entries_change h
    refine ⟨new ++ newer, by rw [hnewer, hnew, List.append_assoc], fun e he => ?_⟩
    obtain he | he := List.mem_append.mp he
    · exact (hadded e he).later (.single h)
    · obtain ⟨p, ha, rfl⟩ := hadds e he
      exact ⟨_, _, p, hl, ha, .refl, rfl, ha.accepted⟩

/-! ### Runs -/

/-- Registers artifacts that were found for a task, one in each turn, while others are at work
between the turns. -/
def registerAmid (d : Downloader) (trees : Nat → FileTree) (others : Nat → Classpath → Classpath)
    (id : Nat) (j : Found) (as : List Artifact) : Registered :=
  Registration.eachAmid trees others (some id) 0 as d.classpath ⟨j.coordinate, [], []⟩

theorem registration_eq (d : Downloader) (id : Nat) (j : Found) :
    (∃ e, d.registration id j = ⟨d.classpath, [], .error (.error e)⟩) ∨ d.registration id j =
      d.registerAmid (fun _ => d.shared.files) (fun _ cp => cp) id j j.artifacts := by
  obtain ⟨e, -, -, h⟩ | ⟨-, h⟩ := Registration.all_eq d.shared.files (some id)
    d.config.settings.verifyArtifacts j.coordinate j.artifacts d.classpath
  · exact .inl ⟨e, h⟩
  · exact .inr (h.trans (Registration.each_eq_amid _ 0 _ _))

/-- From `d` to `d'`, the classpath has only grown. -/
structure OnlyGrows (d d' : Downloader) : Prop where
  /-- The entries at the later moment are those at the earlier one and behind them files that were
  accepted in between. A lookup that found something finds it for the same reason, and one that
  found nothing finds at most one of the new entries. -/
  keeps : ∃ new, d.classpath.Keeps d'.classpath new ∧ ∀ e ∈ new, AddedBetween d d' e
  /-- A file that the host adds at the later moment and that is refused changes nothing. -/
  refused : ∀ p f, (d'.addFile p).2 = .error f → (d'.addFile p).1 = d'
  /-- A job that is run at the later moment does nothing, or it registers its artifacts in turns. -/
  turns : ∀ (id : Nat) (j : Found),
    (∃ e, d'.registration id j = ⟨d'.classpath, [], .error (.error e)⟩) ∨ d'.registration id j =
      d'.registerAmid (fun _ => d'.shared.files) (fun _ cp => cp) id j j.artifacts
  /-- The classpath has only grown when a turn of the job has come, and only grows from there to the
  end of the job, if the others that are at work meanwhile only let it grow. -/
  midway : ∀ (id : Nat) (j : Found) (trees : Nat → FileTree) (others : Nat → Classpath → Classpath),
    (∀ n (cp : Classpath), cp.Grows (others n cp)) → ∀ before after, j.artifacts = before ++ after →
      let mid := d'.registerAmid trees others id j before
      let last := d'.registerAmid trees others id j j.artifacts
      (∃ new, d.classpath.Keeps mid.classpath new) ∧
        ∃ new, mid.classpath.Keeps last.classpath new
  /-- A job ends where a file is refused, with the classpath that there is at that turn. -/
  refusedMidway : ∀ (id : Nat) (j : Found) (trees : Nat → FileTree)
    (others : Nat → Classpath → Classpath) before a after, j.artifacts = before ++ a :: after →
      let mid := d'.registerAmid trees others id j before
      let here := others before.length mid.classpath
      ∀ s f, mid.result = .ok s → here.lookup a.coordinate = none →
        (here.addFile (trees before.length) a.file).2 = .error f →
          d'.registerAmid trees others id j j.artifacts = ⟨here, mid.appended, .error f⟩

/-- **The classpath only grows and hits are stable**, from any state throughout every run. -/
theorem only_grows (d : Downloader) (ms : List Move) : OnlyGrows d (d.moveAll ms).1 where
  keeps := by
    obtain ⟨new, hnew, hadded⟩ := entries_later (later_moveAll d ms)
    exact ⟨new, (grows_moveAll d ms).keeps hnew, hadded⟩
  refused _ _ := addFile_of_refused
  turns := registration_eq _
  midway id j trees others ho before after hj := by
    intro mid last
    have hmid : (d.moveAll ms).1.classpath.Grows mid.classpath :=
      Registration.grows_eachAmid ho before 0 _ _
    have hlast : mid.classpath.Grows last.classpath := by
      dsimp only [last, registerAmid]
      rw [hj]
      exact Registration.grows_midway ho before after 0 _ _
    exact ⟨((grows_moveAll d ms).trans hmid).exists_keeps, hlast.exists_keeps⟩
  refusedMidway id j trees others before a after hj := by
    intro mid here s f hs hl hf
    rw [← Nat.zero_add before.length] at hf
    rw [registerAmid, hj]
    refine Registration.eachAmid_of_refused hs ?_ hl hf
    rw [Nat.zero_add]
    rfl

end Downloader

end ArtifactFetch
