import ArtifactFetch.Proofs.Downloader.Answers

/-! # No second fetch

While distinct coordinates that are requested have distinct keys, the download of a coordinate is
the only one of that coordinate that has not ended (`Watched`), from the request that started it on.
Later requests join it until it ends, and if it ends well and the resolver has named the artifact
itself, they find the artifact present ever after, so no further download of it starts
(`no_second_fetch`). The steps fit together because the classpath has grown before the task ends,
and a request looks at the registry before the classpath and at the classpath before the pool. -/

namespace ArtifactFetch

namespace Downloader

variable {R : Coordinate → Prop} {d d₁ d₂ d' : Downloader} {g : Coordinate} {h : Handle} {n : Nat}

/-- The calls of the resolver for a coordinate. -/
def callsOf (d : Downloader) (g : Coordinate) : List Call :=
  d.shared.calls.filter fun call => g ∈ call.request.coordinates

/-- The calls of the resolver by a task. -/
def callsBy (d : Downloader) (id : Nat) : List Call :=
  d.shared.calls.filter fun call => call.task = id

/-- A download ended well, and the resolver named the artifact itself for it, which was present
already or has a file that is named after it. -/
def Fetched (d : Downloader) (g : Coordinate) (h : Handle) : Prop :=
  ∃ s found, d.result? h = some (.ok s) ∧ (h.task, .artifacts found) ∈ d.answers ∧
    ∃ a ∈ found, a.coordinate = g ∧
      (g ∈ s.alreadyPresent ∨ Text.contains a.file.text g.classpathName = true)

/-! ### The only download of a coordinate -/

/-- A task downloads a coordinate, and every other download of it has ended. The calls for the
coordinate are `n` and those of the task. -/
structure Watched (d : Downloader) (g : Coordinate) (id n : Nat) : Prop where
  own : d.pool.works[id]? = some g
  alone : ∀ i ph, d.pool.stages[i]? = some (g, ph) → i ≠ id → ph.isLive = false
  calls : (d.callsOf g).length = n + (d.callsBy id).length

theorem Watched.pool {p : DownloadPool} {id : Nat} (hw : d.Watched g id n)
    (he : Pool.Effect d.config.workload d.pool p) :
    ({ d with pool := p } : Downloader).Watched g id n where
  own := by
    rw [he.works_eq]
    exact hw.own
  alone i ph hst hi := by
    have hworks := Pool.getElem?_works hst
    rw [he.works_eq] at hworks
    obtain ⟨ph₀, hst₀⟩ := Pool.stage_of_works hworks
    have hd := hw.alone i ph₀ hst₀ hi
    rwa [(Pool.stage_inj hst (he.ended_kept hst₀ hd)).2]
  calls := by
    obtain hc | ⟨i, c, hq, hc⟩ := calls_effect he
    · rw [callsOf, callsBy, shared, hc]
      exact hw.calls
    · -- the one call is for the coordinate just if it is made by the task
      have hiff : c = g ↔ i = id := by
        constructor
        · rintro rfl
          by_contra hne
          exact absurd (hw.alone i _ hq hne) (by simp [Phase.isLive, Phase.result?])
        · rintro rfl
          have := hw.own
          rw [Pool.getElem?_works hq] at this
          exact Option.some.inj this
      have hcalls := hw.calls
      rw [callsOf, callsBy, shared] at hcalls ⊢
      rw [hc, List.filter_append, List.filter_append, List.length_append, List.length_append,
        hcalls]
      by_cases hcg : c = g
      · simp [Request.for, hcg, hiff.mp hcg, Nat.add_assoc]
      · have hne : ¬ i = id := fun h => hcg (hiff.mpr h)
        simp [Request.for, Ne.symm hcg, hne]

theorem Watched.accept {id : Nat} (hw : d.Watched g id n) {c : Coordinate} (hc : c ≠ g) :
    (d.accept c).Watched g id n where
  own := work_accept_of hw.own c
  alone i ph hst hi := by
    obtain hst | ⟨-, rfl, -⟩ := of_stage_accept hst
    · exact hw.alone i ph hst hi
    · exact absurd rfl hc
  calls := hw.calls

/-- The task of a coordinate that has not ended is registered under its key. -/
theorem InOrder.lookup_of_live (hd : d.InOrder) (hw : d.pool.works[h.task]? = some g)
    (hr : d.result? h = none) : d.shared.registry.lookup g.key = some h.task := by
  obtain ⟨ph, hst⟩ := Pool.stage_of_works hw
  refine hd.registry.lookup_eq_some_iff.mpr ((hd.registered_iff ⟨g.key, h.task⟩).mpr ⟨?_, hr⟩)
  exact mem_handles.mpr ⟨g, ph, hst, rfl⟩

/-- **One change**: while the task has not ended or the artifact is present, no other download of
the coordinate starts. -/
theorem Watched.change (hw : d.Watched g h.task n) (hd : d.InOrder)
    (hp : d.result? h = none ∨ (d.classpath.lookup g).isSome) (hc : Change R d d') :
    d'.Watched g h.task n := by
  cases hc with
  | pool hc => exact hw.pool hc.effect
  | tell | install | replace | add | observe => exact ⟨hw.own, hw.alone, hw.calls⟩
  | @submit c _ hr hl =>
    refine hw.accept ?_
    rintro rfl
    rcases hp with hp | hp
    · rw [hd.lookup_of_live hw.own hp] at hr
      cases hr
    · rw [hl] at hp
      cases hp

/-! ### What has been fetched is present -/

/-- From the end of the download on, the artifact is present. -/
theorem Fetched.lookup (hf : d₂.Fetched g h) (hcalls : CallsSound d₂.config.settings d₂.pool)
    (hd : AnswersSound d.config d.pool) (hc : Changes R d d₂) {r : Outcome}
    (hr : d.result? h = some r) : (d.classpath.lookup g).isSome := by
  obtain ⟨s, found, hs, hfound, a, ha, rfl, hn⟩ := hf
  -- the result and the answer at the end are those of the task when it ended
  have hr₂ : d₂.result? h = some r := result?_changes hc hr
  obtain rfl : r = .ok s := Option.some.inj (hr₂.symm.trans hs)
  obtain ⟨c, time, hst⟩ := result?_eq_some_iff.mp hr
  obtain ⟨found', hfound', hcov⟩ := (hd.stages hst).ok s rfl
  have heq := hcalls.answer_unique (answers_changes hc hfound') hfound
  cases heq
  exact hcov.lookup ha hn

/-- **A chain of changes** from the start of the download to a state in which it has not ended or
was fetched: it is the only download of its coordinate throughout. -/
theorem watched_of_changes (hw : d₁.Watched g h.task n) (hd : d₁.InOrder)
    (ha : AnswersSound d₁.config d₁.pool) (hcalls : CallsSound d₂.config.settings d₂.pool)
    (h₂ : d₂.result? h = none ∨ d₂.Fetched g h) (hpre : Changes R d₁ d) :
    Changes R d d₂ → d.Watched g h.task n ∧ d.InOrder ∧ AnswersSound d.config d.pool := by
  induction hpre with
  | refl => exact fun _ => ⟨hw, hd, ha⟩
  | @tail d d' _ hc ih =>
    -- the end of the chain says what holds on the way, so it is looked at from there
    intro hpost
    have hrest : Changes R d d₂ := .head hc hpost
    obtain ⟨hw, hd, ha⟩ := ih hrest
    refine ⟨hw.change hd ?_ hc, hd.change hc, answersSound_change hc ha⟩
    rcases hr : d.result? h with _ | r
    · exact .inl rfl
    · rcases h₂ with h₂ | h₂
      · have hr₂ := result?_changes hrest hr
        rw [h₂] at hr₂
        cases hr₂
      · exact .inr (h₂.lookup hcalls ha hrest hr)

/-! ### The request that starts the download -/

theorem works_change (hc : Change R d d') (hw : ∀ c ∈ d.pool.works, R c) :
    ∀ c ∈ d'.pool.works, R c := by
  cases hc with
  | pool hc =>
    rw [hc.effect.works_eq]
    exact hw
  | tell | install | replace | add | observe => exact hw
  | submit hR =>
    rw [works_accept]
    intro c hm
    rcases List.mem_append.mp hm with hm | hm
    · exact hw c hm
    · rwa [List.mem_singleton.mp hm]

/-- A download that was just accepted is the only one of its coordinate that has not ended, and has
made no call. -/
theorem watched_accept (hd : d.InOrder) (hr : d.shared.registry.lookup g.key = none) :
    (d.accept g).Watched g d.pool.tasks.length (d.callsOf g).length where
  own := work_accept d g
  alone i ph hst hi := by
    obtain hst | ⟨rfl, -, -⟩ := of_stage_accept hst
    · -- a download of the coordinate that has not ended would be registered
      rcases hl : ph.isLive with _ | _
      · rfl
      · have hreg := (hd.registry.mem g.key i).mpr
          (openKeys_eq_some_iff.mpr ⟨g, ph, hst, hl, rfl⟩)
        rw [← hd.registry.lookup_eq_some_iff] at hreg
        rw [shared, hreg] at hr
        cases hr
    · exact absurd rfl hi
  calls := by
    have hnone : (d.accept g).callsBy d.pool.tasks.length = [] := by
      refine List.filter_eq_nil_iff.mpr fun call hc ht => ?_
      obtain ⟨c, ph, hst, -⟩ := hd.calls.begun call hc
      have hlt := (List.getElem?_eq_some_iff.mp hst).1
      rw [of_decide_eq_true ht, Pool.length_stages] at hlt
      exact Nat.lt_irrefl _ hlt
    rw [hnone]
    rfl

theorem inOrder_told (hd : d.InOrder) (c : Coordinate) : (d.told c).InOrder :=
  hd.change (R := fun _ => True) (.tell d _)

theorem watched_of_submitted (hd : d.InOrder) (hs : (d.ensure g).2 = .ok (.submitted h)) :
    (d.ensure g).1.Watched g h.task ((d.ensure g).1.callsOf g).length := by
  obtain ⟨rfl, he, hr, -⟩ := ensure_submitted hs
  rw [he]
  exact watched_accept (inOrder_told hd g) hr

/-! ### The requests after it -/

theorem length_callsBy (hd : d.InOrder) (id : Nat) : (d.callsBy id).length ≤ 1 := by
  have hn : ((d.callsBy id).map Call.task).Nodup :=
    hd.calls.once.sublist (List.filter_sublist.map _)
  have ht : ∀ call ∈ d.callsBy id, call.task = id := fun call hc =>
    of_decide_eq_true (List.mem_filter.mp hc).2
  exact length_le_one hn fun a ha b hb => (ht a ha).trans (ht b hb).symm

theorem length_callsBy_answered (hd : d.InOrder) {id : Nat} {a : Answer}
    (ha : (id, a) ∈ d.answers) : (d.callsBy id).length = 1 := by
  refine Nat.le_antisymm (length_callsBy hd id) (List.length_pos_iff.mpr ?_)
  have hm : id ∈ (d.config.answers d.shared.calls).map Prod.fst := List.mem_map.mpr ⟨_, ha, rfl⟩
  rw [tasks_answers] at hm
  obtain ⟨call, hc, ht⟩ := List.mem_map.mp hm
  exact List.ne_nil_of_mem (List.mem_filter.mpr ⟨hc, decide_eq_true ht⟩)

/-- After the download has ended, no other of its key is registered. -/
theorem lookup_of_ended (hw : d.Watched g h.task n) (hd : d.InOrder)
    (hR : ∀ c ∈ d.pool.works, c.key = g.key → c = g) {r : Outcome} (hr : d.result? h = some r) :
    d.shared.registry.lookup g.key = none := by
  rcases hl : d.shared.registry.lookup g.key with _ | i
  · rfl
  · have hreg := mem_of_lookup hl
    obtain ⟨c, ph, hst, hlive, hk⟩ := openKeys_eq_some_iff.mp ((hd.registry.mem _ _).mp hreg)
    obtain rfl := hR c (List.mem_of_getElem? (Pool.getElem?_works hst)) hk
    by_cases hi : i = h.task
    · subst hi
      exact absurd hreg (hd.not_registered hr _)
    · exact absurd (hw.alone i ph hst hi) (by rw [hlive]; exact Bool.noConfusion)

theorem ensure_present {hit : Hit} (hr : d.shared.registry.lookup g.key = none)
    (hp : d.classpath.lookup g = some hit) (hq : d.classpath.Quiet (.requested g))
    (hq' : d.classpath.Quiet (.available g)) : (d.ensure g).2 = .ok (.skipped hit) := by
  have hq₁ : (d.told g).classpath.Quiet (.available g) :=
    hq'.of_installed (ListenerSlot.installed_deliver _ _ _)
  have hn := hq₁.notifyHit none hit
  rcases he : (d.told g).classpath.notifyHit none g hit with ⟨cp, p⟩
  rw [he] at hn
  obtain rfl : p = none := hn
  rw [ensure_of_quiet (hq.deliver none), serve_of_present (d := d.told g) hr hp he]
  rfl

theorem ensure_of_named (hn : g.artifact ≠ "") (hr : d.shared.registry.lookup g.key = none)
    (hp : (d.classpath.lookup g).isSome) (hq : d.classpath.Quiet (.requested g))
    (hq' : d.classpath.Quiet (.available g)) :
    (d.ensure g).2 = .ok (.skipped .static) ∨ (d.ensure g).2 = .ok (.skipped .dynamic) :=
  (Classpath.lookup_of_named hn hp).imp (ensure_present hr · hq hq') (ensure_present hr · hq hq')

/-- What a request for the coordinate is answered after its download was started, and how often the
resolver is called for it from then on. -/
structure NoSecondFetch (d₁ d₂ : Downloader) (g : Coordinate) (h : Handle) : Prop where
  /-- As long as the download has not ended, it is joined. -/
  joined : d₂.result? h = none →
    (d₂.ensure g).2 = .ok (.joined h) ∧ (d₂.callsOf g).length ≤ (d₁.callsOf g).length + 1
  /-- Once it was fetched, the artifact is present, and there was one call of the resolver. -/
  skipped : d₂.Fetched g h →
    ((d₂.ensure g).2 = .ok (.skipped .static) ∨ (d₂.ensure g).2 = .ok (.skipped .dynamic)) ∧
      (d₂.callsOf g).length = (d₁.callsOf g).length + 1
  /-- There is no gap while it ends: the artifact is present when its entry has left the registry,
  and when its result can be seen but its slot is not given back. -/
  noGap : ∀ d₃ r t, Change (fun _ => True) d₂ d₃ → d₂.result? h = none → EndsInOrder d₂ d₃ h r t →
    d₃.Fetched g h → ∀ d' ∈ [d₂.leaving h.task t, d₂.showing h.task t r],
      (d'.ensure g).2 = .ok (.skipped .static) ∨ (d'.ensure g).2 = .ok (.skipped .dynamic)

/-- **No gap**: while the download ends with the artifact fetched, its entry leaves the registry
when the artifact is present already, also before the slot is given back. -/
theorem Watched.noGap (hw : d₂.Watched g h.task n) (hd : d₂.InOrder)
    (ha : AnswersSound d₂.config d₂.pool) (hn : g.artifact ≠ "")
    (hR : ∀ c ∈ d₂.pool.works, c.key = g.key → c = g) (hq : d₂.classpath.Quiet (.requested g))
    (hq' : d₂.classpath.Quiet (.available g)) {d₃ : Downloader} (hc : Change R d₂ d₃)
    (hnone : d₂.result? h = none) (hf : d₃.Fetched g h) {t : Task Coordinate Found Outcome}
    (ht : d₂.pool.tasks[h.task]? = some t) (hs : d'.shared = d₂.shared.forget t.work.key) :
    (d'.ensure g).2 = .ok (.skipped .static) ∨ (d'.ensure g).2 = .ok (.skipped .dynamic) := by
  have hd₃ := hd.change hc
  have hw₃ := hw.change hd (.inl hnone) hc
  have ha₃ := answersSound_change hc ha
  obtain ⟨s, -, hr, -⟩ := id hf
  have hp := hf.lookup (R := fun _ => True) hd₃.calls ha₃ .refl hr
  obtain ⟨t', ht', rfl⟩ := finish_of_result hc hnone hr
  obtain rfl : t' = t := Option.some.inj (ht'.symm.trans ht)
  -- what is shared is the same before and after the slot is given back
  have hshared : (d₂.pool.finish d₂.config.workload h.task (.ok s)).world = d'.shared :=
    (Pool.world_finish ht _).trans hs.symm
  have hfree : d'.shared.registry.lookup g.key = none := by
    rw [← hshared]
    refine lookup_of_ended hw₃ hd₃ (fun c hm => hR c ?_) hr
    rwa [Pool.works, Pool.stages_finish ht, Pool.map_fst_set (Pool.getElem?_stages ht)] at hm
  have hcp : d'.classpath = d₂.classpath := by
    rw [classpath, hs]
    rfl
  rw [classpath, shared, hshared] at hp
  exact ensure_of_named hn hfree hp (hcp ▸ hq) (hcp ▸ hq')

theorem Watched.noSecondFetch (hw : d₂.Watched g h.task (d₁.callsOf g).length) (hd : d₂.InOrder)
    (ha : AnswersSound d₂.config d₂.pool) (hk : h.key = g.key) (hn : g.artifact ≠ "")
    (hR : ∀ c ∈ d₂.pool.works, c.key = g.key → c = g) (hq : d₂.classpath.Quiet (.requested g))
    (hq' : d₂.classpath.Quiet (.available g)) : NoSecondFetch d₁ d₂ g h where
  joined hr := by
    have hreg := mem_of_lookup (hd.lookup_of_live hw.own hr)
    refine ⟨?_, ?_⟩
    · rw [hd.ensure_registered hreg, hq.deliver none, ← hk]
    · rw [hw.calls]
      exact Nat.add_le_add_left (length_callsBy hd h.task) _
  skipped hf := by
    obtain ⟨s, found, hs, hfound, -⟩ := id hf
    have hr := lookup_of_ended hw hd hR hs
    have hp := hf.lookup (R := fun _ => True) hd.calls ha .refl hs
    refine ⟨ensure_of_named hn hr hp hq hq', ?_⟩
    rw [hw.calls, length_callsBy_answered hd hfound]
  noGap d₃ r t hc hnone hends hf d' hd' := by
    refine hw.noGap hd ha hn hR hq hq' hc hnone hf hends.task ?_
    obtain rfl | hd' := List.mem_cons.mp hd'
    · exact shared_leaving d₂ h.task t
    · obtain rfl := List.mem_singleton.mp hd'
      exact shared_leaving d₂ h.task t

/-- **No second fetch and no gap.** In every run in which distinct coordinates that are requested
have distinct keys, after the download of a coordinate was started: a request for it joins the
download as long as it has not ended, and finds the artifact present at all times after it was
fetched, unless the listener panics in the request; and from the start on the resolver is called
once for it. -/
theorem no_second_fetch {b : Builder} {files : FileTree} {environment : String → Option Bytes}
    (hb : b.build files environment = .ok d) {ms₁ ms₂ : List Move}
    (hkeys : ∀ c ∈ requested (ms₁ ++ .act (.ensure g) :: ms₂),
      ∀ c' ∈ requested (ms₁ ++ .act (.ensure g) :: ms₂), c.key = c'.key → c = c')
    (hs : ((d.moveAll ms₁).1.ensure g).2 = .ok (.submitted h)) :
    let d₁ := ((d.moveAll ms₁).1.ensure g).1
    let d₂ := (d₁.moveAll ms₂).1
    d₂.classpath.Quiet (.requested g) → d₂.classpath.Quiet (.available g) →
      NoSecondFetch d₁ d₂ g h := by
  intro d₁ d₂ hq hq'
  let R : Coordinate → Prop := (· ∈ requested (ms₁ ++ .act (.ensure g) :: ms₂))
  have hsplit : requested (ms₁ ++ .act (.ensure g) :: ms₂) =
      requested ms₁ ++ g :: requested ms₂ := requested_append _ _
  have hg : R g := by simp [R, hsplit]
  have hc₀ : Changes R d (d.moveAll ms₁).1 :=
    changes_moveAll fun c hc => by simp [R, hsplit, hc]
  have hc₁ : Changes R d d₁ := hc₀.trans (changes_ensure hg)
  have hc₂ : Changes R d₁ d₂ := changes_moveAll fun c hc => by simp [R, hsplit, hc]
  -- what holds of every state of the run
  obtain ⟨hd, -⟩ := inOrder_of_build hb
  have hd₀ : (d.moveAll ms₁).1.InOrder := hd.moveAll ms₁
  have hd₁ : d₁.InOrder := hd₀.moveAll [.act (.ensure g)]
  have hd₂ : d₂.InOrder := hd₁.moveAll ms₂
  have ha₁ : AnswersSound d₁.config d₁.pool :=
    of_changes (P := fun d => AnswersSound d.config d.pool) (fun _ _ => answersSound_change) hc₁
      (answersSound_of_build hb)
  have hworks : ∀ c ∈ d₂.pool.works, R c := by
    refine of_changes (P := fun d => ∀ c ∈ d.pool.works, R c) (fun _ _ => works_change)
      (hc₁.trans hc₂) ?_
    obtain ⟨limit, classpath, hp, -⟩ := pool_of_build hb
    rw [hp]
    exact fun c hc => absurd hc List.not_mem_nil
  obtain ⟨hh, -, -, hl⟩ := ensure_submitted hs
  have hmain : d₂.result? h = none ∨ d₂.Fetched g h → NoSecondFetch d₁ d₂ g h := by
    intro h₂
    obtain ⟨hw, -, ha₂⟩ := watched_of_changes (watched_of_submitted hd₀ hs) hd₁ ha₁ hd₂.calls h₂
      hc₂ .refl
    exact hw.noSecondFetch hd₂ ha₂ (by rw [hh]) (Classpath.named_of_lookup hl)
      (fun c hc hk => hkeys c (hworks c hc) g hg hk) hq hq'
  exact ⟨fun hr => (hmain (.inl hr)).joined hr, fun hf => (hmain (.inr hf)).skipped hf,
    fun d₃ r t hc hnone => (hmain (.inl hnone)).noGap d₃ r t hc hnone⟩

/-- A download of a file that is named after its artifact, from the request to its end. -/
theorem no_second_fetch_named_file :
    let c : Coordinate := ⟨"org", "lib", some "1.0"⟩
    let file : Artifact := ⟨c, ⟨"/lib-1.0"⟩, none⟩
    let d := plain (fun _ _ => ⟨[], .artifacts [file]⟩) none none
      ⟨[(["lib-1.0"], .file [])], []⟩
    let d₁ := (d.ensure c).1
    let d₂ := (d₁.moveAll [.look 0, .job 0, .look 0]).1
    d₂.Fetched c ⟨"org:lib:1.0", 0⟩ ∧ NoSecondFetch d₁ d₂ c ⟨"org:lib:1.0", 0⟩ := by
  intro c file d d₁ d₂
  have hnone : d₂.classpath.slot.installed = none :=
    Option.isNone_iff_eq_none.mp (by decide +kernel)
  refine ⟨⟨⟨c, [⟨"/lib-1.0"⟩], []⟩, [file], by decide +kernel, by decide +kernel, file,
    List.mem_singleton.mpr rfl, rfl, .inr (by decide +kernel)⟩, ?_⟩
  exact @no_second_fetch d c ⟨"org:lib:1.0", 0⟩ _ _ _ (build_plain _ _ _ _ fun _ => none) []
    [.look 0, .job 0, .look 0] (by decide +kernel) (by decide +kernel)
    (Classpath.quiet_of_none hnone _) (Classpath.quiet_of_none hnone _)

end Downloader

end ArtifactFetch
