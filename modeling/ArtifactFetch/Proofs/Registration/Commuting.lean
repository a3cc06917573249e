import ArtifactFetch.Proofs.Registration.Additions
import ArtifactFetch.Proofs.Registration.Events

/-! # Registrations that do not concern each other

What a registration does depends on the classpath it finds only through the boot classpath, the
files that the class loader accepts, the listener, and whether entries of the class loader contain
the names of its own artifacts. Two classpaths that agree in this are alike to it (`Alike`), and it
does the same on both (`Alike.all`): it adds the same files, delivers the same events and ends the
same way. Entries that contain none of these names make no difference (`Alike.of_entries`).

So two registrations can change places if no file of the one contains the name of an artifact of the
other (`Apart`), and only the order of what they add and deliver shows which came first
(`either_order`). This holds also if one of them fails in the checks or half way. -/

namespace ArtifactFetch.Registration

/-- No file of the first artifacts contains the name of one of the second that has a name. -/
def Apart (as bs : List Artifact) : Prop :=
  ∀ a ∈ as, ∀ b ∈ bs, b.coordinate.artifact ≠ "" →
    Text.contains a.file.text b.coordinate.classpathName = false

instance (as bs : List Artifact) : Decidable (Apart as bs) :=
  inferInstanceAs (Decidable (∀ a ∈ as, ∀ b ∈ bs, b.coordinate.artifact ≠ "" → _))

/-- **Classpaths that are alike to artifacts**: nothing that registering them depends on is
different. -/
structure Alike (as : List Artifact) (cp cp' : Classpath) : Prop where
  boot : cp'.boot = cp.boot
  check : cp'.loader.check = cp.loader.check
  installed : cp'.slot.installed = cp.slot.installed
  contains : ∀ a ∈ as, a.coordinate.artifact ≠ "" →
    cp'.loader.contains a.coordinate.classpathName = cp.loader.contains a.coordinate.classpathName

/-- Registrations that have done the same on two classpaths. -/
structure Agrees (task : Option Nat) (cp cp' : Classpath) (r r' : Registered) : Prop where
  result : r'.result = r.result
  appended : r'.appended = r.appended
  heard : ∃ es, r.classpath.slot = cp.slot.tell task es ∧ r'.classpath.slot = cp'.slot.tell task es

variable {t : FileTree} {task : Option Nat} {as bs : List Artifact}
  {cp cp' cp₁ cp₁' : Classpath} {s : Summary} {r r' : Registered}

namespace Alike

theorem refl (as : List Artifact) (cp : Classpath) : Alike as cp cp :=
  ⟨rfl, rfl, rfl, fun _ _ _ => rfl⟩

theorem mono (h : Alike as cp cp') (hs : bs ⊆ as) : Alike bs cp cp' :=
  ⟨h.boot, h.check, h.installed, fun b hb => h.contains b (hs hb)⟩

theorem tail {a : Artifact} (h : Alike (a :: as) cp cp') : Alike as cp cp' :=
  h.mono (List.subset_cons_self a as)

theorem lookup (h : Alike as cp cp') {a : Artifact} (ha : a ∈ as) :
    cp'.lookup a.coordinate = cp.lookup a.coordinate := by
  unfold Classpath.lookup
  by_cases hn : a.coordinate.artifact = ""
  · rw [if_pos hn, if_pos hn]
  · rw [h.boot, h.contains a ha hn]

theorem pending (h : Alike as cp cp') : cp'.pending as = cp.pending as :=
  List.filter_congr fun a ha => by rw [h.lookup ha]

/-- Entries that are foreign to the artifacts make no difference. -/
theorem of_entries (hg : cp.Grows cp') (hi : cp'.slot.installed = cp.slot.installed)
    (hforeign : Apart bs as)
    (he : cp'.loader.entries = cp.loader.entries ++ bs.map fun b => b.file.text) :
    Alike as cp cp' where
  boot := hg.boot
  check := hg.check
  installed := hi
  contains a ha hn := by
    have hnone : (bs.map fun b => b.file.text).any
        (Text.contains · a.coordinate.classpathName) = false := by
      rw [List.any_map, List.any_eq_false]
      intro b hb
      rw [Function.comp_apply, hforeign b hb a ha hn]
      exact Bool.false_ne_true
    unfold ClassLoader.contains
    rw [he, List.any_append, hnone, Bool.or_false]

/-! ### One step -/

/-- The listener does the same, since it is the same. -/
theorem deliver {e : Event} {p : Option Panic} (h : Alike as cp cp')
    (hn : cp.deliver task e = (cp₁, p)) :
    ∃ cp₁', cp'.deliver task e = (cp₁', p) ∧ Alike as cp₁ cp₁' := by
  have hpanic : (cp'.deliver task e).2 = p := by
    have hp : (cp.deliver task e).2 = p := by rw [hn]
    rw [← hp]
    unfold Classpath.deliver ListenerSlot.deliver
    rw [h.installed]
    cases cp.slot.installed <;> rfl
  have hn' : cp'.deliver task e = ((cp'.deliver task e).1, p) := by rw [← hpanic]
  have hg := Classpath.grows_of_deliver hn
  have hg' := Classpath.grows_of_deliver hn'
  refine ⟨_, hn', ?_, ?_, ?_, fun a ha hname => ?_⟩
  · rw [hg'.boot, hg.boot, h.boot]
  · rw [hg'.check, hg.check, h.check]
  · rw [Classpath.installed_of_deliver hn', Classpath.installed_of_deliver hn, h.installed]
  · rw [Classpath.loader_of_deliver hn', Classpath.loader_of_deliver hn]
    exact h.contains a ha hname

theorem notifyHit {c : Coordinate} {hit : Hit} {p : Option Panic} (h : Alike as cp cp')
    (hn : cp.notifyHit task c hit = (cp₁, p)) :
    ∃ cp₁', cp'.notifyHit task c hit = (cp₁', p) ∧ Alike as cp₁ cp₁' := by
  unfold Classpath.notifyHit at hn ⊢
  split_ifs at hn ⊢
  · cases hn
    exact ⟨cp', rfl, h⟩
  · exact h.deliver hn

theorem withEntry (h : Alike as cp cp') (p : Path) :
    Alike as (cp.withEntry p) (cp'.withEntry p) where
  boot := h.boot
  check := h.check
  installed := h.installed
  contains a ha hn := by
    have hc := h.contains a ha hn
    unfold ClassLoader.contains at hc
    simp only [Classpath.withEntry, ClassLoader.contains, List.any_append, hc]

theorem addFile {p : Path} (h : Alike as cp cp') (ha : cp.addFile t p = (cp₁, .ok ())) :
    ∃ cp₁', cp'.addFile t p = (cp₁', .ok ()) ∧ Alike as cp₁ cp₁' := by
  have hok : cp'.loader.check t p = .ok () := by
    rw [h.check]
    exact Classpath.check_of_addFile ha
  rw [Classpath.fst_addFile_of_ok ha]
  exact ⟨_, Classpath.addFile_of_ok hok, h.withEntry p⟩

end Alike

/-! ### A whole registration -/

namespace Agrees

/-- Both end where the same was delivered last. -/
theorem stop {f : Except Failure Summary} {appended : List Artifact} {es : List Event}
    (hs : cp₁.slot = cp.slot.tell task es) (hs' : cp₁'.slot = cp'.slot.tell task es) :
    Agrees task cp cp' ⟨cp₁, appended, f⟩ ⟨cp₁', appended, f⟩ := ⟨rfl, rfl, es, hs, hs'⟩

/-- The same was delivered before. -/
theorem behind {es : List Event} (h : Agrees task cp₁ cp₁' r r')
    (hs : cp₁.slot = cp.slot.tell task es) (hs' : cp₁'.slot = cp'.slot.tell task es) :
    Agrees task cp cp' r r' := by
  obtain ⟨es', hr, hr'⟩ := h.heard
  refine ⟨h.result, h.appended, es ++ es', ?_, ?_⟩
  · rw [hr, hs, ListenerSlot.tell_append]
  · rw [hr', hs', ListenerSlot.tell_append]

theorem cons (h : Agrees task cp cp' r r') (a : Artifact) :
    Agrees task cp cp' { r with appended := a :: r.appended }
      { r' with appended := a :: r'.appended } :=
  ⟨h.result, congrArg (a :: ·) h.appended, h.heard⟩

end Agrees

/-- The slot after a file was added and the listener was told so. -/
theorem slot_of_add {p : Path} {e : Event} {o : Option Panic} {cp₂ : Classpath}
    (ha : cp.addFile t p = (cp₁, .ok ())) (hn : cp₁.deliver task e = (cp₂, o)) :
    cp₂.slot = cp.slot.tell task [e] := by
  rw [Classpath.slot_of_deliver hn, Classpath.fst_addFile_of_ok ha]
  rfl

/-- **A registration does the same on classpaths that are alike to its artifacts.** -/
theorem Registers.alike (h : Registers t task as cp s r) : ∀ {cp' : Classpath}, Alike as cp cp' →
    ∃ r', Registers t task as cp' s r' ∧ Agrees task cp cp' r r' := by
  have hnil : ∀ cp : Classpath, cp.slot = cp.slot.tell task [] :=
    fun cp => (ListenerSlot.tell_nil _ _).symm
  induction h with
  | done =>
    intro cp' _
    exact ⟨_, .done, .stop (hnil _) (hnil _)⟩
  | reportPanic hl hn =>
    intro cp' hlike
    obtain ⟨cp₁', hn', -⟩ := hlike.notifyHit hn
    exact ⟨_, .reportPanic ((hlike.lookup List.mem_cons_self).trans hl) hn',
      .stop (Classpath.slot_of_notifyHit hn) (Classpath.slot_of_notifyHit hn')⟩
  | report hl hn _ ih =>
    intro cp' hlike
    obtain ⟨cp₁', hn', hlike₁⟩ := hlike.notifyHit hn
    obtain ⟨r', hr', hagree⟩ := ih hlike₁.tail
    exact ⟨r', .report ((hlike.lookup List.mem_cons_self).trans hl) hn' hr',
      hagree.behind (Classpath.slot_of_notifyHit hn) (Classpath.slot_of_notifyHit hn')⟩
  | @refuse a rest cp s f hl ha =>
    intro cp' hlike
    have hcheck : cp'.loader.check t a.file = .error f := by
      rw [hlike.check]
      exact Classpath.check_of_addFile ha
    exact ⟨_, .refuse ((hlike.lookup List.mem_cons_self).trans hl)
      (Classpath.addFile_of_error hcheck), .stop (hnil _) (hnil _)⟩
  | addPanic hl ha hn =>
    intro cp' hlike
    obtain ⟨cp₁', ha', hlike₁⟩ := hlike.addFile ha
    obtain ⟨cp₂', hn', -⟩ := hlike₁.deliver hn
    exact ⟨_, .addPanic ((hlike.lookup List.mem_cons_self).trans hl) ha' hn',
      .stop (slot_of_add ha hn) (slot_of_add ha' hn')⟩
  | @add a rest cp cp₁ cp₂ s r hl ha hn _ ih =>
    intro cp' hlike
    obtain ⟨cp₁', ha', hlike₁⟩ := hlike.addFile ha
    obtain ⟨cp₂', hn', hlike₂⟩ := hlike₁.deliver hn
    obtain ⟨r', hr', hagree⟩ := ih hlike₂.tail
    exact ⟨_, .add ((hlike.lookup List.mem_cons_self).trans hl) ha' hn' hr',
      (hagree.behind (slot_of_add ha hn) (slot_of_add ha' hn')).cons a⟩

/-- The checks have the same outcome too, so the whole registration does the same. -/
theorem Alike.all (h : Alike as cp cp') (t : FileTree) (task : Option Nat) (verify : Bool)
    (root : Coordinate) :
    Agrees task cp cp' (all t task verify root as cp) (all t task verify root as cp') := by
  have hpending := h.pending
  obtain ⟨e, hv, he, hall⟩ | ⟨hok, hall⟩ := all_eq t task verify root as cp
  · have hall' : Registration.all t task verify root as cp' = ⟨cp', [], .error (.error e)⟩ := by
      simp [Registration.all, hv, hpending, he]
    rw [hall, hall']
    exact .stop (ListenerSlot.tell_nil _ _).symm (ListenerSlot.tell_nil _ _).symm
  · have hall' : Registration.all t task verify root as cp' =
        each t task as cp' ⟨root, [], []⟩ := by
      rcases all_eq t task verify root as cp' with ⟨e, hv, he, -⟩ | ⟨-, hall'⟩
      · rw [hpending, hok hv] at he
        cases he
      · exact hall'
    obtain ⟨r', hr', hagree⟩ := (registers_each as cp _).alike h
    rw [hall, hall', hr'.eq_each]
    exact hagree

/-! ### Two registrations -/

/-- **Two registrations in either order**: `a` and then `b`, or `b'` and then `a'`. -/
structure EitherOrder (taskA taskB : Option Nat) (cp : Classpath) (a b b' a' : Registered) :
    Prop where
  /-- Each ends as it does in the other order. -/
  results : a'.result = a.result ∧ b'.result = b.result
  /-- Each adds the same files, in the same order. -/
  appended : a'.appended = a.appended ∧ b'.appended = b.appended
  /-- The class loader has got the files of the one and then of the other. -/
  entries : b.classpath.loader.entries =
    cp.loader.entries ++ a.appended.map (·.file.text) ++ b.appended.map (·.file.text)
  entries' : a'.classpath.loader.entries =
    cp.loader.entries ++ b.appended.map (·.file.text) ++ a.appended.map (·.file.text)
  /-- So it has the same entries but for their order. -/
  perm : b.classpath.loader.entries.Perm a'.classpath.loader.entries
  /-- What the listener is told by each is the same, too. -/
  heard : ∃ es es', b.classpath.slot = (cp.slot.tell taskA es).tell taskB es' ∧
    a'.classpath.slot = (cp.slot.tell taskB es').tell taskA es
  /-- The rest is as it was. -/
  boot : b.classpath.boot = cp.boot ∧ a'.classpath.boot = cp.boot
  check : b.classpath.loader.check = cp.loader.check ∧ a'.classpath.loader.check = cp.loader.check

/-- What a registration leaves behind is alike to artifacts that its own are apart from. -/
theorem alike_all_of_apart (h : Apart as bs) (t : FileTree) (task : Option Nat) (verify : Bool)
    (root : Coordinate) (cp : Classpath) :
    Alike bs cp (all t task verify root as cp).classpath := by
  have happ := appended_subset_all t task verify root as cp
  obtain ⟨es, hslot, -⟩ := ((Alike.refl as cp).all t task verify root).heard
  refine .of_entries (grows_all t task verify root as cp) ?_
    (fun a ha b hb => h a (happ ha) b hb) (entries_all t task verify root as cp)
  rw [hslot]
  rfl

/-- **Registrations that do not concern each other commute**, with and without checks, whatever
becomes of either. -/
theorem either_order {as bs : List Artifact} (hab : Apart as bs) (hba : Apart bs as)
    (t : FileTree) (verify : Bool) (cp : Classpath) (taskA taskB : Option Nat)
    (rootA rootB : Coordinate) :
    let a := all t taskA verify rootA as cp
    let b := all t taskB verify rootB bs a.classpath
    let b' := all t taskB verify rootB bs cp
    let a' := all t taskA verify rootA as b'.classpath
    EitherOrder taskA taskB cp a b b' a' := by
  intro a b b' a'
  have hb : Agrees taskB cp a.classpath b' b :=
    (alike_all_of_apart hab t taskA verify rootA cp).all t taskB verify rootB
  have ha : Agrees taskA cp b'.classpath a a' :=
    (alike_all_of_apart hba t taskB verify rootB cp).all t taskA verify rootA
  have hga := grows_all t taskA verify rootA as cp
  have hgb := grows_all t taskB verify rootB bs cp
  have hgab := hga.trans (grows_all t taskB verify rootB bs a.classpath)
  have hgba := hgb.trans (grows_all t taskA verify rootA as b'.classpath)
  have hentries : b.classpath.loader.entries = cp.loader.entries ++
      a.appended.map (·.file.text) ++ b.appended.map (·.file.text) := by
    rw [entries_all, entries_all]
  have hentries' : a'.classpath.loader.entries = cp.loader.entries ++
      b.appended.map (·.file.text) ++ a.appended.map (·.file.text) := by
    rw [hb.appended, ← ha.appended, entries_all, entries_all]
  obtain ⟨es, hes, hes'⟩ := ha.heard
  obtain ⟨fs, hfs, hfs'⟩ := hb.heard
  refine ⟨⟨ha.result, hb.result.symm⟩, ⟨ha.appended, hb.appended.symm⟩, hentries, hentries', ?_,
    ⟨es, fs, by rw [hfs', hes], by rw [hes', hfs]⟩, ⟨hgab.boot, hgba.boot⟩,
    ⟨hgab.check, hgba.check⟩⟩
  rw [hentries, hentries', List.append_assoc, List.append_assoc]
  exact List.perm_append_comm.append_left _

/-- The first of two registrations fails half way, at a directory behind a regular file. The other
reports an artifact that is on the boot classpath and adds one. -/
theorem either_order_half_way :
    let t : FileTree := ⟨[(["lib-1.0"], .file []), (["docs-1.0"], .dir), (["c-2"], .file [])], []⟩
    let lib : Artifact := ⟨⟨"org", "lib", some "1.0"⟩, ⟨"/lib-1.0"⟩, none⟩
    let docs : Artifact := ⟨⟨"org", "docs", some "1.0"⟩, ⟨"/docs-1.0"⟩, none⟩
    let jre : Artifact := ⟨⟨"org", "jre", some "1"⟩, ⟨"/gone"⟩, none⟩
    let c : Artifact := ⟨⟨"org", "c", some "2"⟩, ⟨"/c-2"⟩, none⟩
    let cp : Classpath :=
      ⟨⟨["/boot/jre-1"]⟩, ⟨ClassLoader.checkRegular, ["/x"]⟩, ⟨some ⟨"host", fun _ => none⟩, []⟩⟩
    let as := [lib, docs, lib]
    let bs := [jre, c]
    let a := all t (some 0) true lib.coordinate as cp
    let b := all t (some 1) true c.coordinate bs a.classpath
    let b' := all t (some 1) true c.coordinate bs cp
    let a' := all t (some 0) true lib.coordinate as b'.classpath
    Apart as bs ∧ Apart bs as ∧ a.result.isOk = false ∧ b.result.isOk = true ∧
      b.classpath.loader.entries = ["/x", "/lib-1.0", "/c-2"] ∧
      a'.classpath.loader.entries = ["/x", "/c-2", "/lib-1.0"] ∧
      EitherOrder (some 0) (some 1) cp a b b' a' := by
  intro t lib docs jre c cp as bs a b b' a'
  have hab : Apart as bs := by decide +kernel
  have hba : Apart bs as := by decide +kernel
  exact ⟨hab, hba, by decide +kernel, by decide +kernel, by decide +kernel, by decide +kernel,
    either_order hab hba t true cp (some 0) (some 1) lib.coordinate c.coordinate⟩

end ArtifactFetch.Registration
