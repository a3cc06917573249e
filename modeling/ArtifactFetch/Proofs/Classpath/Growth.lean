import ArtifactFetch.Classpath
import Mathlib.Tactic.SplitIfs

/-! # A classpath only grows

The boot classpath is fixed and the class loader only gets further entries (`Classpath.Grows`),
whatever is delivered, installed or added. So an artifact that is present stays present
(`Grows.lookup`), for the same reason as before (`Grows.keeps`). -/

namespace ArtifactFetch.Classpath

/-- The second classpath is the first with further entries and perhaps another listener. -/
structure Grows (cp cp' : Classpath) : Prop where
  boot : cp'.boot = cp.boot
  check : cp'.loader.check = cp.loader.check
  entries : cp.loader.entries <+: cp'.loader.entries

variable {cp cp' cp'' : Classpath}

theorem Grows.refl (cp : Classpath) : cp.Grows cp := ⟨rfl, rfl, List.prefix_refl _⟩

theorem Grows.trans (h : cp.Grows cp') (h' : cp'.Grows cp'') : cp.Grows cp'' :=
  ⟨h'.boot.trans h.boot, h'.check.trans h.check, h.entries.trans h'.entries⟩

theorem Grows.of_eq (hb : cp'.boot = cp.boot) (hl : cp'.loader = cp.loader) : cp.Grows cp' :=
  ⟨hb, by rw [hl], hl ▸ List.prefix_refl _⟩

theorem grows_deliver (cp : Classpath) (task : Option Nat) (e : Event) :
    cp.Grows (cp.deliver task e).1 := .of_eq rfl rfl

theorem grows_of_deliver {task : Option Nat} {e : Event} {p : Option Panic}
    (h : cp.deliver task e = (cp', p)) : cp.Grows cp' := by
  have hg := cp.grows_deliver task e
  rwa [h] at hg

theorem grows_of_notifyHit {task : Option Nat} {c : Coordinate} {hit : Hit} {p : Option Panic}
    (h : cp.notifyHit task c hit = (cp', p)) : cp.Grows cp' := by
  unfold notifyHit at h
  split_ifs at h
  · cases h
    exact .refl cp
  · exact grows_of_deliver h

theorem loader_of_deliver {task : Option Nat} {e : Event} {p : Option Panic}
    (h : cp.deliver task e = (cp', p)) : cp'.loader = cp.loader := by
  cases h
  rfl

theorem loader_of_notifyHit {task : Option Nat} {c : Coordinate} {hit : Hit} {p : Option Panic}
    (h : cp.notifyHit task c hit = (cp', p)) : cp'.loader = cp.loader := by
  unfold notifyHit at h
  split_ifs at h
  · cases h
    rfl
  · exact loader_of_deliver h

/-! ### Adding a file -/

/-- The classpath with a further entry of its class loader. -/
def withEntry (cp : Classpath) (p : Path) : Classpath :=
  { cp with loader := { cp.loader with entries := cp.loader.entries ++ [p.text] } }

theorem grows_withEntry (cp : Classpath) (p : Path) : cp.Grows (cp.withEntry p) :=
  ⟨rfl, rfl, List.prefix_append _ _⟩

theorem addFile_of_ok {t : FileTree} {p : Path} (h : cp.loader.check t p = .ok ()) :
    cp.addFile t p = (cp.withEntry p, .ok ()) := by
  rw [addFile, ClassLoader.add_of_ok h]
  rfl

theorem addFile_of_error {t : FileTree} {p : Path} {f : Failure}
    (h : cp.loader.check t p = .error f) : cp.addFile t p = (cp, .error f) := by
  rw [addFile, ClassLoader.add_of_error h]

theorem snd_addFile (cp : Classpath) (t : FileTree) (p : Path) :
    (cp.addFile t p).2 = cp.loader.check t p := by
  rcases h : cp.loader.check t p with f | ⟨⟩
  · rw [addFile_of_error h]
  · rw [addFile_of_ok h]

theorem check_of_addFile {t : FileTree} {p : Path} {r : Except Failure Unit}
    (h : cp.addFile t p = (cp', r)) : cp.loader.check t p = r := by
  rw [← snd_addFile, h]

theorem fst_addFile_of_error {t : FileTree} {p : Path} {f : Failure}
    (h : cp.addFile t p = (cp', .error f)) : cp' = cp := by
  rw [addFile_of_error (check_of_addFile h)] at h
  exact (Prod.mk.inj h).1.symm

theorem fst_addFile_of_ok {t : FileTree} {p : Path} (h : cp.addFile t p = (cp', .ok ())) :
    cp' = cp.withEntry p := by
  rw [addFile_of_ok (check_of_addFile h)] at h
  exact (Prod.mk.inj h).1.symm

theorem grows_of_addFile {t : FileTree} {p : Path} {r : Except Failure Unit}
    (h : cp.addFile t p = (cp', r)) : cp.Grows cp' := by
  rcases r with f | ⟨⟩
  · rw [fst_addFile_of_error h]
    exact .refl cp
  · rw [fst_addFile_of_ok h]
    exact cp.grows_withEntry p

theorem mem_entries_of_addFile {t : FileTree} {p : Path} (h : cp.addFile t p = (cp', .ok ())) :
    p.text ∈ cp'.loader.entries := by
  rw [fst_addFile_of_ok h]
  exact List.mem_append_right _ List.mem_cons_self

/-! ### Lookup -/

theorem isSome_lookup_iff {c : Coordinate} :
    (cp.lookup c).isSome ↔ c.artifact = "" ∨ cp.boot.contains c.classpathName = true ∨
      cp.loader.contains c.classpathName = true := by
  unfold lookup
  split_ifs <;> simp [*]

/-- What is not present has a name to look for. -/
theorem named_of_lookup {c : Coordinate} (h : cp.lookup c = none) : c.artifact ≠ "" := by
  intro hn
  have hs := (@isSome_lookup_iff cp c).mpr (.inl hn)
  rw [h] at hs
  cases hs

/-- **What is present stays present.** -/
theorem Grows.lookup (h : cp.Grows cp') {c : Coordinate} (hc : (cp.lookup c).isSome) :
    (cp'.lookup c).isSome := by
  rw [isSome_lookup_iff] at hc ⊢
  rw [h.boot]
  refine hc.imp_right (Or.imp_right fun hl => ?_)
  obtain ⟨e, he, ht⟩ := List.any_eq_true.mp hl
  exact List.any_eq_true.mpr ⟨e, h.entries.subset he, ht⟩

theorem isSome_lookup_of_entry {c : Coordinate} {e : String} (he : e ∈ cp.loader.entries)
    (hc : Text.contains e c.classpathName = true) : (cp.lookup c).isSome :=
  isSome_lookup_iff.mpr (.inr (.inr (List.any_eq_true.mpr ⟨e, he, hc⟩)))

/-- What a classpath that has grown by some entries has in common with the one before: what is
present is so for the same reason as before, and what was missing is on the class loader just if one
of the new entries contains its name. -/
structure Keeps (cp cp' : Classpath) (new : List String) : Prop where
  entries : cp'.loader.entries = cp.loader.entries ++ new
  hit : ∀ c hit, cp.lookup c = some hit → cp'.lookup c = some hit
  miss : ∀ c, cp.lookup c = none → cp'.lookup c =
    if new.any (Text.contains · c.classpathName) then some .dynamic else none

/-- **Hits are stable**, and a miss can only become a dynamic hit. -/
theorem Grows.keeps (h : cp.Grows cp') {new : List String}
    (he : cp'.loader.entries = cp.loader.entries ++ new) : cp.Keeps cp' new := by
  have found : ∀ target, cp'.loader.contains target =
      (cp.loader.contains target || new.any (Text.contains · target)) := fun target => by
    rw [ClassLoader.contains, he, List.any_append]
    rfl
  refine ⟨he, fun c hit hc => ?_, fun c hc => ?_⟩
  · unfold Classpath.lookup at hc ⊢
    rw [h.boot, found]
    split_ifs at hc with hn hb hl
    · rwa [if_pos hn]
    · rwa [if_neg hn, if_pos hb]
    · rwa [if_neg hn, if_neg hb, hl, Bool.true_or, if_pos rfl]
  · unfold Classpath.lookup at hc ⊢
    rw [h.boot, found]
    split_ifs at hc with hn hb hl
    rw [if_neg hn, if_neg hb, Bool.eq_false_iff.mpr hl, Bool.false_or]

theorem Grows.exists_keeps (h : cp.Grows cp') : ∃ new, cp.Keeps cp' new := by
  obtain ⟨new, hnew⟩ := h.entries
  exact ⟨new, h.keeps hnew.symm⟩

/-- An artifact with a name is present through one of the classpaths. -/
theorem lookup_of_named {c : Coordinate} (hn : c.artifact ≠ "") (hc : (cp.lookup c).isSome) :
    cp.lookup c = some .static ∨ cp.lookup c = some .dynamic := by
  unfold lookup at hc ⊢
  rw [if_neg hn] at hc ⊢
  split_ifs at hc ⊢ with hb hl
  · exact .inl rfl
  · exact .inr rfl
  · simp at hc

/-! ### Deliveries -/

/-- The second classpath has delivered what the first has and then only such events. -/
def Tells (P : Delivery → Prop) (cp cp' : Classpath) : Prop :=
  ∃ new, cp'.slot.deliveries = cp.slot.deliveries ++ new ∧ ∀ e ∈ new, P e

/-- The listener that is installed does not panic when it is told of the event. -/
def Quiet (cp : Classpath) (e : Event) : Prop :=
  ∀ l, cp.slot.installed = some l → l.panics e = none

section Deliveries
variable {P Q : Delivery → Prop} {task : Option Nat}

theorem Tells.of_eq (h : cp'.slot = cp.slot) : cp.Tells P cp' :=
  ⟨[], by rw [h, List.append_nil], fun _ he => absurd he List.not_mem_nil⟩

theorem Tells.trans (h : cp.Tells P cp') (h' : cp'.Tells P cp'') : cp.Tells P cp'' := by
  obtain ⟨new, hd, ht⟩ := h
  obtain ⟨new', hd', ht'⟩ := h'
  refine ⟨new ++ new', by rw [hd', hd, List.append_assoc], fun e he => ?_⟩
  exact (List.mem_append.mp he).elim (ht e) (ht' e)

theorem Tells.imp (h : cp.Tells P cp') (hPQ : ∀ e, P e → Q e) : cp.Tells Q cp' := by
  obtain ⟨new, hd, ht⟩ := h
  exact ⟨new, hd, fun e he => hPQ e (ht e he)⟩

theorem tells_of_deliver {e : Event} {p : Option Panic} (h : cp.deliver task e = (cp', p))
    (hP : ∀ name, P ⟨name, e, task⟩) : cp.Tells P cp' := by
  cases h
  show ∃ new, (cp.slot.deliver task e).1.deliveries = cp.slot.deliveries ++ new ∧ ∀ e ∈ new, P e
  unfold ListenerSlot.deliver
  split
  · exact ⟨_, rfl, List.forall_mem_singleton.mpr (hP _)⟩
  · exact ⟨[], (List.append_nil _).symm, fun _ he => absurd he List.not_mem_nil⟩

theorem tells_of_notifyHit {c : Coordinate} {hit : Hit} {p : Option Panic}
    (h : cp.notifyHit task c hit = (cp', p)) (hP : ∀ name, P ⟨name, .available c, task⟩) :
    cp.Tells P cp' := by
  unfold notifyHit at h
  split_ifs at h
  · cases h
    exact .of_eq rfl
  · exact tells_of_deliver h hP

theorem tells_of_addFile {t : FileTree} {p : Path} {r : Except Failure Unit}
    (h : cp.addFile t p = (cp', r)) : cp.Tells P cp' := by
  cases h
  exact .of_eq rfl

end Deliveries

/-! ### Listeners that do not panic -/

section Quiet
variable {e : Event} {task : Option Nat}

theorem quiet_of_none (h : cp.slot.installed = none) (e : Event) : cp.Quiet e := fun l hl => by
  rw [h] at hl
  cases hl

theorem Quiet.of_installed (h : cp.Quiet e) (hi : cp'.slot.installed = cp.slot.installed) :
    cp'.Quiet e := fun l hl => h l (hi.symm.trans hl)

theorem Quiet.deliver (h : cp.Quiet e) (task : Option Nat) : (cp.deliver task e).2 = none := by
  unfold Classpath.deliver ListenerSlot.deliver
  rcases hl : cp.slot.installed with _ | l
  · rfl
  · exact h l hl

theorem Quiet.notifyHit {c : Coordinate} (h : cp.Quiet (.available c)) (task : Option Nat)
    (hit : Hit) : (cp.notifyHit task c hit).2 = none := by
  unfold Classpath.notifyHit
  split_ifs
  · rfl
  · exact h.deliver task

theorem installed_of_deliver {e : Event} {p : Option Panic} (h : cp.deliver task e = (cp', p)) :
    cp'.slot.installed = cp.slot.installed := by
  cases h
  exact ListenerSlot.installed_deliver _ _ _

theorem installed_of_notifyHit {c : Coordinate} {hit : Hit} {p : Option Panic}
    (h : cp.notifyHit task c hit = (cp', p)) : cp'.slot.installed = cp.slot.installed := by
  unfold Classpath.notifyHit at h
  split_ifs at h
  · cases h
    rfl
  · exact installed_of_deliver h

theorem Quiet.of_deliver {e' : Event} {p : Option Panic} (hq : cp.Quiet e)
    (h : cp.deliver task e' = (cp', p)) : cp'.Quiet e := hq.of_installed (installed_of_deliver h)

theorem Quiet.of_notifyHit {c : Coordinate} {hit : Hit} {p : Option Panic} (hq : cp.Quiet e)
    (h : cp.notifyHit task c hit = (cp', p)) : cp'.Quiet e :=
  hq.of_installed (installed_of_notifyHit h)

theorem Quiet.of_addFile {t : FileTree} {p : Path} {r : Except Failure Unit} (hq : cp.Quiet e)
    (h : cp.addFile t p = (cp', r)) : cp'.Quiet e := by
  cases h
  exact hq.of_installed rfl

theorem Quiet.deliver_ne {p : Panic} (hq : cp.Quiet e) : cp.deliver task e ≠ (cp', some p) := by
  intro h
  have hnone := hq.deliver task
  rw [h] at hnone
  cases hnone

theorem Quiet.notifyHit_ne {c : Coordinate} {hit : Hit} {p : Panic} (hq : cp.Quiet (.available c)) :
    cp.notifyHit task c hit ≠ (cp', some p) := by
  intro h
  have hnone := hq.notifyHit task hit
  rw [h] at hnone
  cases hnone

end Quiet

end ArtifactFetch.Classpath
