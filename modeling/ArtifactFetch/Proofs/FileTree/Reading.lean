import ArtifactFetch.FileTree
import Mathlib.Tactic.SplitIfs

/-! # What can be read

A path leads nowhere for one of a few reasons: its text is refused, the walk along it is stuck at a
component, or nothing is where the walk ends (`stat_eq_error_iff`). What it leads to can always be
opened, and read unless it is a directory (`read_eq_ok_iff`, `read_eq_error_iff`). The bytes that
are read are a text just if they are the bytes of that text (`fromUTF8?_eq_some_iff`). -/

namespace ArtifactFetch.FileTree

variable {t : FileTree} {p : Path} {here : Location} {name : String} {e : IoError}
  {content : Bytes} {text : String}

/-! ### Paths that lead nowhere -/

/-- **Why the walk along a path cannot take a component.** -/
inductive Stuck (t : FileTree) (here : Location) (name : String) : IoError → Prop
  /-- It stands at a file. -/
  | notDirectory (h : t.at? here ≠ some .dir) : Stuck t here name .notDirectory
  | tooLong (hd : t.at? here = some .dir) (hn : ¬ (name = "" ∨ name = ".")) (hu : name ≠ "..")
    (h : nameLimit < name.utf8ByteSize) : Stuck t here name .nameTooLong
  | missing (hd : t.at? here = some .dir) (hn : ¬ (name = "" ∨ name = ".")) (hu : name ≠ "..")
    (hs : name.utf8ByteSize ≤ nameLimit) (h : t.at? (name :: here) = none) :
    Stuck t here name .noEntry

/-- **Why a path leads nowhere.** -/
inductive LeadsNowhere (t : FileTree) (p : Path) : IoError → Prop
  | nul (h : Char.ofNat 0 ∈ p.text.toList) : LeadsNowhere t p .nulInPath
  | empty (h : p.text = "") : LeadsNowhere t p .noEntry
  | tooLong (hn : Char.ofNat 0 ∉ p.text.toList) (h : pathLimit ≤ p.text.utf8ByteSize) :
    LeadsNowhere t p .nameTooLong
  /-- The walk is stuck at a component. -/
  | stuck {before after : List String} {name : String} {here : Location} {e : IoError}
    (ht : checkText p = .ok ()) (hc : p.components = before ++ name :: after)
    (hw : before.foldlM t.step (t.start p) = .ok here) (h : t.Stuck here name e) :
    LeadsNowhere t p e
  /-- Nothing is where the walk ends, a step up from a directory without one above it. -/
  | gone {loc : Location} (hl : t.locate p = .ok loc) (h : t.at? loc = none) :
    LeadsNowhere t p .noEntry

theorem step_eq_error_iff : t.step here name = .error e ↔ t.Stuck here name e := by
  constructor
  · intro h
    unfold step at h
    split at h
    · next hd => cases h; exact .notDirectory hd
    next hd =>
    have hd := Decidable.not_not.mp hd
    split at h
    · cases h
    next hn =>
    split at h
    · cases h
    next hu =>
    split at h
    · next hs => cases h; exact .tooLong hd hn hu hs
    next hs =>
    split at h
    · cases h
    next hp =>
    cases h
    exact .missing hd hn hu (Nat.le_of_not_lt hs) (Option.not_isSome_iff_eq_none.mp hp)
  · intro h
    unfold step
    cases h with
    | notDirectory h => rw [if_pos h]
    | tooLong hd hn hu h =>
      rw [if_neg (not_not_intro hd), if_neg hn, if_neg hu, if_pos h]
    | missing hd hn hu hs h =>
      rw [if_neg (not_not_intro hd), if_neg hn, if_neg hu, if_neg (Nat.not_lt.mpr hs), h]
      rfl

/-- A walk that fails is stuck at a component to which it has come. -/
theorem stuck_of_walk {names : List String} (h : names.foldlM t.step here = .error e) :
    ∃ before name after mid, names = before ++ name :: after ∧
      before.foldlM t.step here = .ok mid ∧ t.Stuck mid name e := by
  induction names generalizing here with
  | nil => cases h
  | cons first rest ih =>
    rw [List.foldlM_cons] at h
    rcases hs : t.step here first with cause | next
    · rw [hs] at h
      obtain rfl : cause = e := Except.error.inj h
      exact ⟨[], first, rest, here, rfl, rfl, step_eq_error_iff.mp hs⟩
    · rw [hs] at h
      obtain ⟨before, name, after, mid, rfl, hw, hstuck⟩ := ih h
      refine ⟨first :: before, name, after, mid, rfl, ?_, hstuck⟩
      rw [List.foldlM_cons, hs]
      exact hw

theorem walk_of_stuck {before after : List String} {mid : Location}
    (hw : before.foldlM t.step here = .ok mid) (h : t.Stuck mid name e) :
    (before ++ name :: after).foldlM t.step here = .error e := by
  rw [List.foldlM_append, hw]
  change (name :: after).foldlM t.step mid = _
  rw [List.foldlM_cons, step_eq_error_iff.mpr h]
  rfl

theorem locate_of_checkText (h : checkText p = .ok ()) :
    t.locate p = p.components.foldlM t.step (t.start p) := by
  rw [locate, h]
  rfl

theorem stat_of_locate_error (h : t.locate p = .error e) : t.stat p = .error e := by
  rw [stat, h]
  rfl

theorem stat_of_checkText_error (h : checkText p = .error e) : t.stat p = .error e := by
  refine stat_of_locate_error ?_
  rw [locate, h]
  rfl

/-- The texts that are refused before any walk. -/
theorem checkText_eq_error_iff : checkText p = .error e ↔
    Char.ofNat 0 ∈ p.text.toList ∧ e = .nulInPath ∨ p.text = "" ∧ e = .noEntry ∨
      Char.ofNat 0 ∉ p.text.toList ∧ pathLimit ≤ p.text.utf8ByteSize ∧ e = .nameTooLong := by
  constructor
  · intro h
    unfold checkText at h
    split_ifs at h with hnul hempty hlong
    · cases h; exact .inl ⟨List.contains_iff_mem.mp hnul, rfl⟩
    · cases h; exact .inr (.inl ⟨hempty, rfl⟩)
    · cases h
      exact .inr (.inr ⟨fun hm => hnul (List.contains_iff_mem.mpr hm), hlong, rfl⟩)
  · rintro (⟨h, rfl⟩ | ⟨h, rfl⟩ | ⟨hn, h, rfl⟩)
    · rw [checkText, if_pos (List.contains_iff_mem.mpr h)]
    · simp [checkText, h]
    · have hne : p.text ≠ "" := fun he => by rw [he] at h; exact absurd h (by decide)
      rw [checkText, if_neg (fun hm => hn (List.contains_iff_mem.mp hm)), if_neg hne, if_pos h]

/-- **When a path leads nowhere, and why.** -/
theorem stat_eq_error_iff : t.stat p = .error e ↔ t.LeadsNowhere p e := by
  constructor
  · intro h
    rcases hc : checkText p with cause | ⟨⟩
    · rw [stat_of_checkText_error hc] at h
      obtain rfl : cause = e := Except.error.inj h
      obtain ⟨hm, rfl⟩ | ⟨hempty, rfl⟩ | ⟨hn, hlong, rfl⟩ := checkText_eq_error_iff.mp hc
      · exact .nul hm
      · exact .empty hempty
      · exact .tooLong hn hlong
    · rcases hl : t.locate p with cause | loc
      · rw [stat_of_locate_error hl] at h
        obtain rfl : cause = e := Except.error.inj h
        rw [locate_of_checkText hc] at hl
        obtain ⟨before, name, after, mid, hparts, hw, hstuck⟩ := stuck_of_walk hl
        exact .stuck hc hparts hw hstuck
      · rw [stat, hl] at h
        dsimp only [bind, Except.bind] at h
        split at h
        · cases h
        · next hnone => cases h; exact .gone hl hnone
  · intro h
    cases h with
    | nul h => exact stat_of_checkText_error (checkText_eq_error_iff.mpr (.inl ⟨h, rfl⟩))
    | empty h => exact stat_of_checkText_error (checkText_eq_error_iff.mpr (.inr (.inl ⟨h, rfl⟩)))
    | tooLong hn h =>
      exact stat_of_checkText_error (checkText_eq_error_iff.mpr (.inr (.inr ⟨hn, h, rfl⟩)))
    | stuck ht hc hw h =>
      refine stat_of_locate_error ?_
      rw [locate_of_checkText ht, hc, walk_of_stuck hw h]
    | gone hl h =>
      rw [stat, hl]
      dsimp only [bind, Except.bind]
      rw [h]
      rfl

/-! ### What is there -/

theorem canOpen_eq_ok_iff : t.canOpen p = .ok () ↔ ∃ e, t.stat p = .ok e := by
  unfold canOpen
  rcases t.stat p with e | e
  · exact ⟨fun h => (by cases h), fun ⟨_, h⟩ => (by cases h)⟩
  · exact ⟨fun _ => ⟨e, rfl⟩, fun _ => rfl⟩

/-- Something is there just if it can be opened. -/
theorem exists?_iff_canOpen : t.exists? p = true ↔ t.canOpen p = .ok () :=
  exists?_eq_true_iff.trans canOpen_eq_ok_iff.symm

/-- A directory cannot be read, and the null device reads as empty. -/
theorem read_eq_ok_iff : t.read p = .ok content ↔
    t.stat p = .ok (.file content) ∨ t.stat p = .ok .null ∧ content = [] := by
  unfold read
  rcases t.stat p with e | _ | c | _
  · exact ⟨fun h => (by cases h), fun h => (by rcases h with h | ⟨h, -⟩ <;> cases h)⟩
  · exact ⟨fun h => (by cases h), fun h => (by rcases h with h | ⟨h, -⟩ <;> cases h)⟩
  · exact ⟨fun h => (by cases h; exact .inl rfl),
      fun h => (by rcases h with h | ⟨h, -⟩ <;> cases h; rfl)⟩
  · exact ⟨fun h => (by cases h; exact .inr ⟨rfl, rfl⟩),
      fun h => (by rcases h with h | ⟨-, rfl⟩; cases h; rfl)⟩

/-- Reading fails where the path leads nowhere, for the same reason, and at a directory. -/
theorem read_eq_error_iff : t.read p = .error e ↔
    t.stat p = .error e ∨ t.stat p = .ok .dir ∧ e = .isDirectory := by
  unfold read
  rcases t.stat p with cause | _ | c | _
  · exact ⟨fun h => (by cases h; exact .inl rfl),
      fun h => (by rcases h with h | ⟨h, -⟩ <;> cases h; rfl)⟩
  · exact ⟨fun h => (by cases h; exact .inr ⟨rfl, rfl⟩),
      fun h => (by rcases h with h | ⟨-, rfl⟩; cases h; rfl)⟩
  · exact ⟨fun h => (by cases h), fun h => (by rcases h with h | ⟨h, -⟩ <;> cases h)⟩
  · exact ⟨fun h => (by cases h), fun h => (by rcases h with h | ⟨h, -⟩ <;> cases h)⟩

/-! ### Texts -/

theorem toList_loop (b : ByteArray) (i : Nat) (r : List UInt8) :
    ByteArray.toList.loop b i r = r.reverse ++ b.data.toList.drop i := by
  fun_induction ByteArray.toList.loop b i r with
  | case1 i r hi ih =>
    have hi : i < b.data.toList.length := hi
    have byte : b.get! i = b.data.toList[i] := getElem!_pos b.data i hi
    rw [ih, List.drop_eq_getElem_cons hi, byte, List.reverse_cons, List.append_assoc,
      List.singleton_append]
  | case2 i r hi =>
    have hi : b.data.toList.length ≤ i := Nat.le_of_not_lt hi
    rw [List.drop_eq_nil_of_le hi, List.append_nil]

/-- The bytes of a text are a text again. -/
theorem fromUTF8?_toUTF8 (s : String) :
    String.fromUTF8? ⟨s.toUTF8.toList.toArray⟩ = some s := by
  have bytes : (⟨s.toUTF8.toList.toArray⟩ : ByteArray) = s.toByteArray := by
    rw [ByteArray.toList, toList_loop]
    simp
  rw [bytes]
  exact dif_pos s.isValidUTF8

/-- No other bytes are that text. -/
theorem fromUTF8?_eq_some_iff :
    String.fromUTF8? ⟨content.toArray⟩ = some text ↔ content = text.toUTF8.toList := by
  constructor
  · intro h
    rw [String.fromUTF8?] at h
    split at h
    · cases h
      rw [ByteArray.toList, toList_loop]
      simp [String.fromUTF8]
    · cases h
  · rintro rfl
    exact fromUTF8?_toUTF8 text

theorem readText_of_read_error (h : t.read p = .error e) : t.readText p = .error e := by
  rw [readText, h]
  rfl

theorem readText_of_text (h : t.read p = .ok text.toUTF8.toList) : t.readText p = .ok text := by
  rw [readText, h]
  dsimp only [bind, Except.bind]
  rw [fromUTF8?_toUTF8]
  rfl

theorem readText_of_noText (h : t.read p = .ok content)
    (noText : ∀ text : String, content ≠ text.toUTF8.toList) : t.readText p = .error .notText := by
  have undecoded : String.fromUTF8? ⟨content.toArray⟩ = none :=
    Option.eq_none_iff_forall_ne_some.mpr fun text ht => noText text (fromUTF8?_eq_some_iff.mp ht)
  rw [readText, h]
  dsimp only [bind, Except.bind]
  rw [undecoded]
  rfl

/-- A path that leads to a file with the bytes of a text reads as that text. -/
theorem readText_of_at? {loc : Location} {s : String} (hl : t.locate p = .ok loc)
    (hc : t.at? loc = some (.file s.toUTF8.toList)) : t.readText p = .ok s := by
  have stat : t.stat p = .ok (.file s.toUTF8.toList) := by
    rw [stat, hl]
    dsimp only [bind, Except.bind]
    rw [hc]
    rfl
  exact readText_of_text (read_eq_ok_iff.mpr (.inl stat))

end ArtifactFetch.FileTree
