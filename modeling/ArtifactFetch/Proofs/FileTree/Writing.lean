import ArtifactFetch.FileTree

/-! # What writing does to a tree

A tree *extends* another one if every directory is still one and nothing is gone (`Extends`); every
walk then leads where it led before (`Extends.locate`). Making directories extends a tree by
directories alone, each at a place to which one of the paths that were asked for leads
(`MakesDirs`, `makesDirs_makeDirs`). A write that succeeds changes one location, the one to which
its path leads from then on (`write_ok`), and one that fails changes nothing (`write_error`). -/

namespace ArtifactFetch.FileTree

variable {t t' t'' : FileTree} {p : Path}

/-- Only directories and files, no null device. -/
def Plain (t : FileTree) : Prop := ∀ loc, t.at? loc ≠ some .null

theorem plain_of_entries (h : ∀ e ∈ t.entries, e.2 ≠ .null) : t.Plain := by
  intro loc hn
  cases loc with
  | nil => cases hn
  | cons n ns =>
    obtain ⟨before, after, entries, -⟩ := List.lookup_eq_some_iff.mp hn
    exact h (n :: ns, .null) (by simp [entries]) rfl

/-! ### One location -/

theorem lookup_filter_ne {loc other : Location} (h : other ≠ loc) (es : List (Location × Entry)) :
    (es.filter (·.1 != loc)).lookup other = es.lookup other := by
  induction es with
  | nil => rfl
  | cons e es ih =>
    by_cases he : e.1 = loc
    · have differs : (other == e.1) = false := beq_eq_false_iff_ne.mpr (he ▸ h)
      rw [List.filter_cons_of_neg (by simp [he]), List.lookup_cons, differs]
      exact ih
    · rw [List.filter_cons_of_pos (by simp [he]), List.lookup_cons, List.lookup_cons, ih]

theorem lookup_filter_self (loc : Location) (es : List (Location × Entry)) :
    (es.filter (·.1 != loc)).lookup loc = none := by
  refine List.lookup_eq_none_iff.mpr fun e he => ?_
  have other : e.1 ≠ loc := bne_iff_ne.mp (List.mem_filter.mp he).2
  exact bne_iff_ne.mpr other.symm

theorem at?_put_self (name : String) (parent : Location) (e : Entry) :
    (t.put (name :: parent) e).at? (name :: parent) = some e := by
  simp [at?, put, List.lookup_append, lookup_filter_self]

theorem at?_put_of_ne {loc other : Location} (h : other ≠ loc) (e : Entry) :
    (t.put loc e).at? other = t.at? other := by
  cases other with
  | nil => rfl
  | cons n ns =>
    have last : List.lookup (n :: ns) [(loc, e)] = none := by
      simp [List.lookup_cons, beq_eq_false_iff_ne.mpr h]
    simp only [at?, put, List.lookup_append, lookup_filter_ne h, last, Option.or_none]

/-! ### Walks in a larger tree -/

/-- Every directory is still one, and nothing is gone. -/
structure Extends (t t' : FileTree) : Prop where
  home : t'.home = t.home
  dir : ∀ {loc}, t.at? loc = some .dir → t'.at? loc = some .dir
  present : ∀ {loc}, (t.at? loc).isSome → (t'.at? loc).isSome

theorem Extends.refl (t : FileTree) : Extends t t := ⟨rfl, id, id⟩

theorem Extends.trans (h : Extends t t') (h' : Extends t' t'') : Extends t t'' :=
  ⟨h'.home.trans h.home, fun hd => h'.dir (h.dir hd), fun hp => h'.present (h.present hp)⟩

/-- A file or directory put where no directory stands extends the tree. -/
theorem extends_put {loc : Location} (h : t.at? loc ≠ some .dir) (e : Entry) (hloc : loc ≠ []) :
    Extends t (t.put loc e) where
  home := rfl
  dir hd := by
    rw [at?_put_of_ne _ e]
    · exact hd
    · rintro rfl; exact h hd
  present {other} hp := by
    by_cases ho : other = loc
    · obtain ⟨n, ns, rfl⟩ := List.exists_cons_of_ne_nil hloc
      rw [ho, at?_put_self]
      rfl
    · rwa [at?_put_of_ne ho]

/-- A step to a name. -/
theorem step_eq_ok_iff {here loc : Location} {name : String} :
    t.step here name = .ok loc ↔ t.at? here = some .dir ∧
      ((name = "" ∨ name = ".") ∧ loc = here
        ∨ (¬ (name = "" ∨ name = ".")) ∧ name = ".." ∧ loc = here.tail
        ∨ (¬ (name = "" ∨ name = ".")) ∧ name ≠ ".." ∧ name.utf8ByteSize ≤ nameLimit
          ∧ (t.at? (name :: here)).isSome ∧ loc = name :: here) := by
  unfold step
  constructor
  · intro h
    split at h
    · cases h
    next hd =>
    have hd := Decidable.not_not.mp hd
    split at h
    · next hi => cases h; exact ⟨hd, .inl ⟨hi, rfl⟩⟩
    next hi =>
    split at h
    · next hu => cases h; exact ⟨hd, .inr (.inl ⟨hi, hu, rfl⟩)⟩
    next hu =>
    split at h
    · cases h
    next hs =>
    split at h
    · next hp => cases h; exact ⟨hd, .inr (.inr ⟨hi, hu, Nat.le_of_not_lt hs, hp, rfl⟩)⟩
    · cases h
  · rintro ⟨hd, ⟨hi, rfl⟩ | ⟨hi, hu, rfl⟩ | ⟨hi, hu, hs, hp, rfl⟩⟩
    · rw [if_neg (not_not_intro hd), if_pos hi]
    · rw [if_neg (not_not_intro hd), if_neg hi, if_pos hu]
    · rw [if_neg (not_not_intro hd), if_neg hi, if_neg hu, if_neg (Nat.not_lt.mpr hs), if_pos hp]

theorem Extends.step (h : Extends t t') {here loc : Location} {name : String}
    (hs : t.step here name = .ok loc) : t'.step here name = .ok loc := by
  rw [step_eq_ok_iff] at hs ⊢
  obtain ⟨hd, hs⟩ := hs
  refine ⟨h.dir hd, ?_⟩
  rcases hs with hs | hs | ⟨hi, hu, hl, hp, rfl⟩
  · exact .inl hs
  · exact .inr (.inl hs)
  · exact .inr (.inr ⟨hi, hu, hl, h.present hp, rfl⟩)

theorem Extends.walk (h : Extends t t') {names : List String} {here loc : Location}
    (hw : names.foldlM t.step here = .ok loc) : names.foldlM t'.step here = .ok loc := by
  induction names generalizing here with
  | nil => exact hw
  | cons name names ih =>
    rw [List.foldlM_cons] at hw ⊢
    cases hs : t.step here name with
    | error e => rw [hs] at hw; cases hw
    | ok next =>
      rw [hs] at hw
      rw [h.step hs]
      exact ih hw

theorem Extends.start (h : Extends t t') (p : Path) : t'.start p = t.start p := by
  rw [FileTree.start, FileTree.start, h.home]

theorem locate_eq_ok_iff {loc : Location} :
    t.locate p = .ok loc ↔
      checkText p = .ok () ∧ p.components.foldlM t.step (t.start p) = .ok loc := by
  rw [locate]
  cases checkText p with
  | error e => exact ⟨nofun, nofun⟩
  | ok u => exact ⟨fun h => ⟨rfl, h⟩, fun h => h.2⟩

/-- **A path that leads somewhere leads there in every larger tree.** -/
theorem Extends.locate (h : Extends t t') {loc : Location} (hl : t.locate p = .ok loc) :
    t'.locate p = .ok loc := by
  rw [locate_eq_ok_iff] at hl ⊢
  exact ⟨hl.1, by rw [h.start]; exact h.walk hl.2⟩

/-! ### Where a new entry would go -/

/-- The last component that is not empty, with what stands before and behind it. -/
theorem split_components {comps before : List String} {last : String}
    (h : comps.reverse.dropWhile (· == "") = last :: before) :
    last ≠ "" ∧ ∃ after, comps = before.reverse ++ last :: after ∧ (∀ a ∈ after, a = "")
      ∧ ((comps.reverse.head? == some "") = false → after = []) := by
  have parts := List.takeWhile_append_dropWhile (p := (· == "")) (l := comps.reverse)
  rw [h] at parts
  have named : last ≠ "" := by
    have := List.head_dropWhile_not (· == "") (l := comps.reverse) (by simp [h])
    simpa [h] using this
  refine ⟨named, (comps.reverse.takeWhile (· == "")).reverse, ?_, fun a ha => ?_, fun first => ?_⟩
  · simpa using (congrArg List.reverse parts).symm
  · exact beq_iff_eq.mp (List.all_eq_true.mp List.all_takeWhile a (List.mem_reverse.mp ha))
  · cases hr : comps.reverse with
    | nil => rfl
    | cons c cs =>
      have kept : (c == "") = false := by simpa [hr] using first
      simp [kept]

/-- A path names an entry: there is a walk to the directory that holds it, then its name, and behind
that perhaps some slashes. -/
structure Names (t : FileTree) (p : Path) (parent : Location) (name : String) (slash : Bool) :
    Prop where
  text : checkText p = .ok ()
  parts : ∃ before after, p.components = before ++ name :: after ∧ (∀ a ∈ after, a = "")
    ∧ (slash = false → after = []) ∧ before.foldlM t.step (t.start p) = .ok parent
  stands : t.at? parent = some .dir
  named : ¬ (name = "" ∨ name = ".")
  down : name ≠ ".."

theorem names_of_target {parent : Location} {name : String} {slash : Bool}
    (h : t.target p = .ok (.entry parent name slash)) : t.Names p parent name slash := by
  unfold target at h
  cases hc : checkText p with
  | error e => rw [hc] at h; cases h
  | ok u =>
  rw [hc] at h
  dsimp only [bind, Except.bind] at h
  split at h
  · cases h
  next last before hd =>
  obtain ⟨named, after, comps, idle, none_after⟩ := split_components hd
  cases hw : before.reverse.foldlM t.step (t.start p) with
  | error e => rw [hw] at h; cases h
  | ok dir =>
  rw [hw] at h
  dsimp only at h
  split at h
  · cases h
  next stands =>
  split at h
  · cases h
  next dot =>
  split at h
  · cases h
  next down =>
  cases h
  exact ⟨hc, ⟨before.reverse, after, comps, idle, none_after, hw⟩, Decidable.not_not.mp stands,
    not_or.mpr ⟨named, dot⟩, down⟩

/-- Idle components stay at a directory. -/
theorem walk_idle {here : Location} (hd : t.at? here = some .dir) {names : List String}
    (hi : ∀ a ∈ names, a = "") : names.foldlM t.step here = .ok here := by
  induction names with
  | nil => rfl
  | cons name names ih =>
    have stays : t.step here name = .ok here :=
      step_eq_ok_iff.mpr ⟨hd, .inl ⟨.inl (hi name List.mem_cons_self), rfl⟩⟩
    rw [List.foldlM_cons, stays]
    exact ih fun a ha => hi a (List.mem_cons_of_mem _ ha)

/-- A path that names an entry leads to it in every larger tree that has it, if slashes follow the
name only where it is a directory. -/
theorem Names.locate {parent : Location} {name : String} {slash : Bool}
    (h : t.Names p parent name slash) (size : name.utf8ByteSize ≤ nameLimit)
    (ext : Extends t t') (there : (t'.at? (name :: parent)).isSome)
    (fits : t'.at? (name :: parent) = some .dir ∨ slash = false) :
    t'.locate p = .ok (name :: parent) := by
  obtain ⟨before, after, comps, idle, none_after, walk⟩ := h.parts
  refine locate_eq_ok_iff.mpr ⟨h.text, ?_⟩
  have enters : t'.step parent name = .ok (name :: parent) :=
    step_eq_ok_iff.mpr ⟨ext.dir h.stands, .inr (.inr ⟨h.named, h.down, size, there, rfl⟩)⟩
  rw [comps, List.foldlM_append, ext.start, ext.walk walk]
  change (name :: after).foldlM t'.step parent = _
  rw [List.foldlM_cons, enters]
  rcases fits with isDir | noSlash
  · exact walk_idle isDir idle
  · rw [none_after noSlash]
    rfl

/-! ### Making directories -/

/-- The second tree is the first one with new directories, each where one of the paths leads. -/
structure MakesDirs (way : List Path) (t t' : FileTree) : Prop where
  home : t'.home = t.home
  at? : ∀ loc, t'.at? loc = t.at? loc ∨
    t.at? loc = none ∧ t'.at? loc = some .dir ∧ ∃ q ∈ way, t'.locate q = .ok loc

namespace MakesDirs

variable {way : List Path}

theorem refl (way : List Path) (t : FileTree) : MakesDirs way t t := ⟨rfl, fun _ => .inl rfl⟩

/-- What was there is still the same. -/
theorem of_some (h : MakesDirs way t t') {loc : Location} {e : Entry}
    (he : t.at? loc = some e) : t'.at? loc = some e := by
  rcases h.at? loc with same | ⟨none, -, -⟩
  · rw [same, he]
  · rw [none] at he; cases he

theorem toExtends (h : MakesDirs way t t') : Extends t t' where
  home := h.home
  dir := h.of_some
  present hp := by
    obtain ⟨e, he⟩ := Option.isSome_iff_exists.mp hp
    rw [h.of_some he]
    rfl

theorem trans (h : MakesDirs way t t') (h' : MakesDirs way t' t'') : MakesDirs way t t'' where
  home := h'.home.trans h.home
  at? loc := by
    rcases h'.at? loc with same' | ⟨none', dir', path'⟩
    · rcases h.at? loc with same | ⟨none, dir, q, hq, leads⟩
      · exact .inl (same'.trans same)
      · exact .inr ⟨none, same'.trans dir, q, hq, h'.toExtends.locate leads⟩
    · rcases h.at? loc with same | ⟨-, dir, -⟩
      · exact .inr ⟨same ▸ none', dir', path'⟩
      · rw [dir] at none'; cases none'

theorem mono {way' : List Path} (sub : ∀ q ∈ way, q ∈ way') (h : MakesDirs way t t') :
    MakesDirs way' t t' where
  home := h.home
  at? loc := by
    rcases h.at? loc with same | ⟨none, dir, q, hq, leads⟩
    · exact .inl same
    · exact .inr ⟨none, dir, q, sub q hq, leads⟩

theorem plain (h : MakesDirs way t t') (ht : t.Plain) : t'.Plain := by
  intro loc
  rcases h.at? loc with same | ⟨-, dir, -⟩
  · rw [same]; exact ht loc
  · rw [dir]; simp

end MakesDirs

theorem makesDirs_makeDir (t : FileTree) (p : Path) : MakesDirs [p] t (t.makeDir p).1 := by
  unfold makeDir
  split
  · exact .refl _ t
  · exact .refl _ t
  next parent name slash target =>
  split
  · exact .refl _ t
  next size =>
  split
  · exact .refl _ t
  next free =>
  have free : t.at? (name :: parent) = none := Option.not_isSome_iff_eq_none.mp free
  have ext : Extends t (t.put (name :: parent) .dir) :=
    extends_put (by rw [free]; simp) .dir (List.cons_ne_nil _ _)
  refine ⟨rfl, fun loc => ?_⟩
  by_cases hl : loc = name :: parent
  · subst hl
    have made := at?_put_self (t := t) name parent .dir
    refine .inr ⟨free, made, p, List.mem_singleton_self p, ?_⟩
    exact (names_of_target target).locate (Nat.le_of_not_lt size) ext (by rw [made]; rfl)
      (.inl made)
  · exact .inl (at?_put_of_ne hl .dir)

@[simp] theorem fst_settle (made : FileTree × Except IoError Unit) (p : Path) :
    (makeChain.settle made p).1 = made.1 := by
  unfold makeChain.settle
  split <;> rfl

theorem makesDirs_makeChain (t : FileTree) (chain : List Path) :
    MakesDirs chain t (t.makeChain chain).1 := by
  induction chain generalizing t with
  | nil => exact .refl _ t
  | cons p above ih =>
    have first : ∀ t : FileTree, MakesDirs (p :: above) t (t.makeDir p).1 :=
      fun t => (makesDirs_makeDir t p).mono (by simp)
    have rest : ∀ t : FileTree, MakesDirs (p :: above) t (t.makeChain above).1 :=
      fun t => (ih t).mono fun _ => List.mem_cons_of_mem p
    unfold makeChain
    split
    · exact .refl _ t
    split
    · next made => have := first t; rwa [made] at this
    next t₁ e failed =>
    have start : MakesDirs (p :: above) t t₁ := by have := first t; rwa [failed] at this
    split
    · split
      · next t₂ _ failed_above => have := start.trans (rest t₁); rwa [failed_above] at this
      · next t₂ made_above =>
        have reached : MakesDirs (p :: above) t t₂ := by
          have := start.trans (rest t₁)
          rwa [made_above] at this
        rw [fst_settle]
        exact reached.trans (first t₂)
    · rw [fst_settle]
      exact start

/-- **Making a directory and those above it adds directories only**, each where an ancestor of the
path leads. -/
theorem makesDirs_makeDirs (t : FileTree) (p : Path) :
    MakesDirs p.ancestors t (t.makeDirs p).1 :=
  makesDirs_makeChain t p.ancestors

/-! ### Writing a file -/

/-- **A write that succeeds in a plain tree** puts the content where the path leads from then on,
where no directory was, and changes nothing else. -/
theorem write_ok {content : Bytes} (plain : t.Plain) (h : t.write p content = (t', .ok ())) :
    Extends t t' ∧ ∃ loc, t'.locate p = .ok loc ∧ t'.at? loc = some (.file content)
      ∧ t.at? loc ≠ some .dir ∧ ∀ other ≠ loc, t'.at? other = t.at? other := by
  unfold write at h
  split at h
  · cases h
  · cases h
  next parent name slash target =>
  split at h
  · cases h
  next noSlash =>
  split at h
  · cases h
  next size =>
  split at h
  · cases h
  · next null => exact absurd null (plain _)
  next notDir _ =>
  cases h
  have slash_false : slash = false := by simpa using noSlash
  subst slash_false
  have ext : Extends t (t.put (name :: parent) (.file content)) :=
    extends_put notDir _ (List.cons_ne_nil _ _)
  have there := at?_put_self (t := t) name parent (.file content)
  exact ⟨ext, name :: parent,
    (names_of_target target).locate (Nat.le_of_not_lt size) ext (by rw [there]; rfl) (.inr rfl),
    there, notDir, fun other ho => at?_put_of_ne ho _⟩

theorem write_error {content : Bytes} {e : IoError} (h : t.write p content = (t', .error e)) :
    t' = t := by
  unfold write at h
  split at h
  · cases h; rfl
  · cases h; rfl
  split at h
  · cases h; rfl
  split at h
  · cases h; rfl
  split at h
  · cases h; rfl
  · cases h
  · cases h

end ArtifactFetch.FileTree
