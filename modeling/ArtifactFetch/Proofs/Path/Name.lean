import ArtifactFetch.Path
import ArtifactFetch.Proofs.Text.Cut
import Mathlib.Data.List.TakeWhile
import Mathlib.Tactic.SplitIfs

/-! # Joined paths, and the names at their ends

A path that is led on ends in what was added to it, whatever that is (`suffix_join`). The last name
of a path is found behind its last slash but for idle slashes and dots at the end
(`fileName?_eq_some_iff`), and its extension behind the last dot of that name, unless the dot is the
first character (`extension?_eq_some_iff`). -/

namespace ArtifactFetch

namespace Path

open Text (pieces)

theorem isIdle_iff {name : List Char} : isIdle name = true ↔ name = [] ∨ name = ['.'] := by
  simp [isIdle]

/-! ### Joining -/

theorem toList_join (p : Path) (part : String) :
    (p.join part).text.toList = joinChars p.text.toList part.toList := String.toList_ofList

theorem suffix_joinChars (left right : List Char) : right <:+ joinChars left right := by
  unfold joinChars
  split
  · exact List.suffix_rfl
  · split_ifs
    · exact List.suffix_append left _
    · exact (List.suffix_cons '/' _).trans (List.suffix_append left _)

/-- **A path that is led on** ends in what was added. -/
theorem suffix_join (p : Path) (part : String) : part.toList <:+ (p.join part).text.toList := by
  rw [toList_join]
  exact suffix_joinChars _ _

/-- Where nothing special stands at the seam, a slash is put there. -/
theorem joinChars_of_relative {left right : List Char} (hl : left ≠ [])
    (hlast : left.getLast? ≠ some '/') (hr : '/' ∉ right) :
    joinChars left right = left ++ '/' :: right := by
  unfold joinChars
  split
  · exact absurd List.mem_cons_self hr
  · rw [if_neg]
    simpa using ⟨hl, hlast⟩

/-! ### The last name -/

/-- What may stand behind the last name of a path and mean nothing: slashes, each with a dot behind
it or none. -/
inductive Trailing : List Char → Prop
  | nil : Trailing []
  | slash {cs : List Char} (h : Trailing cs) : Trailing ('/' :: cs)
  | dot {cs : List Char} (h : Trailing cs) : Trailing ('/' :: '.' :: cs)

theorem trailing_of_pieces {ws : List (List Char)} (idle : ∀ w ∈ ws, isIdle w = true) :
    ∀ {cs : List Char}, pieces (· == '/') cs = [] :: ws → Trailing cs := by
  induction ws with
  | nil =>
    intro cs h
    rw [Text.eq_of_pieces_eq_singleton h]
    exact .nil
  | cons w ws ih =>
    intro cs h
    rw [List.forall_mem_cons] at idle
    obtain ⟨rest, rfl, hrest⟩ := Text.exists_rest_of_pieces h
    have empty : [([] : List Char)] ≠ [] := List.cons_ne_nil [] []
    obtain ⟨a, x, b, hcut, hx, ha, hb⟩ :=
      Text.exists_cut_of_pieces empty (List.cons_ne_nil w ws) hrest
    obtain rfl : a = [] := Text.eq_of_pieces_eq_singleton ha
    obtain rfl : x = '/' := eq_of_beq hx
    obtain ⟨rest', rfl, hrest'⟩ := Text.exists_rest_of_pieces hb
    rw [hcut]
    rcases isIdle_iff.mp idle.1 with rfl | rfl
    · exact .slash (ih idle.2 hrest')
    · exact .dot (ih idle.2 hrest')

theorem Trailing.pieces {cs : List Char} (h : Trailing cs) :
    ∃ ws, Text.pieces (· == '/') cs = [] :: ws ∧ ∀ w ∈ ws, isIdle w = true := by
  induction h with
  | nil => exact ⟨[], rfl, fun _ h => absurd h List.not_mem_nil⟩
  | slash _ ih =>
    obtain ⟨ws, hws, idle⟩ := ih
    exact ⟨[] :: ws, by rw [Text.pieces_cons_of_pos rfl, hws], List.forall_mem_cons.mpr ⟨rfl, idle⟩⟩
  | dot _ ih =>
    obtain ⟨ws, hws, idle⟩ := ih
    refine ⟨['.'] :: ws, ?_, List.forall_mem_cons.mpr ⟨rfl, idle⟩⟩
    rw [Text.pieces_cons_of_pos rfl, Text.pieces_cons_of_neg rfl hws]

/-- The last stretch between slashes that is not idle. -/
def lastStretch (cs : List Char) : Option (List Char) :=
  (pieces (· == '/') cs).reverse.find? fun w => !isIdle w

/-- The start of a path, which is a component of its own, is idle. -/
theorem head?_tailComponents (cs : List Char) :
    (tailComponents (splitStart cs).2).head? = lastStretch cs := by
  have whole : ∀ body, (tailComponents body).head? = lastStretch body := fun body => by
    unfold tailComponents lastStretch
    rw [List.find?_eq_head?_dropWhile_not]
    simp
  rw [whole]
  unfold splitStart
  split
  · next cs => simp [lastStretch, Text.pieces_cons_of_pos, List.find?_append, isIdle]
  · rfl
  · next cs =>
    have first : pieces (· == '/') ('.' :: '/' :: cs) = ['.'] :: pieces (· == '/') cs :=
      Text.pieces_cons_of_neg rfl (Text.pieces_cons_of_pos rfl cs)
    simp [lastStretch, first, Text.pieces_cons_of_pos, List.find?_append, isIdle]
  · rfl

theorem fileName?_eq_some_iff_lastStretch {p : Path} {name : List Char} :
    p.fileName? = some name ↔ lastStretch p.text.toList = some name ∧ name ≠ ['.', '.'] := by
  rw [← head?_tailComponents]
  unfold fileName?
  rcases tailComponents (splitStart p.text.toList).2 with _ | ⟨w, ws⟩
  · simp
  · dsimp only
    split_ifs with h
    · simp only [List.head?_cons, Option.some.injEq, false_iff, not_and, not_not]
      rintro rfl
      exact h
    · simp only [List.head?_cons, Option.some.injEq]
      exact ⟨fun hw => ⟨hw, hw ▸ h⟩, And.left⟩

/-- A text that can be the name of something in a directory. -/
structure IsName (name : List Char) : Prop where
  some_char : name ≠ []
  uncut : '/' ∉ name
  not_here : name ≠ ['.']
  not_above : name ≠ ['.', '.']

theorem lastStretch_eq_some_iff {cs name : List Char} :
    lastStretch cs = some name ↔ isIdle name = false ∧ '/' ∉ name ∧
      ∃ dir trailing, cs = dir ++ name ++ trailing ∧ (dir = [] ∨ dir.getLast? = some '/') ∧
        Trailing trailing := by
  unfold lastStretch
  rw [List.find?_eq_some_iff_append, Bool.not_eq_true']
  constructor
  · rintro ⟨busy, behind, front, hrev, idle⟩
    have hpieces : pieces (· == '/') cs = front.reverse ++ name :: behind.reverse := by
      rw [← List.reverse_reverse (pieces (· == '/') cs), hrev]
      simp
    have uncut : '/' ∉ name :=
      Text.not_mem_of_mem_pieces (hpieces ▸ List.mem_append_right _ List.mem_cons_self)
    have idle_behind : ∀ w ∈ behind.reverse, isIdle w = true := by simpa using idle
    refine ⟨busy, uncut, ?_⟩
    rcases eq_or_ne front.reverse [] with hfront | hfront
    · rw [hfront, List.nil_append] at hpieces
      obtain ⟨rest, rfl, hrest⟩ := Text.exists_rest_of_pieces hpieces
      exact ⟨[], rest, rfl, .inl rfl, trailing_of_pieces idle_behind hrest⟩
    · obtain ⟨a, x, b, rfl, hx, -, hb⟩ :=
        Text.exists_cut_of_pieces hfront (List.cons_ne_nil name _) hpieces
      obtain rfl : x = '/' := eq_of_beq hx
      obtain ⟨rest, rfl, hrest⟩ := Text.exists_rest_of_pieces hb
      exact ⟨a ++ ['/'], rest, by simp, .inr List.getLast?_concat,
        trailing_of_pieces idle_behind hrest⟩
  · rintro ⟨busy, uncut, dir, trailing, rfl, hdir, htrailing⟩
    obtain ⟨ws, hws, idle⟩ := htrailing.pieces
    have here : pieces (· == '/') (name ++ trailing) = name :: ws := by
      rw [Text.pieces_append_uncut (Text.uncut_of_not_mem uncut) hws, List.append_nil]
    refine ⟨busy, ws.reverse, ?_⟩
    rcases hdir with rfl | hdir
    · exact ⟨[], by rw [List.nil_append, here]; simp, by simpa using idle⟩
    · obtain ⟨above, rfl⟩ := List.getLast?_eq_some_iff.mp hdir
      refine ⟨(pieces (· == '/') above).reverse, ?_, by simpa using idle⟩
      rw [List.append_assoc, List.append_assoc, List.singleton_append,
        Text.pieces_append_cons rfl, here]
      simp

/-- **The last name of a path** stands behind its last slash but for what is trailing. -/
theorem fileName?_eq_some_iff {p : Path} {name : List Char} :
    p.fileName? = some name ↔ IsName name ∧ ∃ dir trailing,
      p.text.toList = dir ++ name ++ trailing ∧ (dir = [] ∨ dir.getLast? = some '/') ∧
        Trailing trailing := by
  rw [fileName?_eq_some_iff_lastStretch, lastStretch_eq_some_iff, Bool.eq_false_iff, Ne, isIdle_iff,
    not_or]
  constructor
  · rintro ⟨⟨⟨some_char, not_here⟩, uncut, found⟩, not_above⟩
    exact ⟨⟨some_char, uncut, not_here, not_above⟩, found⟩
  · rintro ⟨⟨some_char, uncut, not_here, not_above⟩, found⟩
    exact ⟨⟨⟨some_char, not_here⟩, uncut, found⟩, not_above⟩

/-! ### The extension -/

/-- The piece behind the last dot counts if others come before and not just an empty one. -/
theorem extension?_of_fileName? {p : Path} {name ext : List Char} (h : p.fileName? = some name) :
    p.extension? = some ext ↔ ∃ before, before ≠ [] ∧ before ≠ [[]] ∧
      pieces (· == '.') name = before ++ [ext] := by
  unfold extension?
  simp only [h, Option.bind_eq_bind, Option.bind_some]
  rw [← List.reverse_reverse (pieces (· == '.') name)]
  generalize (pieces (· == '.') name).reverse = ws
  rw [List.reverse_reverse]
  constructor
  · intro hm
    split at hm
    · cases hm
    · cases hm
    · cases hm
    · next last before some_before not_empty =>
      obtain rfl : last = ext := Option.some.inj hm
      exact ⟨before.reverse, by simpa using some_before, by simpa using not_empty, by simp⟩
  · rintro ⟨before, some_before, not_empty, hws⟩
    obtain rfl : ws = ext :: before.reverse := by simpa using congrArg List.reverse hws
    split
    · next h => cases h
    · next h => exact absurd (by simpa using (List.cons.inj h).2) some_before
    · next h => exact absurd (by simpa using (List.cons.inj h).2) not_empty
    · next h => rw [(List.cons.inj h).1]

/-- **The extension of a path** follows the last dot of its last name, if something comes before. -/
theorem extension?_eq_some_iff {p : Path} {ext : List Char} :
    p.extension? = some ext ↔
      '.' ∉ ext ∧ ∃ stem, stem ≠ [] ∧ p.fileName? = some (stem ++ '.' :: ext) := by
  constructor
  · intro h
    obtain ⟨name, hname, -⟩ := Option.bind_eq_some_iff.mp h
    obtain ⟨before, some_before, not_empty, hpieces⟩ := (extension?_of_fileName? hname).mp h
    obtain ⟨stem, x, last, rfl, hx, hstem, hlast⟩ :=
      Text.exists_cut_of_pieces some_before (List.cons_ne_nil ext []) hpieces
    obtain rfl : x = '.' := eq_of_beq hx
    obtain rfl : last = ext := Text.eq_of_pieces_eq_singleton hlast
    refine ⟨Text.not_mem_of_mem_pieces (hlast ▸ List.mem_cons_self), stem, ?_, hname⟩
    rintro rfl
    exact not_empty hstem.symm
  · rintro ⟨undotted, stem, some_char, hname⟩
    refine (extension?_of_fileName? hname).mpr
      ⟨pieces (· == '.') stem, Text.pieces_ne_nil _ _, fun h => ?_, ?_⟩
    · exact some_char (Text.eq_of_pieces_eq_singleton h)
    · rw [Text.pieces_append_cons rfl, Text.pieces_of_uncut (Text.uncut_of_not_mem undotted)]

end Path

end ArtifactFetch
