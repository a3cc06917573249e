import ArtifactFetch.Text.Cut
import Mathlib.Data.List.Count

/-! # What cutting does to a text

`pieces` is the splitting of lists in the standard library (`pieces_eq_splitOnP`), so a text is the
pieces between its cuts and the pieces are the only texts without a cut that give it
(`split_eq_iff`), and two parts of the pieces come from the two sides of a cut
(`exists_cut_of_pieces`). A text that holds no cut occurs in the whole if and only if it occurs in
one of the pieces (`infix_iff_piece`), and a non-empty one if and only if it occurs in one of the
words (`infix_iff_word`). -/

namespace ArtifactFetch.Text

variable {p : Char → Bool} {x : Char}

theorem pieces_eq_splitOnP (p : Char → Bool) (cs : List Char) : pieces p cs = cs.splitOnP p := by
  induction cs with
  | nil => rfl
  | cons c cs ih =>
    obtain ⟨w, ws, hw⟩ := List.exists_cons_of_ne_nil (pieces_ne_nil p cs)
    rw [List.splitOnP_cons_eq_if_modifyHead, ← ih, hw]
    cases h : p c with
    | true => rw [pieces_cons_of_pos h, hw, if_pos rfl]
    | false => rw [pieces_cons_of_neg h hw, if_neg Bool.false_ne_true, List.modifyHead_cons]

/-- No piece holds the character that cuts. -/
theorem not_mem_of_mem_pieces {w cs : List Char} (h : w ∈ pieces (· == x) cs) :
    x ∉ w := fun hx => by
  have cut := neg_of_mem_pieces h hx
  simp at cut

theorem uncut_of_not_mem {w : List Char} (h : x ∉ w) : ∀ c ∈ w, (c == x) = false := fun c hc => by
  rw [beq_eq_false_iff_ne]
  exact fun hcx => h (hcx ▸ hc)

/-! ### Cutting a text that is put together -/

theorem pieces_append_cons (h : p x = true) (a b : List Char) :
    pieces p (a ++ x :: b) = pieces p a ++ pieces p b := by
  simp only [pieces_eq_splitOnP, List.splitOnP_append_cons a b h]

theorem words_append_cons (h : p x = true) (a b : List Char) :
    words p (a ++ x :: b) = words p a ++ words p b := by
  rw [words, pieces_append_cons h, List.filter_append, words, words]

theorem splitWords_eq_filter (p : Char → Bool) (s : String) :
    splitWords p s = (split p s).filter (· ≠ "") := by
  rw [splitWords, words, split, List.filter_map]
  refine congrArg (List.map String.ofList) (List.filter_congr fun w _ => ?_)
  cases w <;> simp

theorem mem_words {w cs : List Char} : w ∈ words p cs ↔ w ∈ pieces p cs ∧ w ≠ [] := by
  simp [words]

theorem count_intercalate {ws : List (List Char)} (h : ∀ w ∈ ws, x ∉ w) :
    ([x].intercalate ws).count x = ws.length - 1 := by
  induction ws with
  | nil => simp
  | cons w ws ih =>
    have here : w.count x = 0 := List.count_eq_zero.mpr (h w List.mem_cons_self)
    have later := ih fun v hv => h v (List.mem_cons_of_mem w hv)
    cases ws with
    | nil => simpa using here
    | cons v ws => simp_all [List.count_append, Nat.add_comm]

/-- **Pieces are told by their text**: they hold no cut, and put together with cuts between them
they are the text. -/
theorem split_eq_iff {s : String} {parts : List String} :
    split (· == x) s = parts ↔
      parts ≠ [] ∧ (∀ w ∈ parts, x ∉ w.toList) ∧ (String.singleton x).intercalate parts = s := by
  rw [split, pieces_eq_splitOnP, ← List.splitOn_eq_splitOnP]
  constructor
  · rintro rfl
    refine ⟨by simp, fun w hw => ?_, ?_⟩
    · obtain ⟨cs, hcs, rfl⟩ := List.mem_map.mp hw
      rw [List.splitOn_eq_splitOnP, ← pieces_eq_splitOnP] at hcs
      rw [String.toList_ofList]
      exact not_mem_of_mem_pieces hcs
    · rw [← String.toList_inj, String.toList_intercalate]
      simp
  · rintro ⟨some_part, uncut, rfl⟩
    have parts_back : (parts.map String.toList).map String.ofList = parts := by simp
    rw [String.toList_intercalate, String.toList_singleton,
      List.splitOn_intercalate x (by simpa using uncut) (by simpa using some_part), parts_back]

/-! ### Taking the pieces apart -/

/-- Two parts of the pieces come from the two sides of a cut. -/
theorem exists_cut_of_pieces {cs : List Char} {front back : List (List Char)} (hf : front ≠ [])
    (hb : back ≠ []) (h : pieces p cs = front ++ back) :
    ∃ a x b, cs = a ++ x :: b ∧ p x = true ∧ pieces p a = front ∧ pieces p b = back := by
  induction cs generalizing front with
  | nil =>
    obtain ⟨u, us, rfl⟩ := List.exists_cons_of_ne_nil hf
    obtain ⟨v, vs, rfl⟩ := List.exists_cons_of_ne_nil hb
    simp [pieces] at h
  | cons c cs ih =>
    obtain ⟨u, front, rfl⟩ := List.exists_cons_of_ne_nil hf
    cases hc : p c with
    | true =>
      rw [pieces_cons_of_pos hc, List.cons_append, List.cons.injEq] at h
      obtain ⟨rfl, later⟩ := h
      rcases eq_or_ne front [] with rfl | some_front
      · exact ⟨[], c, cs, rfl, hc, rfl, later⟩
      · obtain ⟨a, x, b, rfl, hx, ha, hb⟩ := ih some_front later
        exact ⟨c :: a, x, b, rfl, hx, by rw [pieces_cons_of_pos hc, ha], hb⟩
    | false =>
      obtain ⟨w, ws, hw⟩ := List.exists_cons_of_ne_nil (pieces_ne_nil p cs)
      rw [pieces_cons_of_neg hc hw, List.cons_append, List.cons.injEq] at h
      obtain ⟨rfl, rfl⟩ := h
      obtain ⟨a, x, b, rfl, hx, ha, hb⟩ := ih (List.cons_ne_nil w front) hw
      exact ⟨c :: a, x, b, rfl, hx, pieces_cons_of_neg hc ha, hb⟩

/-- A text without cuts in front of another one belongs to its first piece. -/
theorem pieces_append_uncut {w cs v : List Char} {vs : List (List Char)}
    (uncut : ∀ c ∈ w, p c = false) (h : pieces p cs = v :: vs) :
    pieces p (w ++ cs) = (w ++ v) :: vs := by
  induction w with
  | nil => exact h
  | cons c w ih =>
    exact pieces_cons_of_neg (uncut c List.mem_cons_self)
      (ih fun d hd => uncut d (List.mem_cons_of_mem c hd))

theorem pieces_of_uncut {w : List Char} (uncut : ∀ c ∈ w, p c = false) : pieces p w = [w] := by
  have none_behind : pieces p [] = [[]] := rfl
  have h := pieces_append_uncut uncut none_behind
  rwa [List.append_nil] at h

theorem eq_of_pieces_eq_singleton : ∀ {cs w : List Char}, pieces p cs = [w] → cs = w
  | [], w, h => (List.cons.inj h).1
  | c :: cs, w, h => by
    obtain ⟨v, vs, hv⟩ := List.exists_cons_of_ne_nil (pieces_ne_nil p cs)
    rcases hc : p c with _ | _
    · rw [pieces_cons_of_neg hc hv, List.cons.injEq] at h
      obtain ⟨rfl, rfl⟩ := h
      rw [eq_of_pieces_eq_singleton hv]
    · rw [pieces_cons_of_pos hc, hv] at h
      cases h

/-- A text starts with its first piece. -/
theorem exists_rest_of_pieces {cs w : List Char} {ws : List (List Char)}
    (h : pieces p cs = w :: ws) : ∃ rest, cs = w ++ rest ∧ pieces p rest = [] :: ws := by
  rcases eq_or_ne ws [] with rfl | some_piece
  · exact ⟨[], by rw [eq_of_pieces_eq_singleton h, List.append_nil], rfl⟩
  · have first : [w] ≠ [] := List.cons_ne_nil w []
    obtain ⟨a, x, b, rfl, hx, ha, hb⟩ := exists_cut_of_pieces first some_piece h
    exact ⟨x :: b, by rw [eq_of_pieces_eq_singleton ha], by rw [pieces_cons_of_pos hx, hb]⟩

/-! ### Searching the pieces -/

theorem prefix_of_pieces {cs w : List Char} {ws : List (List Char)} (h : pieces p cs = w :: ws) :
    w <+: cs := by
  induction cs generalizing w ws with
  | nil => cases h; exact List.prefix_rfl
  | cons c cs ih =>
    cases hc : p c with
    | true =>
      rw [pieces_cons_of_pos hc] at h
      cases h
      exact List.nil_prefix
    | false =>
      obtain ⟨v, vs, hv⟩ := List.exists_cons_of_ne_nil (pieces_ne_nil p cs)
      rw [pieces_cons_of_neg hc hv] at h
      cases h
      exact (List.prefix_cons_inj c).mpr (ih hv)

/-- A piece stands contiguously in the text. -/
theorem infix_of_mem_pieces {cs w : List Char} (h : w ∈ pieces p cs) : w <:+: cs := by
  induction cs generalizing w with
  | nil => rw [pieces, List.mem_singleton] at h; exact h ▸ List.infix_rfl
  | cons c cs ih =>
    cases hc : p c with
    | true =>
      rw [pieces_cons_of_pos hc] at h
      rcases List.mem_cons.mp h with rfl | h
      · exact List.nil_infix
      · exact List.infix_cons (ih h)
    | false =>
      obtain ⟨v, vs, hv⟩ := List.exists_cons_of_ne_nil (pieces_ne_nil p cs)
      rw [pieces_cons_of_neg hc hv] at h
      rcases List.mem_cons.mp h with rfl | h
      · exact ((List.prefix_cons_inj c).mpr (prefix_of_pieces hv)).isInfix
      · exact List.infix_cons (ih (hv ▸ List.mem_cons_of_mem v h))

/-- A text without cuts at the start of another one stands at the start of its first piece. -/
theorem prefix_piece {needle cs w : List Char} {ws : List (List Char)}
    (uncut : ∀ c ∈ needle, p c = false) (h : needle <+: cs) (hw : pieces p cs = w :: ws) :
    needle <+: w := by
  induction needle generalizing cs w ws with
  | nil => exact List.nil_prefix
  | cons c needle ih =>
    obtain ⟨rest, rfl⟩ := h
    obtain ⟨v, vs, hv⟩ := List.exists_cons_of_ne_nil (pieces_ne_nil p (needle ++ rest))
    rw [List.cons_append, pieces_cons_of_neg (uncut c List.mem_cons_self) hv] at hw
    cases hw
    exact (List.prefix_cons_inj c).mpr
      (ih (fun d hd => uncut d (List.mem_cons_of_mem c hd)) (List.prefix_append needle rest) hv)

/-- **No occurrence of a text without cuts straddles a cut.** -/
theorem infix_iff_piece {needle cs : List Char} (uncut : ∀ c ∈ needle, p c = false) :
    needle <:+: cs ↔ ∃ w ∈ pieces p cs, needle <:+: w := by
  refine ⟨fun h => ?_, fun ⟨w, hw, h⟩ => h.trans (infix_of_mem_pieces hw)⟩
  induction cs with
  | nil => exact ⟨[], List.mem_singleton_self _, h⟩
  | cons c cs ih =>
    obtain ⟨v, vs, hv⟩ := List.exists_cons_of_ne_nil (pieces_ne_nil p (c :: cs))
    rcases List.infix_cons_iff.mp h with start | later
    · exact ⟨v, hv ▸ List.mem_cons_self, (prefix_piece uncut start hv).isInfix⟩
    · obtain ⟨w, hw, inside⟩ := ih later
      cases hc : p c with
      | true => exact ⟨w, pieces_cons_of_pos hc cs ▸ List.mem_cons_of_mem [] hw, inside⟩
      | false =>
        obtain ⟨u, us, hu⟩ := List.exists_cons_of_ne_nil (pieces_ne_nil p cs)
        rw [pieces_cons_of_neg hc hu]
        rcases List.mem_cons.mp (hu ▸ hw) with rfl | hw
        · exact ⟨c :: w, List.mem_cons_self, List.infix_cons inside⟩
        · exact ⟨w, List.mem_cons_of_mem _ hw, inside⟩

/-- A text that is not empty does not occur in an empty piece. -/
theorem infix_iff_word {needle cs : List Char} (uncut : ∀ c ∈ needle, p c = false)
    (some_char : needle ≠ []) : needle <:+: cs ↔ ∃ w ∈ words p cs, needle <:+: w := by
  rw [infix_iff_piece uncut]
  constructor
  · rintro ⟨w, hw, h⟩
    refine ⟨w, mem_words.mpr ⟨hw, ?_⟩, h⟩
    rintro rfl
    exact some_char (List.eq_nil_of_infix_nil h)
  · rintro ⟨w, hw, h⟩
    exact ⟨w, (mem_words.mp hw).1, h⟩

end ArtifactFetch.Text
