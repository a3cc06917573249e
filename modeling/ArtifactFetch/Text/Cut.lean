/-! # Cutting and searching text

`pieces p` cuts a text at every character of the class `p` and drops the cuts; `words p` keeps the
pieces that are not empty. `occursIn` asks whether one text stands contiguously inside another. All
work on lists of characters; `split`, `splitWords` and `contains` are the same on strings. -/

namespace ArtifactFetch.Text

/-- The stretches of a text between the characters of class `p`, empty ones included. -/
def pieces (p : Char → Bool) : List Char → List (List Char)
  | [] => [[]]
  | c :: cs =>
    if p c then [] :: pieces p cs
    else match pieces p cs with
      | [] => [[c]]
      | w :: ws => (c :: w) :: ws

/-- The non-empty stretches of a text between the characters of class `p`. -/
def words (p : Char → Bool) (cs : List Char) : List (List Char) :=
  (pieces p cs).filter (!·.isEmpty)

/-- `needle` stands contiguously somewhere in the text. -/
def occursIn (needle : List Char) : List Char → Bool
  | [] => needle.isEmpty
  | c :: cs => needle.isPrefixOf (c :: cs) || occursIn needle cs

/-- Texts put one after another with `sep` between neighbours. -/
def joinWith (sep : List Char) : List (List Char) → List Char
  | [] => []
  | [w] => w
  | w :: ws => w ++ sep ++ joinWith sep ws

/-- The stretches of a string between the characters of class `p`, empty ones included. -/
def split (p : Char → Bool) (s : String) : List String :=
  (pieces p s.toList).map String.ofList

/-- The non-empty stretches of a string between the characters of class `p`. -/
def splitWords (p : Char → Bool) (s : String) : List String :=
  (words p s.toList).map String.ofList

/-- `needle` stands contiguously somewhere in `s`. -/
def contains (s needle : String) : Bool :=
  occursIn needle.toList s.toList

/-! ### Small facts -/

theorem pieces_ne_nil (p : Char → Bool) (cs : List Char) : pieces p cs ≠ [] := by
  cases cs with
  | nil => simp [pieces]
  | cons c cs =>
    unfold pieces
    split
    · simp
    · split <;> simp

theorem pieces_cons_of_pos {p : Char → Bool} {c : Char} (h : p c) (cs : List Char) :
    pieces p (c :: cs) = [] :: pieces p cs := by
  simp [pieces, h]

theorem pieces_cons_of_neg {p : Char → Bool} {c : Char} (h : p c = false) {cs w : List Char}
    {ws : List (List Char)} (hw : pieces p cs = w :: ws) :
    pieces p (c :: cs) = (c :: w) :: ws := by
  simp [pieces, h, hw]

/-- No stretch of a text holds a character that parts the stretches. -/
theorem neg_of_mem_pieces {p : Char → Bool} : ∀ {cs w : List Char} {c : Char},
    w ∈ pieces p cs → c ∈ w → p c = false
  | [], w, c, hw, hc => by
    rw [pieces, List.mem_singleton] at hw
    rw [hw] at hc
    cases hc
  | x :: cs, w, c, hw, hc => by
    rcases hx : p x with _ | _
    · obtain ⟨w₀, ws, hws⟩ := List.exists_cons_of_ne_nil (pieces_ne_nil p cs)
      rw [pieces_cons_of_neg hx hws] at hw
      rcases List.mem_cons.mp hw with rfl | hw
      · rcases List.mem_cons.mp hc with rfl | hc
        · exact hx
        · exact neg_of_mem_pieces (by rw [hws]; exact List.mem_cons_self) hc
      · exact neg_of_mem_pieces (by rw [hws]; exact List.mem_cons_of_mem _ hw) hc
    · rw [pieces_cons_of_pos hx] at hw
      rcases List.mem_cons.mp hw with rfl | hw
      · cases hc
      · exact neg_of_mem_pieces hw hc

theorem neg_of_mem_split {p : Char → Bool} {s w : String} {c : Char} (hw : w ∈ split p s)
    (hc : c ∈ w.toList) : p c = false := by
  obtain ⟨cs, hcs, rfl⟩ := List.mem_map.mp hw
  rw [String.toList_ofList] at hc
  exact neg_of_mem_pieces hcs hc

theorem occursIn_iff {needle : List Char} :
    ∀ {cs : List Char}, occursIn needle cs = true ↔ needle <:+: cs
  | [] => by simp [occursIn]
  | c :: cs => by
    rw [occursIn, Bool.or_eq_true, List.isPrefixOf_iff_prefix, occursIn_iff, List.infix_cons_iff]

theorem contains_iff {s needle : String} :
    contains s needle = true ↔ needle.toList <:+: s.toList := occursIn_iff

end ArtifactFetch.Text
