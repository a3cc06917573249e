import ArtifactFetch.Proofs.Coordinate.Key
import ArtifactFetch.Proofs.Text.Cut
import Mathlib.Data.List.Basic

/-! # The texts of coordinates

A text is that of a coordinate if it has one or two colons and something before the first of them
(`IsText`); every other text is refused. What is read off a text is given by its parts
(`parse_eq_ok_iff`), and its key is the text again unless the version was left empty, in which case
the last colon is missing. The other way round, a coordinate is read back from its key if the key
tells its parts and neither its group nor its version is an empty text (`parse_key_iff`). -/

namespace ArtifactFetch.Coordinate

variable {s : String} {c : Coordinate}

/-- One or two colons, and something before the first of them. -/
def IsText (s : String) : Prop :=
  (colons s = 1 ∨ colons s = 2) ∧ s.toList.takeWhile (· ≠ ':') ≠ []

instance (s : String) : Decidable (IsText s) := inferInstanceAs (Decidable (_ ∧ _))

/-- No part has a colon. -/
def Free (c : Coordinate) : Prop := c.Plain ∧ ∀ v, c.version = some v → colons v = 0

/-! ### Parts -/

theorem colons_eq_zero_iff : colons s = 0 ↔ ':' ∉ s.toList := List.count_eq_zero

@[simp] theorem colons_append (s t : String) : colons (s ++ t) = colons s + colons t := by
  simp [colons, List.count_append]

@[simp] theorem colons_colon : colons ":" = 1 := by decide

theorem singleton_colon : String.singleton ':' = ":" := rfl

theorem length_split (s : String) : (Text.split (· == ':') s).length = colons s + 1 := by
  obtain ⟨some_part, uncut, whole⟩ := Text.split_eq_iff (x := ':').mp (rfl : _ = _)
  have free : ∀ w ∈ (Text.split (· == ':') s).map String.toList, ':' ∉ w := by simpa using uncut
  have count := Text.count_intercalate free
  have text := congrArg String.toList whole
  rw [String.toList_intercalate, String.toList_singleton] at text
  rw [text, List.length_map] at count
  have positive := List.length_pos_iff.mpr some_part
  unfold colons
  omega

theorem split_eq_pair_iff {g a : String} :
    Text.split (· == ':') s = [g, a] ↔ colons g = 0 ∧ colons a = 0 ∧ g ++ ":" ++ a = s := by
  rw [Text.split_eq_iff, colons_eq_zero_iff, colons_eq_zero_iff, singleton_colon]
  simp [and_assoc]

theorem split_eq_triple_iff {g a v : String} :
    Text.split (· == ':') s = [g, a, v] ↔
      colons g = 0 ∧ colons a = 0 ∧ colons v = 0 ∧ g ++ ":" ++ a ++ ":" ++ v = s := by
  rw [Text.split_eq_iff, colons_eq_zero_iff, colons_eq_zero_iff, colons_eq_zero_iff,
    singleton_colon]
  simp [and_assoc, String.append_assoc]

theorem regroup (g a v : String) :
    g ++ ":" ++ a ++ ":" ++ v = g ++ ":" ++ (a ++ ":" ++ v) := by
  simp only [String.append_assoc]

/-- What stands before the first colon. -/
theorem takeWhile_before_colon {g : String} (h : colons g = 0) (rest : String) :
    (g ++ ":" ++ rest).toList.takeWhile (· ≠ ':') = g.toList := by
  have before : ∀ x ∈ g.toList, decide (x ≠ ':') = true := by
    intro x hx
    rw [decide_eq_true_eq]
    rintro rfl
    exact colons_eq_zero_iff.mp h hx
  rw [String.toList_append, String.toList_append, List.append_assoc,
    List.takeWhile_append_of_pos before]
  simp

/-! ### Reading -/

theorem ofParts_eq_some_iff {parts : List String} :
    ofParts parts = some c ↔
      parts = [c.group, c.artifact] ∧ c.version = none ∨
        ∃ v, parts = [c.group, c.artifact, v] ∧ c.version = if v = "" then none else some v := by
  constructor
  · intro h
    unfold ofParts at h
    split at h
    · cases h; exact .inl ⟨rfl, rfl⟩
    · cases h; exact .inr ⟨_, rfl, rfl⟩
    · cases h
  · cases c
    rintro (⟨rfl, rfl⟩ | ⟨v, rfl, rfl⟩)
    · rfl
    · rfl

/-- That the coordinate was read off the text. -/
structure ReadOff (s : String) (c : Coordinate) : Prop where
  group : c.group ≠ ""
  plain : c.Plain
  text : c.version = none ∧ c.group ++ ":" ++ c.artifact = s ∨
    ∃ v, colons v = 0 ∧ (c.version = if v = "" then none else some v) ∧
      c.group ++ ":" ++ c.artifact ++ ":" ++ v = s

theorem parse_eq_ok_iff_ofParts :
    parse s = .ok c ↔ ofParts (Text.split (· == ':') s) = some c ∧ c.group ≠ "" := by
  unfold parse
  cases ofParts (Text.split (· == ':') s) with
  | none => simp
  | some d =>
    by_cases h : d.group = ""
    · simp only [h, if_true, reduceCtorEq, Option.some.injEq, false_iff, not_and, not_not]
      rintro rfl
      exact h
    · simp only [h, if_false, Except.ok.injEq, Option.some.injEq]
      constructor
      · rintro rfl
        exact ⟨rfl, h⟩
      · exact And.left

/-- **What is read off a text** are its parts. -/
theorem parse_eq_ok_iff : parse s = .ok c ↔ ReadOff s c := by
  rw [parse_eq_ok_iff_ofParts, ofParts_eq_some_iff]
  constructor
  · rintro ⟨⟨parts, version⟩ | ⟨v, parts, version⟩, group⟩
    · obtain ⟨hg, ha, text⟩ := split_eq_pair_iff.mp parts
      exact ⟨group, ⟨hg, ha⟩, .inl ⟨version, text⟩⟩
    · obtain ⟨hg, ha, hv, text⟩ := split_eq_triple_iff.mp parts
      exact ⟨group, ⟨hg, ha⟩, .inr ⟨v, hv, version, text⟩⟩
  · rintro ⟨group, plain, ⟨version, text⟩ | ⟨v, hv, version, text⟩⟩
    · exact ⟨.inl ⟨split_eq_pair_iff.mpr ⟨plain.1, plain.2, text⟩, version⟩, group⟩
    · exact ⟨.inr ⟨v, split_eq_triple_iff.mpr ⟨plain.1, plain.2, hv, text⟩, version⟩, group⟩

/-- **The texts that are read** are those of the form of a coordinate. -/
theorem exists_parse_iff : (∃ c, parse s = .ok c) ↔ IsText s := by
  constructor
  · rintro ⟨c, h⟩
    obtain ⟨group, plain, ⟨-, rfl⟩ | ⟨v, hv, -, rfl⟩⟩ := parse_eq_ok_iff.mp h
    · refine ⟨.inl (by simp [plain.1, plain.2]), ?_⟩
      rw [takeWhile_before_colon plain.1]
      simpa using group
    · refine ⟨.inr (by simp [plain.1, plain.2, hv]), ?_⟩
      rw [regroup, takeWhile_before_colon plain.1]
      simpa using group
  · rintro ⟨one | two, front⟩
    · have length := length_split s
      rw [one] at length
      obtain ⟨g, a, parts⟩ := List.length_eq_two.mp length
      obtain ⟨hg, ha, rfl⟩ := split_eq_pair_iff.mp parts
      rw [takeWhile_before_colon hg] at front
      exact ⟨⟨g, a, none⟩, parse_eq_ok_iff.mpr ⟨by simpa using front, ⟨hg, ha⟩, .inl ⟨rfl, rfl⟩⟩⟩
    · have length := length_split s
      rw [two] at length
      obtain ⟨g, a, v, parts⟩ := List.length_eq_three.mp length
      obtain ⟨hg, ha, hv, rfl⟩ := split_eq_triple_iff.mp parts
      rw [regroup, takeWhile_before_colon hg] at front
      exact ⟨⟨g, a, if v = "" then none else some v⟩, parse_eq_ok_iff.mpr
        ⟨by simpa using front, ⟨hg, ha⟩, .inr ⟨v, hv, rfl, rfl⟩⟩⟩

theorem parse_of_not_isText (h : ¬ IsText s) : parse s = .error (.invalidCoordinate s) := by
  have refused : ∀ c, parse s ≠ .ok c := fun c hc => h (exists_parse_iff.mp ⟨c, hc⟩)
  unfold parse at refused ⊢
  split
  · next c _ =>
    split
    · rfl
    · next hparts hgroup =>
      rw [hparts] at refused
      exact absurd (if_neg hgroup) (refused c)
  · rfl

/-! ### Keys -/

theorem key_of_none (h : c.version = none) : c.key = c.group ++ ":" ++ c.artifact := by
  rw [key, h]

theorem key_of_some {v : String} (h : c.version = some v) :
    c.key = c.group ++ ":" ++ c.artifact ++ ":" ++ v := by
  rw [key, h]

/-- The last of three parts was left empty. -/
def EndsOpen (s : String) : Prop := colons s = 2 ∧ s.toList.getLast? = some ':'

instance (s : String) : Decidable (EndsOpen s) := inferInstanceAs (Decidable (_ ∧ _))

theorem endsOpen_iff {front v : String} (hf : colons front = 2) (hv : colons v = 0) :
    EndsOpen (front ++ v) ↔ v = "" ∧ front.toList.getLast? = some ':' := by
  unfold EndsOpen
  rw [colons_append, hf, hv, String.toList_append, List.getLast?_append]
  rcases hl : v.toList.getLast? with _ | last
  · have empty : v = "" := by simpa using List.getLast?_eq_none_iff.mp hl
    simp [empty]
  · have mem : last ∈ v.toList := List.mem_of_getLast? hl
    have not_colon : last ≠ ':' := fun h => colons_eq_zero_iff.mp hv (h ▸ mem)
    have some_char : v ≠ "" := by rintro rfl; cases mem
    simp [not_colon, some_char]

/-- **The key of what was read** is the text, but for the last colon before an empty version. -/
theorem ReadOff.key (h : ReadOff s c) :
    if EndsOpen s then c.version = none ∧ c.key ++ ":" = s else c.key = s := by
  obtain ⟨-, plain, ⟨version, rfl⟩ | ⟨v, hv, version, rfl⟩⟩ := h
  · have one : ¬ EndsOpen (c.group ++ ":" ++ c.artifact) := by
      rintro ⟨two, -⟩
      simp [plain.1, plain.2] at two
    rw [if_neg one, key_of_none version]
  · have front : colons (c.group ++ ":" ++ c.artifact ++ ":") = 2 := by simp [plain.1, plain.2]
    have open_iff := endsOpen_iff front hv
    by_cases empty : v = ""
    · rw [if_pos empty] at version
      have last : (c.group ++ ":" ++ c.artifact ++ ":").toList.getLast? = some ':' := by
        rw [String.toList_append, List.getLast?_append]
        rfl
      rw [if_pos (open_iff.mpr ⟨empty, last⟩), key_of_none version, empty, String.append_empty]
      exact ⟨version, rfl⟩
    · rw [if_neg empty] at version
      rw [if_neg fun h => empty (open_iff.mp h).1, key_of_some version]

/-- **The coordinates that are read back** from their keys. -/
theorem parse_key_iff : parse c.key = .ok c ↔ c.group ≠ "" ∧ c.Free ∧ c.version ≠ some "" := by
  rw [parse_eq_ok_iff]
  constructor
  · rintro ⟨group, plain, ⟨version, -⟩ | ⟨v, hv, version, -⟩⟩
    · exact ⟨group, ⟨plain, by simp [version]⟩, by simp [version]⟩
    · rw [version]
      split_ifs with empty
      · exact ⟨group, ⟨plain, by simp [version, empty]⟩, by simp⟩
      · exact ⟨group, ⟨plain, by simpa [version, empty] using hv⟩, by simpa using empty⟩
  · rintro ⟨group, ⟨plain, hversion⟩, some_char⟩
    refine ⟨group, plain, ?_⟩
    rcases hv : c.version with _ | v
    · exact .inl ⟨rfl, (key_of_none hv).symm⟩
    · have some_char : v ≠ "" := fun h => some_char (hv.trans (congrArg some h))
      exact .inr ⟨v, hversion v hv, by rw [if_neg some_char], (key_of_some hv).symm⟩

/-- What reading the text `s` has to give. -/
structure Reads (s : String) (r : Except FetchError Coordinate) : Prop where
  accepts : (∃ c, r = .ok c) ↔ IsText s
  refuses : ¬ IsText s → r = .error (.invalidCoordinate s)
  key : ∀ c, r = .ok c → if EndsOpen s then c.version = none ∧ c.key ++ ":" = s else c.key = s

/-- **Coordinates as texts**: which texts are read and as what, which coordinates are read back from
their keys, and that the keys of coordinates without colons are unique. -/
theorem parse_reads :
    (∀ s, Reads s (parse s)) ∧
      (∀ c : Coordinate, parse c.key = .ok c ↔ c.group ≠ "" ∧ c.Free ∧ c.version ≠ some "") ∧
      ∀ c c' : Coordinate, c.Free → c'.Free → c.key = c'.key → c = c' := by
  refine ⟨fun s => ⟨exists_parse_iff, parse_of_not_isText, ?_⟩, fun c => parse_key_iff, ?_⟩
  · intro c h
    exact (parse_eq_ok_iff.mp h).key
  · intro c c' free free' same
    exact eq_of_key free.1 free'.1 same

/-- A version left empty, a version, and one part too many. -/
theorem parse_reads_open :
    (⟨"g", "a", none⟩ : Coordinate).key ++ ":" = "g:a:" ∧
      parse (⟨"g", "a", some "1-b"⟩ : Coordinate).key = .ok ⟨"g", "a", some "1-b"⟩ ∧
      parse "a:b:c:d" = .error (.invalidCoordinate "a:b:c:d") ∧
      (⟨"g", "a.b", none⟩ : Coordinate).key ≠ (⟨"g.a", "b", none⟩ : Coordinate).key := by
  obtain ⟨reads, back, unique⟩ := parse_reads
  have free : ∀ g a : String, colons g = 0 → colons a = 0 → Free ⟨g, a, none⟩ :=
    fun g a hg ha => ⟨⟨hg, ha⟩, nofun⟩
  refine ⟨?_, ?_, (reads _).refuses (by decide +kernel), fun same => ?_⟩
  · have key := (reads "g:a:").key ⟨"g", "a", none⟩ rfl
    rw [if_pos (by decide +kernel)] at key
    exact key.2
  · refine (back _).mpr ⟨by decide, ⟨by decide +kernel, ?_⟩, by decide⟩
    rintro v ⟨⟩
    decide +kernel
  · have equal := unique _ _ (free "g" "a.b" (by decide +kernel) (by decide +kernel))
      (free "g.a" "b" (by decide +kernel) (by decide +kernel)) same
    exact absurd equal (by decide)

end ArtifactFetch.Coordinate
