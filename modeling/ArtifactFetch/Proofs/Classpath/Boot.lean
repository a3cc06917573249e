import ArtifactFetch.Classpath
import ArtifactFetch.Proofs.Text.Cut

/-! # The boot classpath as a text

Cutting a classpath text into entries loses nothing that is searched for and invents nothing: a name
without separators is found in the entries if and only if it stands in the text
(`contains_parse_iff`), a name with one is never found (`not_contains_parse`), and texts put
together at a separator have the entries of both (`entries_parse_append`). -/

namespace ArtifactFetch.BootClasspath

variable {raw target : String}

/-- The characters that part entries. -/
def separators : List Char := [':', '|', ';']

theorem isSeparator_iff {c : Char} : isSeparator c = true ↔ c ∈ separators := by
  simp [isSeparator, separators, or_assoc]

/-- A text that holds no separator. -/
def Whole (s : String) : Prop := ∀ c ∈ separators, c ∉ s.toList

instance (s : String) : Decidable (Whole s) := List.decidableBAll (· ∉ s.toList) separators

theorem whole_iff {s : String} : Whole s ↔ ∀ c ∈ s.toList, isSeparator c = false := by
  constructor
  · intro h c hc
    exact Bool.eq_false_iff.mpr fun sep => h c (isSeparator_iff.mp sep) hc
  · intro h c sep hc
    exact Bool.false_ne_true ((h c hc).symm.trans (isSeparator_iff.mpr sep))

theorem entry_parse {e : String} (h : e ∈ (parse raw).entries) : e ≠ "" ∧ Whole e := by
  obtain ⟨w, hw, rfl⟩ := List.mem_map.mp h
  obtain ⟨piece, some_char⟩ := Text.mem_words.mp hw
  refine ⟨fun empty => some_char (by simpa using congrArg String.toList empty), ?_⟩
  rw [whole_iff, String.toList_ofList]
  exact fun c hc => Text.neg_of_mem_pieces piece hc

theorem contains_iff {b : BootClasspath} :
    b.contains target = true ↔ ∃ e ∈ b.entries, target.toList <:+: e.toList := by
  simp only [contains, List.any_eq_true, Text.contains_iff]

/-- **What stands in the text is found in the entries**, and nothing else is. -/
theorem contains_parse_iff (some_char : target ≠ "") (whole : Whole target) :
    (parse raw).contains target = true ↔ target.toList <:+: raw.toList := by
  rw [contains_iff, Text.infix_iff_word (whole_iff.mp whole) (by simpa using some_char)]
  simp [parse, Text.splitWords]

/-- A name with a separator is in no entry. -/
theorem not_contains_parse (cut : ¬ Whole target) : (parse raw).contains target = false := by
  refine Bool.eq_false_iff.mpr fun found => cut ?_
  obtain ⟨e, he, inside⟩ := contains_iff.mp found
  exact fun c sep hc => (entry_parse he).2 c sep (inside.subset hc)

theorem entries_parse_append {sep : Char} (h : sep ∈ separators) (left right : String) :
    (parse (left ++ String.singleton sep ++ right)).entries
      = (parse left).entries ++ (parse right).entries := by
  have cut := Text.words_append_cons (isSeparator_iff.mpr h) left.toList right.toList
  simp [parse, Text.splitWords, cut]

/-- That the entries of `b` stand for the text `raw`. -/
structure StandsFor (b : BootClasspath) (raw : String) : Prop where
  found : ∀ target, target ≠ "" → Whole target →
    (b.contains target = true ↔ target.toList <:+: raw.toList)
  unfound : ∀ target, ¬ Whole target → b.contains target = false
  joined : ∀ left right, ∀ sep ∈ separators, raw = left ++ String.singleton sep ++ right →
    b.entries = (parse left).entries ++ (parse right).entries
  entries : ∀ e ∈ b.entries, e ≠ "" ∧ Whole e

/-- **The entries of a classpath text stand for it.** -/
theorem parse_standsFor (raw : String) : (parse raw).StandsFor raw where
  found _ some_char whole := contains_parse_iff some_char whole
  unfound _ cut := not_contains_parse cut
  joined left right _ sep text := text ▸ entries_parse_append sep left right
  entries _ h := entry_parse h

/-- A name across two entries of a text with an empty entry between them, and a part of one. -/
theorem parse_standsFor_mixed :
    (parse "lib/a-1.jar:;b-2.jar|").contains "a-1" = true ∧
      (parse "lib/a-1.jar:;b-2.jar|").contains "jarb" = false ∧
      (parse "lib/a-1.jar:;b-2.jar|").contains "jar:" = false := by
  have stands := parse_standsFor "lib/a-1.jar:;b-2.jar|"
  refine ⟨(stands.found _ (by decide) (by decide +kernel)).mpr (by decide +kernel), ?_,
    stands.unfound _ (by decide +kernel)⟩
  refine Bool.eq_false_iff.mpr fun found => ?_
  have inside := (stands.found _ (by decide) (by decide +kernel)).mp found
  exact absurd inside (by decide +kernel)

end ArtifactFetch.BootClasspath
