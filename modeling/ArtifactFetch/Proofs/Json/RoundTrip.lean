import ArtifactFetch.Proofs.Json.Objects

/-! # What is written is read back

What the writers write is of the grammar: a string in one of its spellings (`denotes_writeText`), a
flag, a count or `null`, and members with the same blanks around each of them, on one line
(`objectText_compact`) or with a line for each (`objectText_indented`). So a record that is written
holds its data (`holds_compact`, `holds_indented`). -/

namespace ArtifactFetch.Json

/-! ### Single values -/

theorem hexDigit_digitChar {n : Nat} (h : n < 16) : HexDigit n n.digitChar := ⟨h, .inl rfl⟩

theorem hex4_hex4 {n : Nat} (h : n < 0x10000) : Hex4 n (hex4 n) := by
  have digits : ((n / 4096 % 16 * 16 + n / 256 % 16) * 16 + n / 16 % 16) * 16 + n % 16 = n := by
    omega
  have four := Hex4.mk (hexDigit_digitChar (n := n / 4096 % 16) (by omega))
    (hexDigit_digitChar (n := n / 256 % 16) (by omega))
    (hexDigit_digitChar (n := n / 16 % 16) (by omega))
    (hexDigit_digitChar (n := n % 16) (by omega))
  rwa [digits] at four

/-- A character is written in one of its spellings. -/
theorem spellsChar_escapeChar (c : Char) : SpellsChar c (escapeChar c) := by
  unfold escapeChar
  split
  · next h => subst h; exact .letter .quote
  split
  · next h => subst h; exact .letter .backslash
  split
  · next h => subst h; exact .letter .backspace
  split
  · next h => subst h; exact .letter .formFeed
  split
  · next h => subst h; exact .letter .lineFeed
  split
  · next h => subst h; exact .letter .carriageReturn
  split
  · next h => subst h; exact .letter .tab
  split
  · next h => exact .unit (hex4_hex4 (by omega))
  · next quote slash _ _ _ _ _ control => exact .bare ⟨quote, slash, by omega⟩

theorem spells_flatMap (s : List Char) : Spells s (s.flatMap escapeChar) := by
  induction s with
  | nil => exact .nil
  | cons c s ih => exact .cons (spellsChar_escapeChar c) ih

theorem denotes_writeText (s : String) : Denotes (.text s) (writeText s) :=
  .text (spells_flatMap s.toList)

theorem denotes_writeFlag (b : Bool) : Denotes (.flag b) (writeFlag b) := by
  cases b with
  | false => exact .false
  | true => exact .true

theorem denotes_writeCount (n : UInt64) : Denotes (.count n) (writeCount n) := .count n

theorem denotes_writeOptional {α : Type} {write : α → List Char} {datum : α → Datum}
    (h : ∀ a, Denotes (datum a) (write a)) (o : Option α) :
    Denotes (.optional datum o) (writeOptional write o) := by
  cases o with
  | none => exact .null
  | some a => exact h a

/-! ### Objects -/

section Members
variable {lead gap tail : List Char} (leadBlank : AllBlank lead) (gapBlank : AllBlank gap)
include leadBlank gapBlank

theorem memberText_written (name : String) (value : List Char) (tailBlank : AllBlank tail) :
    MemberText (name, value)
      (lead ++ writeText name ++ (':' :: gap) ++ value ++ tail) := by
  have text : MemberText (name, value) _ :=
    .mk (spells_flatMap name.toList) leadBlank allBlank_nil gapBlank tailBlank
  simpa [writeText] using text

/-- Members as they are written, with blanks behind the last one. -/
theorem membersText_written (tailBlank : AllBlank tail) {ms : List Member} (h : ms ≠ []) :
    MembersText ms (writeMembers lead (':' :: gap) ms ++ tail) := by
  fun_induction writeMembers lead (':' :: gap) ms with
  | case1 => exact absurd rfl h
  | case2 name value => exact .last (memberText_written leadBlank gapBlank name value tailBlank)
  | case3 name value ms some_member ih =>
    have first := memberText_written leadBlank gapBlank name value allBlank_nil
    rw [List.append_nil] at first
    have all := MembersText.more first (ih some_member)
    simpa only [List.append_assoc, List.cons_append] using all

end Members

/-- An object on one line. -/
theorem objectText_compact {ms : List Member} (h : ms ≠ []) : ObjectText ms (compact ms) := by
  have members := membersText_written allBlank_nil allBlank_nil allBlank_nil h
  rw [List.append_nil] at members
  exact .members allBlank_nil members allBlank_nil

/-- An object with a line for each member. -/
theorem objectText_indented {ms : List Member} (h : ms ≠ []) : ObjectText ms (indented ms) := by
  have blanks : AllBlank ['\n', ' ', ' '] ∧ AllBlank [' '] ∧ AllBlank ['\n'] := by
    simp [AllBlank, isBlank]
  have members := membersText_written blanks.1 blanks.2.1 blanks.2.2 h
  have text := ObjectText.members allBlank_nil members allBlank_nil
  simpa [indented] using text

theorem holds_compact {known : List String} {ms : List Member} {data : List Given}
    (h : ms ≠ []) (gives : Gives known ms data) :
    Holds known data (String.ofList (compact ms)) :=
  (objectText_compact h).holds gives String.toList_ofList

theorem holds_indented {known : List String} {ms : List Member} {data : List Given}
    (h : ms ≠ []) (gives : Gives known ms data) :
    Holds known data (String.ofList (indented ms)) :=
  (objectText_indented h).holds gives String.toList_ofList

end ArtifactFetch.Json
