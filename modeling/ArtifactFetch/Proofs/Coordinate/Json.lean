import ArtifactFetch.Coordinate
import ArtifactFetch.Proofs.Json.RoundTrip

/-! # Coordinates as JSON texts

A coordinate is read back from its JSON text, and from every other object that gives its parts: in
another order, with blanks, with other spellings of the strings, among members of other names. A
version that is missing can be given as `null` or be left out. -/

namespace ArtifactFetch.Coordinate

/-- The parts of a coordinate. -/
inductive Part where
  | group
  | artifact
  | version
  deriving DecidableEq, Repr

namespace Part

def all : List Part := [group, artifact, version]

def name : Part → String
  | group => "group_id"
  | artifact => "artifact_id"
  | version => "version"

/-- The names that the text of a coordinate knows. -/
def names : List String := all.map name

end Part

variable {c : Coordinate} {parts : List Part} {text : String}

/-- A part as it is given in a text. -/
def given (c : Coordinate) (part : Part) : Json.Given :=
  (part.name, match part with
    | .group => .text c.group
    | .artifact => .text c.artifact
    | .version => .optional .text c.version)

/-- The parts are enough to say which coordinate it is, and none comes twice. -/
def Told (c : Coordinate) (parts : List Part) : Prop :=
  parts.Perm Part.all ∨ c.version = none ∧ parts.Perm [.group, .artifact]

/-! ### Drafts -/

/-- The draft in which only the given parts are set, to those of the coordinate. -/
def Draft.only (c : Coordinate) (parts : List Part) : Draft where
  group := Json.among parts .group c.group
  artifact := Json.among parts .artifact c.artifact
  version := Json.among parts .version c.version

/-- **Every part is read into its place**, whatever was read before. -/
theorem tracks_only (c : Coordinate) : Json.Tracks Draft.fields c.given (Draft.only c) := by
  intro part parts fresh
  have unset : ∀ {α : Type} (a : α), (Json.among parts part a).isSome = false :=
    Json.isSome_among fresh
  cases part with
  | group =>
    exact Json.sets_field rfl (unset _) Json.takes_text (by simp [Draft.only, Json.among])
  | artifact =>
    exact Json.sets_field rfl (unset _) Json.takes_text (by simp [Draft.only, Json.among])
  | version =>
    refine Json.sets_field rfl (unset _)
      (Json.takes_optional Json.takes_text Json.startsValue_text) ?_
    simp [Draft.only, Json.among]

theorem Told.nodup (h : Told c parts) : parts.Nodup := by
  rcases h with all | ⟨-, two⟩
  · exact all.nodup_iff.mpr (by decide)
  · exact two.nodup_iff.mpr (by decide)

theorem Told.mem (h : Told c parts) :
    .group ∈ parts ∧ .artifact ∈ parts ∧ (.version ∈ parts ∨ c.version = none) := by
  rcases h with all | ⟨none, two⟩
  · have given : ∀ part ∈ Part.all, part ∈ parts := fun part => all.mem_iff.mpr
    exact ⟨given _ (by decide), given _ (by decide), .inl (given _ (by decide))⟩
  · exact ⟨two.mem_iff.mpr (by decide), two.mem_iff.mpr (by decide), .inr none⟩

/-- Once enough is read, the coordinate is complete. -/
theorem Told.ofObject (h : Told c parts) : (Draft.only c parts.reverse).ofObject = .ok c := by
  obtain ⟨group, artifact, version⟩ := h.mem
  have whole : (Draft.only c parts.reverse).version.join = c.version := by
    simp only [Draft.only, Json.among, List.mem_reverse]
    split
    · rfl
    · next absent => exact (version.resolve_left absent).symm
  rw [Draft.ofObject, whole]
  simp [Draft.only, Json.among, group, artifact]

/-! ### Texts -/

/-- **A coordinate is read** from every object that tells it. -/
theorem ofJson_of_holds (told : c.Told parts)
    (holds : Json.Holds Part.names (parts.map c.given) text) : ofJson text = .ok c := by
  have read : schema.decode text = .ok c :=
    Json.Schema.decode_holds (tracks_only c) rfl holds told.nodup told.ofObject
  rw [ofJson, read]

/-- The written members give all parts in order. -/
theorem gives_members (c : Coordinate) :
    Json.Gives Part.names c.members (Part.all.map c.given) :=
  .known (by decide) (Json.denotes_writeText _) <|
    .known (by decide) (Json.denotes_writeText _) <|
    .known (by decide) (Json.denotes_writeOptional Json.denotes_writeText _) .nil

theorem ofJson_toJson (c : Coordinate) : ofJson c.toJson = .ok c := by
  have some_member : c.members ≠ [] := List.cons_ne_nil _ _
  exact ofJson_of_holds (.inl (List.Perm.refl _)) (Json.holds_compact some_member (gives_members c))

/-- **Coordinates in JSON texts**: what is written is read back, and so is every other object that
gives the parts, in any order and with a missing version as `null` or left out. -/
theorem ofJson_told (c : Coordinate) :
    ofJson c.toJson = .ok c ∧
      ∀ parts text, c.Told parts → Json.Holds Part.names (parts.map c.given) text →
        ofJson text = .ok c :=
  ⟨ofJson_toJson c, fun _ _ told holds => ofJson_of_holds told holds⟩

/-- A version that is left out, a group beyond the first `2 ^ 16` characters, an escaped slash, and
a member of another name. -/
theorem ofJson_told_escaped :
    let c : Coordinate := ⟨"😀", "a/b", none⟩
    let text := "\n\x7b\"x\":[0e-1],\"artifact_id\":\"a\\/b\",\"group_id\": \"\\ud83d\\ude00\"\x7d"
    c.Told [.artifact, .group] ∧
      Json.Holds Part.names ([.artifact, .group].map c.given) text ∧ ofJson text = .ok c := by
  intro c text
  have told : c.Told [.artifact, .group] := .inr ⟨rfl, by decide⟩
  have blank : Json.AllBlank [] := Json.allBlank_nil
  have space : Json.AllBlank [' '] := by decide
  have newline : Json.AllBlank ['\n'] := by decide
  have number : Json.IsNumber _ :=
    .mk (by decide : [] ∈ [[], ['-']]) .zero .none
      (.digits (.inl rfl) (by decide : ['-'] ∈ [[], ['+'], ['-']]) (by decide : Json.Digits ['1']))
  have elements : Json.IsValue _ :=
    .filled (f := .list) blank (.last .list (.scalar (.number number)) blank)
  have slash : Json.Denotes (.text "a/b") _ :=
    .text <| show Json.Spells ['a', '/', 'b'] _ from
      .cons (.bare (by decide)) (.cons (.letter .slash) (.cons (.bare (by decide)) .nil))
  have face : Json.Denotes (.text "😀") _ :=
    .text <| show Json.Spells ['😀'] _ from
      .cons (.pair (by decide : 0xd800 ≤ 0xd83d) (by decide) (by decide : 0xdc00 ≤ 0xde00)
        (by decide) (by decide) (Json.hex4_hex4 (by decide)) (Json.hex4_hex4 (by decide))) .nil
  have object : ∀ u v w, Json.ObjectText [("x", u), ("artifact_id", v), ("group_id", w)] _ :=
    fun u v w =>
    .members newline (.more (.mk (Json.spells_flatMap _) blank blank blank blank) <|
      .more (.mk (Json.spells_flatMap _) blank blank blank blank) <|
      .last (.mk (Json.spells_flatMap _) blank blank space blank)) blank
  have gives : Json.Gives Part.names _ ([.artifact, .group].map c.given) :=
    .unknown (by decide : "x" ∉ Part.names) elements <| .known (by decide) slash <|
      .known (by decide) face .nil
  have holds : Json.Holds Part.names ([.artifact, .group].map c.given) text :=
    (object _ _ _).holds gives (by decide +kernel)
  exact ⟨told, holds, (ofJson_told c).2 _ _ told holds⟩

end ArtifactFetch.Coordinate
