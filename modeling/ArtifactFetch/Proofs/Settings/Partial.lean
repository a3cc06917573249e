import ArtifactFetch.Proofs.FileTree.Reading
import ArtifactFetch.Proofs.Json.RoundTrip
import ArtifactFetch.Settings.Store

/-! # Partial settings

A settings file may leave out fields. What is loaded then are the settings of the file over the
standard ones (`overlay`): whatever the order of the members, the blanks, the spellings and the
members of other names, only the set of fields that the file gives makes a difference
(`ofJson_of_holds`). A time limit that is left out is the standard one, and `null` is none. -/

namespace ArtifactFetch.Settings

/-- The fields of the settings. -/
inductive Key where
  | repos
  | fresh
  | frameworkGroup
  | centralRepository
  | snapshotRepository
  | maxConcurrentDownloads
  | taskTimeoutSecs
  | slowDownloadNoticeSecs
  | verifyArtifacts
  | bootClasspathEnv
  deriving DecidableEq, Repr

namespace Key

def all : List Key :=
  [repos, fresh, frameworkGroup, centralRepository, snapshotRepository, maxConcurrentDownloads,
   taskTimeoutSecs, slowDownloadNoticeSecs, verifyArtifacts, bootClasspathEnv]

def name : Key → String
  | repos => "repos"
  | fresh => "fresh"
  | frameworkGroup => "framework_group"
  | centralRepository => "central_repository"
  | snapshotRepository => "snapshot_repository"
  | maxConcurrentDownloads => "max_concurrent_downloads"
  | taskTimeoutSecs => "task_timeout_secs"
  | slowDownloadNoticeSecs => "slow_download_notice_secs"
  | verifyArtifacts => "verify_artifacts"
  | bootClasspathEnv => "boot_classpath_env"

/-- The names that a settings text knows. -/
def names : List String := all.map name

theorem mem_all (k : Key) : k ∈ all := by cases k <;> decide

theorem nodup_all : all.Nodup := by decide

end Key

variable {s : Settings} {K : List Key} {text : String}

/-- The value of a field. -/
def datum (s : Settings) : Key → Json.Datum
  | .repos => .optional .text s.repos
  | .fresh => .flag s.fresh
  | .frameworkGroup => .text s.frameworkGroup
  | .centralRepository => .text s.centralRepository
  | .snapshotRepository => .text s.snapshotRepository
  | .maxConcurrentDownloads => .count s.maxConcurrentDownloads
  | .taskTimeoutSecs => .optional .count s.taskTimeoutSecs
  | .slowDownloadNoticeSecs => .count s.slowDownloadNoticeSecs
  | .verifyArtifacts => .flag s.verifyArtifacts
  | .bootClasspathEnv => .text s.bootClasspathEnv

/-- A field as it is given in a text. -/
def given (s : Settings) (k : Key) : Json.Given := (k.name, s.datum k)

/-- The settings that agree with `s` in the fields `K` and with the standard ones in the others. -/
def overlay (s : Settings) (K : List Key) : Settings where
  repos := if .repos ∈ K then s.repos else standard.repos
  fresh := if .fresh ∈ K then s.fresh else standard.fresh
  frameworkGroup := if .frameworkGroup ∈ K then s.frameworkGroup else standard.frameworkGroup
  centralRepository :=
    if .centralRepository ∈ K then s.centralRepository else standard.centralRepository
  snapshotRepository :=
    if .snapshotRepository ∈ K then s.snapshotRepository else standard.snapshotRepository
  maxConcurrentDownloads :=
    if .maxConcurrentDownloads ∈ K then s.maxConcurrentDownloads
    else standard.maxConcurrentDownloads
  taskTimeoutSecs := if .taskTimeoutSecs ∈ K then s.taskTimeoutSecs else standard.taskTimeoutSecs
  slowDownloadNoticeSecs :=
    if .slowDownloadNoticeSecs ∈ K then s.slowDownloadNoticeSecs
    else standard.slowDownloadNoticeSecs
  verifyArtifacts := if .verifyArtifacts ∈ K then s.verifyArtifacts else standard.verifyArtifacts
  bootClasspathEnv :=
    if .bootClasspathEnv ∈ K then s.bootClasspathEnv else standard.bootClasspathEnv

theorem overlay_all (s : Settings) : s.overlay Key.all = s := rfl

/-! ### Drafts -/

/-- The draft in which only the fields `K` are set, to those of the settings. -/
def Draft.only (s : Settings) (K : List Key) : Draft where
  repos := Json.among K .repos s.repos
  fresh := Json.among K .fresh s.fresh
  frameworkGroup := Json.among K .frameworkGroup s.frameworkGroup
  centralRepository := Json.among K .centralRepository s.centralRepository
  snapshotRepository := Json.among K .snapshotRepository s.snapshotRepository
  maxConcurrentDownloads := Json.among K .maxConcurrentDownloads s.maxConcurrentDownloads
  taskTimeoutSecs := Json.among K .taskTimeoutSecs s.taskTimeoutSecs
  slowDownloadNoticeSecs := Json.among K .slowDownloadNoticeSecs s.slowDownloadNoticeSecs
  verifyArtifacts := Json.among K .verifyArtifacts s.verifyArtifacts
  bootClasspathEnv := Json.among K .bootClasspathEnv s.bootClasspathEnv

/-- What is not set is filled in. -/
theorem fill_only (s : Settings) (K : List Key) :
    (Draft.only s K).fill standard = s.overlay K := by
  simp only [Draft.fill, Draft.only, overlay, Json.getD_among]

theorem only_congr {K' : List Key} (h : ∀ k, k ∈ K ↔ k ∈ K') :
    Draft.only s K = Draft.only s K' := by
  simp only [Draft.only, Json.among, h]

/-- **Every field is read into its place**, whatever was read before. -/
theorem tracks_only (s : Settings) : Json.Tracks Draft.fields s.given (Draft.only s) := by
  intro k K fresh
  have unset : ∀ {α : Type} (a : α), (Json.among K k a).isSome = false := Json.isSome_among fresh
  cases k with
  | repos =>
    refine Json.sets_field rfl (unset _)
      (Json.takes_optional Json.takes_text Json.startsValue_text) ?_
    simp [Draft.only, Json.among]
  | fresh =>
    exact Json.sets_field rfl (unset _) Json.takes_flag (by simp [Draft.only, Json.among])
  | frameworkGroup =>
    exact Json.sets_field rfl (unset _) Json.takes_text (by simp [Draft.only, Json.among])
  | centralRepository =>
    exact Json.sets_field rfl (unset _) Json.takes_text (by simp [Draft.only, Json.among])
  | snapshotRepository =>
    exact Json.sets_field rfl (unset _) Json.takes_text (by simp [Draft.only, Json.among])
  | maxConcurrentDownloads =>
    exact Json.sets_field rfl (unset _) (Json.takes_count _) (by simp [Draft.only, Json.among])
  | taskTimeoutSecs =>
    refine Json.sets_field rfl (unset _)
      (Json.takes_optional (Json.takes_count _) Json.startsValue_count) ?_
    simp [Draft.only, Json.among]
  | slowDownloadNoticeSecs =>
    exact Json.sets_field rfl (unset _) (Json.takes_count _) (by simp [Draft.only, Json.among])
  | verifyArtifacts =>
    exact Json.sets_field rfl (unset _) Json.takes_flag (by simp [Draft.only, Json.among])
  | bootClasspathEnv =>
    exact Json.sets_field rfl (unset _) Json.takes_text (by simp [Draft.only, Json.among])

/-! ### Texts -/

/-- **A settings text** is read as the settings that it gives, over the standard ones. -/
theorem ofJson_of_holds (once : K.Nodup) (holds : Json.Holds Key.names (K.map s.given) text) :
    ofJson text = .ok (s.overlay K) := by
  have same : Draft.only s K.reverse = Draft.only s K := only_congr fun k => List.mem_reverse
  have read : schema.decode text = .ok (s.overlay K) := by
    refine Json.Schema.decode_holds (tracks_only s) rfl holds once ?_
    exact congrArg Except.ok ((congrArg (Draft.fill · standard) same).trans (fill_only s K))
  rw [ofJson, read]

/-- The written members give all fields in order. -/
theorem gives_members (s : Settings) :
    Json.Gives Key.names s.members (Key.all.map s.given) := by
  have known : ∀ k, Key.name k ∈ Key.names := fun k => List.mem_map_of_mem (Key.mem_all k)
  exact .known (known .repos) (Json.denotes_writeOptional Json.denotes_writeText _) <|
    .known (known .fresh) (Json.denotes_writeFlag _) <|
    .known (known .frameworkGroup) (Json.denotes_writeText _) <|
    .known (known .centralRepository) (Json.denotes_writeText _) <|
    .known (known .snapshotRepository) (Json.denotes_writeText _) <|
    .known (known .maxConcurrentDownloads) (Json.denotes_writeCount _) <|
    .known (known .taskTimeoutSecs) (Json.denotes_writeOptional Json.denotes_writeCount _) <|
    .known (known .slowDownloadNoticeSecs) (Json.denotes_writeCount _) <|
    .known (known .verifyArtifacts) (Json.denotes_writeFlag _) <|
    .known (known .bootClasspathEnv) (Json.denotes_writeText _) .nil

/-- **Settings are read back from their text.** -/
theorem ofJson_toJson (s : Settings) : ofJson s.toJson = .ok s := by
  have some_member : s.members ≠ [] := List.cons_ne_nil _ _
  have holds := Json.holds_indented some_member (gives_members s)
  rw [toJson, ofJson_of_holds Key.nodup_all holds, overlay_all]

/-! ### Files -/

/-- **Loading a file that gives some of the fields**, in any order, among members of other names. A
time limit that is left out is the standard one, and `null` is none. -/
theorem load_partial (s : Settings) {K : List Key} (once : K.Nodup) {text : String}
    (holds : Json.Holds Key.names (K.map s.given) text) {t : FileTree} {p : Path} {loc : Location}
    (leads : t.locate p = .ok loc) (content : t.at? loc = some (.file text.toUTF8.toList)) :
    load t p = .ok (s.overlay K) ∧
      (.taskTimeoutSecs ∉ K → (s.overlay K).taskTimeout = some (.ofSecs 300)) ∧
      (.taskTimeoutSecs ∈ K → s.taskTimeoutSecs = none → (s.overlay K).taskTimeout = none) := by
  refine ⟨?_, fun absent => ?_, fun present null => ?_⟩
  · rw [load, FileTree.readText_of_at? leads content]
    exact ofJson_of_holds once holds
  · have limit : (s.overlay K).taskTimeoutSecs = some 300 := if_neg absent
    rw [taskTimeout, limit]
    rfl
  · have limit : (s.overlay K).taskTimeoutSecs = none := (if_pos present).trans null
    rw [taskTimeout, limit]
    rfl

/-- Two fields out of order, one of them `null` and one with an escape, and between them a member of
another name in which half a character is nested. -/
theorem load_partial_reordered :
    let s : Settings := { standard with repos := some "a", fresh := true, taskTimeoutSecs := none }
    let text :=
      "\x7b\"task_timeout_secs\":null ,\"x\":[\x7b\"\":\"\\ud800\"\x7d],\n\"repos\":\"\\u0061\"\x7d"
    let t : FileTree := ⟨[(["f"], .file text.toUTF8.toList)], []⟩
    Json.Holds Key.names ([.taskTimeoutSecs, .repos].map s.given) text ∧
      load t ⟨"/f"⟩ = .ok { standard with repos := some "a", taskTimeoutSecs := none } := by
  intro s text t
  have blank : Json.AllBlank [] := Json.allBlank_nil
  have space : Json.AllBlank [' '] := by decide
  have newline : Json.AllBlank ['\n'] := by decide
  have half : Json.StringBody _ := .unit (Json.hex4_hex4 (by decide : 0xd800 < 0x10000)) .nil
  have nested : Json.IsValue _ :=
    .filled (f := .list) blank <| .last .list (.filled (f := .object) blank <|
      .last (.object .nil blank blank) (.scalar (.string half)) blank) blank
  have letter : Json.Denotes (.text "a") _ :=
    .text (s := "a") (.cons (.unit (Json.hex4_hex4 (by decide))) .nil)
  have object : ∀ u v w,
      Json.ObjectText [("task_timeout_secs", u), ("x", v), ("repos", w)] _ := fun u v w =>
    .members blank (.more (.mk (Json.spells_flatMap _) blank blank blank space) <|
      .more (.mk (Json.spells_flatMap _) blank blank blank blank) <|
      .last (.mk (Json.spells_flatMap _) newline blank blank blank)) blank
  have gives : Json.Gives Key.names _ ([.taskTimeoutSecs, .repos].map s.given) :=
    .known (by decide) .null <| .unknown (by decide : "x" ∉ Key.names) nested <|
      .known (by decide) letter .nil
  have holds : Json.Holds Key.names ([.taskTimeoutSecs, .repos].map s.given) text :=
    (object _ _ _).holds gives (by decide +kernel)
  exact ⟨holds, (load_partial s (by decide) holds (t := t) (p := ⟨"/f"⟩) rfl rfl).1⟩

end ArtifactFetch.Settings
