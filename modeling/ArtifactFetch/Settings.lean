import ArtifactFetch.Repositories

/-! # Settings

The settings of a downloader, their defaults, and their JSON form. A settings text is a record in
which every field may be missing; a missing field takes its default, also where the two optional
fields would take `null` for none. -/

namespace ArtifactFetch

/-- What a downloader can be set to. -/
structure Settings where
  /-- Custom repositories, separated by commas, tried after the central one. -/
  repos : Option String
  /-- Resolve against the remote repositories again. -/
  fresh : Bool
  frameworkGroup : String
  centralRepository : String
  snapshotRepository : String
  /-- How many downloads work at once. -/
  maxConcurrentDownloads : UInt64
  /-- How long a download may work, in seconds, if limited. -/
  taskTimeoutSecs : Option UInt64
  /-- When a download counts as slow, in seconds. -/
  slowDownloadNoticeSecs : UInt64
  /-- Check files before they are registered. -/
  verifyArtifacts : Bool
  /-- The environment variable that holds the boot classpath. -/
  bootClasspathEnv : String
  deriving DecidableEq, Repr

namespace Settings

def standard : Settings where
  repos := none
  fresh := false
  frameworkGroup := ArtifactFetch.frameworkGroup
  centralRepository := ArtifactFetch.centralRepository
  snapshotRepository := ArtifactFetch.snapshotRepository
  maxConcurrentDownloads := 10
  taskTimeoutSecs := some 300
  slowDownloadNoticeSecs := 5
  verifyArtifacts := true
  bootClasspathEnv := "CLASSPATH"

/-- The custom repositories in their order. -/
def customRepositories (s : Settings) : List String :=
  match s.repos with
  | some raw => splitRepositories raw
  | none => []

/-- The repositories that surround the custom ones. -/
def repositories (s : Settings) : Repositories :=
  ⟨s.centralRepository, s.snapshotRepository, s.frameworkGroup⟩

/-- How many downloads work at once; none would never get anything done. -/
def workerLimit (s : Settings) : Nat := max s.maxConcurrentDownloads.toNat 1

/-- How long a download may work. -/
def taskTimeout (s : Settings) : Option Duration :=
  s.taskTimeoutSecs.map fun n => .ofSecs n.toNat

/-- When a download counts as slow. -/
def slowDownloadNotice (s : Settings) : Duration := .ofSecs s.slowDownloadNoticeSecs.toNat

/-! ### Reading -/

/-- The fields that a settings text has set. -/
structure Draft where
  repos : Option (Option String)
  fresh : Option Bool
  frameworkGroup : Option String
  centralRepository : Option String
  snapshotRepository : Option String
  maxConcurrentDownloads : Option UInt64
  taskTimeoutSecs : Option (Option UInt64)
  slowDownloadNoticeSecs : Option UInt64
  verifyArtifacts : Option Bool
  bootClasspathEnv : Option String
  deriving DecidableEq, Repr

namespace Draft

def blank : Draft := ⟨none, none, none, none, none, none, none, none, none, none⟩

/-- The fields of the settings in order. -/
def fields : List (Json.Field Draft) :=
  [.of "repos" repos (fun d v => { d with repos := some v }) (Json.readOptional Json.readText),
   .of "fresh" fresh (fun d v => { d with fresh := some v }) Json.readFlag,
   .of "framework_group" frameworkGroup (fun d v => { d with frameworkGroup := some v })
    Json.readText,
   .of "central_repository" centralRepository (fun d v => { d with centralRepository := some v })
    Json.readText,
   .of "snapshot_repository" snapshotRepository
    (fun d v => { d with snapshotRepository := some v }) Json.readText,
   .of "max_concurrent_downloads" maxConcurrentDownloads
    (fun d v => { d with maxConcurrentDownloads := some v }) (Json.readCount "usize"),
   .of "task_timeout_secs" taskTimeoutSecs (fun d v => { d with taskTimeoutSecs := some v })
    (Json.readOptional (Json.readCount "u64")),
   .of "slow_download_notice_secs" slowDownloadNoticeSecs
    (fun d v => { d with slowDownloadNoticeSecs := some v }) (Json.readCount "u64"),
   .of "verify_artifacts" verifyArtifacts (fun d v => { d with verifyArtifacts := some v })
    Json.readFlag,
   .of "boot_classpath_env" bootClasspathEnv (fun d v => { d with bootClasspathEnv := some v })
    Json.readText]

/-- The settings with the fields that are set, over the given ones. -/
def fill (d : Draft) (s : Settings) : Settings where
  repos := d.repos.getD s.repos
  fresh := d.fresh.getD s.fresh
  frameworkGroup := d.frameworkGroup.getD s.frameworkGroup
  centralRepository := d.centralRepository.getD s.centralRepository
  snapshotRepository := d.snapshotRepository.getD s.snapshotRepository
  maxConcurrentDownloads := d.maxConcurrentDownloads.getD s.maxConcurrentDownloads
  taskTimeoutSecs := d.taskTimeoutSecs.getD s.taskTimeoutSecs
  slowDownloadNoticeSecs := d.slowDownloadNoticeSecs.getD s.slowDownloadNoticeSecs
  verifyArtifacts := d.verifyArtifacts.getD s.verifyArtifacts
  bootClasspathEnv := d.bootClasspathEnv.getD s.bootClasspathEnv

@[simp] theorem fill_blank (s : Settings) : blank.fill s = s := rfl

end Draft

def schema : Json.Schema Draft Settings where
  fields := Draft.fields
  blank := Draft.blank
  ofObject := fun d => .ok (d.fill standard)
  ofList := fun _ d => .ok (d.fill standard)
  expected := "struct DownloaderSettings"

/-- The settings that a JSON text holds. -/
def ofJson (s : String) : Except FetchError Settings :=
  match schema.decode s with
  | .ok c => .ok c
  | .error e => .error (.json e)

/-! ### Writing -/

/-- The members of the settings. -/
def members (s : Settings) : List Json.Member :=
  [("repos", Json.writeOptional Json.writeText s.repos),
   ("fresh", Json.writeFlag s.fresh),
   ("framework_group", Json.writeText s.frameworkGroup),
   ("central_repository", Json.writeText s.centralRepository),
   ("snapshot_repository", Json.writeText s.snapshotRepository),
   ("max_concurrent_downloads", Json.writeCount s.maxConcurrentDownloads),
   ("task_timeout_secs", Json.writeOptional Json.writeCount s.taskTimeoutSecs),
   ("slow_download_notice_secs", Json.writeCount s.slowDownloadNoticeSecs),
   ("verify_artifacts", Json.writeFlag s.verifyArtifacts),
   ("boot_classpath_env", Json.writeText s.bootClasspathEnv)]

/-- The settings as a JSON text. -/
def toJson (s : Settings) : String := String.ofList (Json.indented s.members)

end Settings

end ArtifactFetch
