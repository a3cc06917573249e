import ArtifactFetch.FetchError
import ArtifactFetch.Json.Record

/-! # Coordinates

A coordinate names an artifact by its group, its name and, if known, its version. Its text is
`group:artifact` or `group:artifact:version`; reading it refuses an empty group and any other number
of parts, and takes an empty version for none. The text is also the key under which a coordinate is
fetched, and `classpathName` is what is searched for in classpath entries. -/

namespace ArtifactFetch

/-- The name of an artifact. An empty artifact name identifies nothing. -/
structure Coordinate where
  group : String
  artifact : String
  version : Option String
  deriving DecidableEq, Repr

/-- A version that marks a build as preliminary. -/
def isSnapshotVersion : Option String → Bool
  | some v => Text.contains v "SNAPSHOT"
  | none => false

namespace Coordinate

/-- The coordinate of two or three parts. -/
def ofParts : List String → Option Coordinate
  | [group, artifact] => some ⟨group, artifact, none⟩
  | [group, artifact, version] =>
    some ⟨group, artifact, if version = "" then none else some version⟩
  | _ => none

/-- The coordinate with the given text. -/
def parse (text : String) : Except FetchError Coordinate :=
  match ofParts (Text.split (· == ':') text) with
  | some c => if c.group = "" then .error (.invalidCoordinate text) else .ok c
  | none => .error (.invalidCoordinate text)

/-- The text of a coordinate, which is also its key. -/
def key (c : Coordinate) : String :=
  match c.version with
  | some v => c.group ++ ":" ++ c.artifact ++ ":" ++ v
  | none => c.group ++ ":" ++ c.artifact

/-- What a classpath entry for the artifact contains. -/
def classpathName (c : Coordinate) : String :=
  match c.version with
  | some v => c.artifact ++ "-" ++ v
  | none => c.artifact

def isSnapshot (c : Coordinate) : Bool := isSnapshotVersion c.version

/-- The path of the artifact's file below the root of a repository, if the version is known. -/
def localPath (c : Coordinate) : Option Path :=
  c.version.map fun v =>
    let groupPath : Path := ⟨c.group.map fun ch => if ch = '.' then '/' else ch⟩
    ((groupPath.join c.artifact).join v).join (c.artifact ++ "-" ++ v ++ ".jar")

/-! ### The JSON form -/

/-- The members of a coordinate read so far. -/
structure Draft where
  group : Option String
  artifact : Option String
  version : Option (Option String)
  deriving DecidableEq, Repr

/-- The fields of a coordinate in order. -/
def Draft.fields : List (Json.Field Draft) :=
  [.of "group_id" group (fun d v => { d with group := some v }) Json.readText,
   .of "artifact_id" artifact (fun d v => { d with artifact := some v }) Json.readText,
   .of "version" version (fun d v => { d with version := some v })
    (Json.readOptional Json.readText)]

/-- A coordinate as an object may leave out its version. -/
def Draft.ofObject (d : Draft) : Except Json.Cause Coordinate :=
  match d.group, d.artifact with
  | none, _ => .error (.missingField "group_id")
  | some _, none => .error (.missingField "artifact_id")
  | some group, some artifact => .ok ⟨group, artifact, d.version.join⟩

/-- A coordinate as a list has to be whole. -/
def Draft.ofList (n : Nat) (d : Draft) : Except Json.Cause Coordinate :=
  match d.group, d.artifact, d.version with
  | some group, some artifact, some version => .ok ⟨group, artifact, version⟩
  | _, _, _ => .error (.wrongLength n "struct Gav with 3 elements")

def schema : Json.Schema Draft Coordinate where
  fields := Draft.fields
  blank := ⟨none, none, none⟩
  ofObject := Draft.ofObject
  ofList := Draft.ofList
  expected := "struct Gav"

/-- The coordinate that a JSON text holds. -/
def ofJson (s : String) : Except FetchError Coordinate :=
  match schema.decode s with
  | .ok c => .ok c
  | .error e => .error (.json e)

/-- The members of a coordinate. -/
def members (c : Coordinate) : List Json.Member :=
  [("group_id", Json.writeText c.group), ("artifact_id", Json.writeText c.artifact),
   ("version", Json.writeOptional Json.writeText c.version)]

/-- The coordinate as a JSON text. -/
def toJson (c : Coordinate) : String := String.ofList (Json.compact c.members)

end Coordinate

end ArtifactFetch
