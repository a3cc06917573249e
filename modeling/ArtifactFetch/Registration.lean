import ArtifactFetch.Artifact
import ArtifactFetch.Classpath

/-! # Registering what was resolved

The artifacts that a resolver found are put on the classpath one after another. One that is already
present, perhaps by an entry that was just added, is only reported; the file of any other is added
to the class loader. If artifacts are to be verified, all that are not present beforehand are
checked before the first is added. -/

namespace ArtifactFetch

/-- What became of a coordinate and the artifacts found for it. -/
structure Summary where
  coordinate : Coordinate
  /-- The files that were added, in order. -/
  added : List Path
  /-- The coordinates that were present, in order. -/
  alreadyPresent : List Coordinate
  deriving DecidableEq, Repr

/-- What registering left behind: the classpath, the artifacts whose files were added, and how it
ended. -/
structure Registered where
  classpath : Classpath
  appended : List Artifact
  result : Except Failure Summary

/-- The artifacts that were looked for and not found present. -/
def Classpath.pending (cp : Classpath) (artifacts : List Artifact) : List Artifact :=
  artifacts.filter fun a => (cp.lookup a.coordinate).isNone

namespace Registration

/-- Registers artifacts one after another behind what `done` says of the earlier ones. -/
def each (t : FileTree) (task : Option Nat) : List Artifact → Classpath → Summary → Registered
  | [], cp, done => ⟨cp, [], .ok done⟩
  | a :: rest, cp, done =>
    match cp.lookup a.coordinate with
    | some hit =>
      match cp.notifyHit task a.coordinate hit with
      | (cp, some p) => ⟨cp, [], .error (.panic p)⟩
      | (cp, none) =>
        each t task rest cp { done with alreadyPresent := done.alreadyPresent ++ [a.coordinate] }
    | none =>
      match cp.addFile t a.file with
      | (cp, .error f) => ⟨cp, [], .error f⟩
      | (cp, .ok ()) =>
        match cp.deliver task (.added a.coordinate a.file) with
        | (cp, some p) => ⟨cp, [a], .error (.panic p)⟩
        | (cp, none) =>
          let r := each t task rest cp { done with added := done.added ++ [a.file] }
          { r with appended := a :: r.appended }

/-- Registers the artifacts that were found for a coordinate. -/
def all (t : FileTree) (task : Option Nat) (verify : Bool) (root : Coordinate)
    (artifacts : List Artifact) (cp : Classpath) : Registered :=
  let checked := if verify then Artifact.verifyAll t (cp.pending artifacts) else .ok ()
  match checked with
  | .error e => ⟨cp, [], .error (.error e)⟩
  | .ok () => each t task artifacts cp ⟨root, [], []⟩

end Registration

end ArtifactFetch
