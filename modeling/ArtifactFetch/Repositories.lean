import ArtifactFetch.Coordinate

/-! # Repositories

A coordinate is looked for in an ordered list of repositories: the central one first, then the
custom ones, and last the snapshot repository if the coordinate is a snapshot of the framework's own
group. -/

namespace ArtifactFetch

/-- The default central repository. -/
def centralRepository : String := "https://repo1.maven.org/maven2/"

/-- The default snapshot repository. -/
def snapshotRepository : String := "https://repository.apache.org/snapshots"

/-- The default group whose snapshots have a repository of their own. -/
def frameworkGroup : String := "org.apache.camel"

/-- The parts of a comma-separated setting that are not empty, as they stand. -/
def splitRepositories (raw : String) : List String := Text.splitWords (· == ',') raw

/-- The repositories that do not come from the custom list. -/
structure Repositories where
  central : String
  snapshot : String
  frameworkGroup : String
  deriving DecidableEq, Repr

/-- The default repositories. -/
def Repositories.standard : Repositories :=
  ⟨centralRepository, snapshotRepository, ArtifactFetch.frameworkGroup⟩

/-- The repositories in which a coordinate is looked for, in order. -/
def Repositories.listFor (r : Repositories) (group : String) (version : Option String)
    (custom : List String) : List String :=
  r.central :: custom ++
    if group = r.frameworkGroup ∧ isSnapshotVersion version then [r.snapshot] else []

end ArtifactFetch
