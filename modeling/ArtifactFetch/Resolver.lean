import ArtifactFetch.Artifact
import ArtifactFetch.Pool.Task
import ArtifactFetch.Settings

/-! # Resolvers

A resolver finds the files for a coordinate and for what it depends on. It may take time, wait at
gates, fail or panic, and it may answer the same request differently from call to call. -/

namespace ArtifactFetch

/-- What a resolver is asked. -/
structure Request where
  coordinates : List Coordinate
  /-- Tried in this order. -/
  repositories : List String
  useCache : Bool
  /-- Resolve against the remote repositories again. -/
  fresh : Bool
  transitive : Bool
  preferRemote : Bool
  deriving DecidableEq, Repr

/-- How a resolver answers in the end. -/
inductive Answer where
  | artifacts (found : List Artifact)
  | error (e : FetchError)
  | panic (p : Panic)
  deriving DecidableEq, Repr

/-- What a resolver waits for, and its answer after that. -/
structure Reply where
  waits : List Wait
  answer : Answer
  deriving DecidableEq, Repr

/-- A resolver replies to a request in view of the requests before it. -/
abbrev Resolver := List Request → Request → Reply

/-- The request for a coordinate. -/
def Request.for (s : Settings) (c : Coordinate) : Request where
  coordinates := [c]
  repositories := s.repositories.listFor c.group c.version s.customRepositories
  useCache := false
  fresh := s.fresh
  transitive := true
  preferRemote := true

end ArtifactFetch
