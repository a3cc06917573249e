import ArtifactFetch.Coordinate
import ArtifactFetch.Digest.Sha1
import ArtifactFetch.FileTree

/-! # Artifacts and their checks

An artifact is a file that a resolver found for a coordinate. Before it may be loaded, its file has
to be there, to have the SHA-1 digest that came with it, if one came, and to be a readable archive
if its name says that it is one. The checks look at one file after another; the first failure
counts. -/

namespace ArtifactFetch

/-- A file found for a coordinate, with the digest it should have, if known. -/
structure Artifact where
  coordinate : Coordinate
  file : Path
  sha1 : Option String
  deriving DecidableEq, Repr

namespace Artifact

/-- The extensions of archives. -/
def archiveExtensions : List String := ["jar", "zip"]

/-- The extension of a path is one of an archive, in any case of its letters. -/
def isArchive (p : Path) : Bool :=
  match p.extension? with
  | some ext => archiveExtensions.any fun e => ext.map Char.toLower == e.toList
  | none => false

/-- A file is read in pieces of this many bytes. -/
def readSize : Nat := 65536

/-- The digest of a file's content as it is read piece by piece, up to an empty read. -/
def digestOf (content : Bytes) : String :=
  Sha1.digestOfReads (Sha1.pieces (readSize - 1) content ++ [[]])

/-- Two texts are equal but for the case of their ASCII letters. -/
def equalIgnoringCase (s t : String) : Bool :=
  s.toList.map Char.toLower == t.toList.map Char.toLower

/-- The file has the digest that is expected of it. -/
def checkDigest (t : FileTree) (a : Artifact) : Except FetchError Unit :=
  match a.sha1 with
  | none => .ok ()
  | some expected =>
    match t.read a.file with
    | .error e => .error (.io a.file e)
    | .ok content =>
      let actual := digestOf content
      if equalIgnoringCase actual expected then .ok ()
      else .error (.digestMismatch a.file expected actual)

/-- The content of an archive file is a readable archive. A directory can be opened, but there is
nothing to read in it. -/
def checkArchive (t : FileTree) (a : Artifact) : Except FetchError Unit :=
  match t.stat a.file with
  | .error e => .error (.io a.file e)
  | .ok entry =>
    if isArchive a.file then
      match entry with
      | .dir => .error (.unreadableArchive a.file .truncated)
      | .file content =>
        match Archive.check content with
        | .ok () => .ok ()
        | .error fault => .error (.unreadableArchive a.file fault)
      | .null => .error (.unreadableArchive a.file .noEndRecord)
    else .ok ()

/-- The artifact can be put on a classpath. -/
def verify (t : FileTree) (a : Artifact) : Except FetchError Unit :=
  match checkDigest t a with
  | .error e => .error e
  | .ok () => checkArchive t a

/-- All artifacts can; the first that cannot decides. -/
def verifyAll (t : FileTree) : List Artifact → Except FetchError Unit
  | [] => .ok ()
  | a :: as =>
    match a.verify t with
    | .error e => .error e
    | .ok () => verifyAll t as

end Artifact

end ArtifactFetch
