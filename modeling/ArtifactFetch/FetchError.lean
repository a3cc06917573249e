import ArtifactFetch.Archive
import ArtifactFetch.Duration
import ArtifactFetch.IoError
import ArtifactFetch.Json.Fault
import ArtifactFetch.Json.Written
import ArtifactFetch.Path

/-! # Failures

Everything that can fail gives one of these causes. The wording is in `FetchError.message`; a host
that forwards a failure gets that message as a JSON string. A panic is a failure of code that the
host supplied, a resolver, a listener or a class loader; it carries a text unless something else was
thrown. -/

namespace ArtifactFetch

/-- Why fetching, checking or storing something failed. -/
inductive FetchError where
  | io (path : Path) (cause : IoError)
  | invalidCoordinate (text : String)
  | resolution (coordinate message : String)
  | timeout (coordinate : String) (after : Duration)
  | digestMismatch (path : Path) (expected actual : String)
  | unreadableArchive (path : Path) (cause : ArchiveFault)
  | shuttingDown
  | cancelled (name : String)
  | taskPanicked (coordinate message : String)
  | json (cause : Json.Error)
  | other (text : String)
  deriving DecidableEq, Repr

namespace FetchError

/-- An error of the file system that is not about a path. -/
def ofIo (cause : IoError) : FetchError := .io ⟨""⟩ cause

/-- The text of a failure. -/
def message : FetchError → String
  | .io path cause => "IO error at " ++ Text.quoted path.text ++ ": " ++ cause.text
  | .invalidCoordinate text => "Invalid Maven coordinate: " ++ text
  | .resolution coordinate message => "Failed to resolve " ++ coordinate ++ ": " ++ message
  | .timeout coordinate after =>
    "Download of " ++ coordinate ++ " timed out after " ++ after.text
  | .digestMismatch path expected actual =>
    "SHA-1 mismatch for " ++ Text.quoted path.text ++ ": expected " ++ expected
      ++ ", got " ++ actual
  | .unreadableArchive path cause =>
    "Not a readable archive " ++ Text.quoted path.text ++ ": " ++ cause.text
  | .shuttingDown => "Downloader is shutting down"
  | .cancelled name => "Download of " ++ name ++ " was abandoned during shutdown"
  | .taskPanicked coordinate message =>
    "Download task for " ++ coordinate ++ " panicked: " ++ message
  | .json cause => "JSON error: " ++ cause.message
  | .other text => text

/-- The failure as it is forwarded. -/
def toJson (e : FetchError) : String := String.ofList (Json.writeText e.message)

end FetchError

/-- What was thrown by code of the host: a text, or something else. -/
structure Panic where
  text : Option String
  deriving DecidableEq, Repr

namespace Panic

/-- The text of a panic that was caught where it was thrown. -/
def message (p : Panic) : String := p.text.getD "unknown panic"

/-- The text of a panic that ended the task of the given number. -/
def report (p : Panic) (task : Nat) : String :=
  "task " ++ toString task ++ " panicked" ++ match p.text with
    | some t => " with message " ++ Text.quoted t
    | none => ""

end Panic

/-- How a call that runs code of the host can end without a value. -/
inductive Failure where
  | error (e : FetchError)
  | panic (p : Panic)
  deriving DecidableEq, Repr

end ArtifactFetch
