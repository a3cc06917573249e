import ArtifactFetch.Downloader

/-! # Sessions with a downloader

A host uses a downloader by one action after another. An action is answered at once, and those that
let time pass (`wait`, `advance`, `shutdown`) are the only ones in which tasks work. A session is a
list of actions; its responses are those of the actions in order. -/

namespace ArtifactFetch.Downloader

/-- What a host can do with a downloader. -/
inductive Action where
  | ensure (c : Coordinate)
  /-- Waits for a download, but not longer than `patience` milliseconds. -/
  | wait (h : Handle) (patience : Nat)
  | advance (millis : Nat)
  /-- Releases passes through a gate at which resolver calls wait. -/
  | release (gate : String) (n : Nat)
  | shutdown (drain : Nat)
  | setListener (l : Option Listener)
  | setFiles (files : FileTree)
  | addFile (p : Path)
  /-- Asks whether an artifact is present. -/
  | inquire (c : Coordinate)

/-- What a host is answered. -/
inductive Response where
  | done
  | ensured (r : Except Failure Ensured)
  /-- The result of a download, or nothing if it took too long. -/
  | waited (r : Option Outcome)
  | closed (r : Pool.ShutdownReport)
  | added (r : Except Failure Unit)
  | present (r : Except Panic Bool)

/-- Performs an action. -/
def perform (d : Downloader) : Action → Downloader × Response
  | .ensure c => (d.ensure c).map id .ensured
  | .wait h patience => (d.wait h patience).map id .waited
  | .advance millis => (d.advance millis, .done)
  | .release gate n => (d.release gate n, .done)
  | .shutdown drain => (d.shutdown drain).map id .closed
  | .setListener l => (d.setListener l, .done)
  | .setFiles files => (d.setFiles files, .done)
  | .addFile p => (d.addFile p).map id .added
  | .inquire c => (d.alreadyAvailable c).map id .present

/-- Performs the actions of a session. -/
def performAll (d : Downloader) : List Action → Downloader × List Response
  | [] => (d, [])
  | a :: as =>
    let (d, r) := d.perform a
    let (d, rs) := d.performAll as
    (d, r :: rs)

@[simp] theorem performAll_nil (d : Downloader) : d.performAll [] = (d, []) := rfl

@[simp] theorem performAll_cons (d : Downloader) (a : Action) (as : List Action) :
    d.performAll (a :: as) =
      (((d.perform a).1.performAll as).1, (d.perform a).2 :: ((d.perform a).1.performAll as).2) :=
  rfl

end ArtifactFetch.Downloader
