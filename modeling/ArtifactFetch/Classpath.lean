import ArtifactFetch.FileTree
import ArtifactFetch.Listener

/-! # Classpaths

The boot classpath is fixed when the program starts; the class loader grows at run time, and an
entry once added is never removed or moved. An artifact counts as present if an entry of either
contains its name and version, so an entry for `foo-1.0-tests` also serves `foo:1.0`. The boot
classpath is searched first; an artifact without a name is always present. -/

namespace ArtifactFetch

/-! ### The boot classpath -/

/-- The classpath the program started with. -/
structure BootClasspath where
  entries : List String
  deriving DecidableEq, Repr

namespace BootClasspath

/-- A character that parts the entries of a classpath text. -/
def isSeparator (c : Char) : Bool := c == ':' || c == '|' || c == ';'

/-- The entries of a classpath text, without empty ones. -/
def parse (raw : String) : BootClasspath := ⟨Text.splitWords isSeparator raw⟩

/-- The classpath in an environment variable. A variable that is missing or holds no text gives an
empty one. -/
def ofVariable : Option Bytes → BootClasspath
  | none => ⟨[]⟩
  | some bytes =>
    match String.fromUTF8? ⟨bytes.toArray⟩ with
    | some raw => parse raw
    | none => ⟨[]⟩

/-- Some entry contains the text. -/
def contains (b : BootClasspath) (target : String) : Bool :=
  b.entries.any (Text.contains · target)

end BootClasspath

/-! ### The class loader -/

/-- A class loader: which files it accepts, and the entries added so far. -/
structure ClassLoader where
  check : FileTree → Path → Except Failure Unit
  entries : List String

namespace ClassLoader

/-- Accepts every regular file. -/
def checkRegular (t : FileTree) (p : Path) : Except Failure Unit :=
  match t.stat p with
  | .error e => .error (.error (.io p e))
  | .ok (.file _) => .ok ()
  | .ok _ => .error (.error (.other ("Classpath entry is not a file: " ++ p.text)))

/-- An empty class loader that accepts every regular file. -/
def regular : ClassLoader := ⟨checkRegular, []⟩

/-- Adds a file as the last entry, if it is accepted. -/
def add (l : ClassLoader) (t : FileTree) (p : Path) : ClassLoader × Except Failure Unit :=
  match l.check t p with
  | .ok () => ({ l with entries := l.entries ++ [p.text] }, .ok ())
  | .error f => (l, .error f)

/-- Some entry contains the text. -/
def contains (l : ClassLoader) (target : String) : Bool :=
  l.entries.any (Text.contains · target)

theorem add_of_ok {l : ClassLoader} {t : FileTree} {p : Path} (h : l.check t p = .ok ()) :
    l.add t p = ({ l with entries := l.entries ++ [p.text] }, .ok ()) := by
  simp [add, h]

theorem add_of_error {l : ClassLoader} {t : FileTree} {p : Path} {f : Failure}
    (h : l.check t p = .error f) : l.add t p = (l, .error f) := by
  simp [add, h]

end ClassLoader

/-! ### Both together -/

/-- Why an artifact counts as present. -/
inductive Hit where
  /-- It has no name to look for. -/
  | trivial
  | static
  | dynamic
  deriving DecidableEq, Repr

/-- Both classpaths and the listener that is told of what is found there. -/
structure Classpath where
  boot : BootClasspath
  loader : ClassLoader
  slot : ListenerSlot

namespace Classpath

/-- Whether and why an artifact is present. -/
def lookup (cp : Classpath) (c : Coordinate) : Option Hit :=
  if c.artifact = "" then some .trivial
  else if cp.boot.contains c.classpathName then some .static
  else if cp.loader.contains c.classpathName then some .dynamic
  else none

/-- Delivers an event to the listener. -/
def deliver (cp : Classpath) (task : Option Nat) (e : Event) : Classpath × Option Panic :=
  let (slot, p) := cp.slot.deliver task e
  ({ cp with slot := slot }, p)

/-- Tells the listener of an artifact that is present, unless it has no name. -/
def notifyHit (cp : Classpath) (task : Option Nat) (c : Coordinate) (hit : Hit) :
    Classpath × Option Panic :=
  if hit = .trivial then (cp, none) else cp.deliver task (.available c)

/-- Whether an artifact is present, which the listener is told. -/
def alreadyAvailable (cp : Classpath) (c : Coordinate) : Classpath × Except Panic Bool :=
  match cp.lookup c with
  | none => (cp, .ok false)
  | some hit =>
    match cp.notifyHit none c hit with
    | (cp, some p) => (cp, .error p)
    | (cp, none) => (cp, .ok true)

/-- Adds a file to the class loader. -/
def addFile (cp : Classpath) (t : FileTree) (p : Path) : Classpath × Except Failure Unit :=
  let (loader, r) := cp.loader.add t p
  ({ cp with loader := loader }, r)

/-- Installs a listener, or none. -/
def setListener (cp : Classpath) (l : Option Listener) : Classpath :=
  { cp with slot := cp.slot.install l }

/-- The classpaths as they are shown. -/
def describe (cp : Classpath) : String :=
  "ClasspathIndex \x7b boot_entries: " ++ toString cp.boot.entries.length ++ ", dynamic_entries: "
    ++ toString cp.loader.entries.length ++ " \x7d"

end Classpath

end ArtifactFetch
