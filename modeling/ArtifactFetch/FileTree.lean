import ArtifactFetch.IoError
import ArtifactFetch.Path

/-! # Directory trees

A tree says for every location whether a directory, a file or the null device stands there. A
location is the list of names from the innermost to the outermost, so `[]` is the root and `tail`
the directory above. Paths are walked one component at a time: each step needs a directory to stand
in, `.` and an empty component stay there, `..` goes up, and any other component has to exist.

The operations answer with the error that a POSIX system gives. Those that change the tree return
the changed tree in every case, since making a chain of directories can stop half way. -/

namespace ArtifactFetch

/-- The content of a file. -/
abbrev Bytes := List UInt8

/-- The names from the innermost directory or file out to the root. -/
abbrev Location := List String

/-- What stands at a location. -/
inductive Entry where
  | dir
  | file (content : Bytes)
  /-- Reads as empty and swallows what is written to it. -/
  | null
  deriving DecidableEq, Repr

/-- A directory tree and the directory in it from which relative paths start. -/
structure FileTree where
  entries : List (Location × Entry)
  home : Location
  deriving Repr

namespace FileTree

/-- What stands at a location, if anything. The root is always a directory. -/
def at? (t : FileTree) : Location → Option Entry
  | [] => some .dir
  | loc => t.entries.lookup loc

/-- The tree with `e` at a location. -/
def put (t : FileTree) (loc : Location) (e : Entry) : FileTree :=
  { t with entries := t.entries.filter (·.1 != loc) ++ [(loc, e)] }

/-- The tree with nothing at a location. -/
def remove (t : FileTree) (loc : Location) : FileTree :=
  { t with entries := t.entries.filter (·.1 != loc) }

/-! ### Walking a path -/

/-- The longest name, in bytes. -/
def nameLimit : Nat := 255

/-- A path has to be shorter than this, in bytes. -/
def pathLimit : Nat := 4096

/-- One component further from `here`. -/
def step (t : FileTree) (here : Location) (name : String) : Except IoError Location :=
  if t.at? here ≠ some .dir then .error .notDirectory
  else if name = "" ∨ name = "." then .ok here
  else if name = ".." then .ok here.tail
  else if nameLimit < name.utf8ByteSize then .error .nameTooLong
  else if (t.at? (name :: here)).isSome then .ok (name :: here)
  else .error .noEntry

/-- Refuses the paths that no walk can start with. -/
def checkText (p : Path) : Except IoError Unit :=
  if p.text.toList.contains (Char.ofNat 0) then .error .nulInPath
  else if p.text = "" then .error .noEntry
  else if pathLimit ≤ p.text.utf8ByteSize then .error .nameTooLong
  else .ok ()

/-- Where the walk along a path starts. -/
def start (t : FileTree) (p : Path) : Location :=
  if p.isAbsolute then [] else t.home

/-- The location that a path leads to. -/
def locate (t : FileTree) (p : Path) : Except IoError Location := do
  checkText p
  p.components.foldlM t.step (t.start p)

/-- What stands where a path leads. -/
def stat (t : FileTree) (p : Path) : Except IoError Entry := do
  let loc ← t.locate p
  match t.at? loc with
  | some e => pure e
  | none => throw .noEntry

/-- The path leads to something. -/
def exists? (t : FileTree) (p : Path) : Bool := (t.stat p).isOk

def isDir (t : FileTree) (p : Path) : Bool :=
  match t.stat p with
  | .ok .dir => true
  | _ => false

/-! ### Reading -/

/-- Opening for reading succeeds on everything that is there, directories included. -/
def canOpen (t : FileTree) (p : Path) : Except IoError Unit := do
  let _ ← t.stat p

/-- The content of a file. -/
def read (t : FileTree) (p : Path) : Except IoError Bytes := do
  match ← t.stat p with
  | .dir => throw .isDirectory
  | .file content => pure content
  | .null => pure []

/-- The content of a file as text. -/
def readText (t : FileTree) (p : Path) : Except IoError String := do
  let content ← t.read p
  match String.fromUTF8? ⟨content.toArray⟩ with
  | some s => pure s
  | none => throw .notText

/-! ### Making files and directories -/

/-- Where a new entry would go: under `name` in the directory `parent`. A path that ends in the
root, `.` or `..` names no entry. -/
inductive Target where
  | entry (parent : Location) (name : String) (slash : Bool)
  | standing (loc : Location)

/-- Splits a path into the walk to the holding directory and the last component, which may be
followed by slashes. -/
def target (t : FileTree) (p : Path) : Except IoError Target := do
  checkText p
  let comps := p.components.reverse
  let slash := comps.head? == some ""
  match comps.dropWhile (· == "") with
  | [] => pure (.standing [])
  | last :: before =>
    let parent ← before.reverse.foldlM t.step (t.start p)
    if t.at? parent ≠ some .dir then throw .notDirectory
    else if last = "." then pure (.standing parent)
    else if last = ".." then pure (.standing parent.tail)
    else pure (.entry parent last slash)

/-- Writes a file, new or in place of the old content. -/
def write (t : FileTree) (p : Path) (content : Bytes) : FileTree × Except IoError Unit :=
  match t.target p with
  | .error e => (t, .error e)
  | .ok (.standing _) => (t, .error .isDirectory)
  | .ok (.entry parent name slash) =>
    if slash then (t, .error .isDirectory)
    else if nameLimit < name.utf8ByteSize then (t, .error .nameTooLong)
    else match t.at? (name :: parent) with
      | some .dir => (t, .error .isDirectory)
      | some .null => (t, .ok ())
      | _ => (t.put (name :: parent) (.file content), .ok ())

/-- Makes one directory in a directory that is there. -/
def makeDir (t : FileTree) (p : Path) : FileTree × Except IoError Unit :=
  match t.target p with
  | .error e => (t, .error e)
  | .ok (.standing _) => (t, .error .alreadyExists)
  | .ok (.entry parent name _) =>
    if nameLimit < name.utf8ByteSize then (t, .error .nameTooLong)
    else if (t.at? (name :: parent)).isSome then (t, .error .alreadyExists)
    else (t.put (name :: parent) .dir, .ok ())

/-- Makes the first path of a chain of ancestors, after the ones above it if they are missing. A
failure does not count if a directory stands there anyway. -/
def makeChain (t : FileTree) : List Path → FileTree × Except IoError Unit
  | [] => (t, .error (.plain "failed to create whole tree"))
  | p :: above =>
    if p.text = "" then (t, .ok ()) else
    match t.makeDir p with
    | (t, .ok ()) => (t, .ok ())
    | (t, .error e) =>
      if e = .noEntry then
        match t.makeChain above with
        | (t, .error e) => (t, .error e)
        | (t, .ok ()) => settle (t.makeDir p) p
      else settle (t, .error e) p
where
  /-- The outcome of making `p`, forgiven if `p` is a directory. -/
  settle (made : FileTree × Except IoError Unit) (p : Path) : FileTree × Except IoError Unit :=
    match made with
    | (t, .error e) => (t, if t.isDir p then .ok () else .error e)
    | done => done

/-- Makes a directory and the missing ones above it. -/
def makeDirs (t : FileTree) (p : Path) : FileTree × Except IoError Unit :=
  t.makeChain p.ancestors

/-! ### Listing -/

/-- The part of a location below the start directory, outermost name first. -/
def below (t : FileTree) (loc : Location) : Option (List String) :=
  if loc.length ≤ t.home.length then none
  else if loc.drop (loc.length - t.home.length) = t.home then
    some (loc.take (loc.length - t.home.length)).reverse
  else none

/-- Everything below the start directory, each directory followed by its content and marked by a
final slash, siblings in the order of their bytes. -/
def listing (t : FileTree) : List String :=
  let found := t.entries.filterMap fun (loc, e) => (t.below loc).map (·, e)
  let sorted := found.mergeSort fun a b => decide (¬ b.1 < a.1)
  sorted.map fun (names, e) =>
    let text := "/".intercalate names
    match e with
    | .dir => text ++ "/"
    | _ => text

/-! ### Small facts -/

@[simp] theorem at?_nil (t : FileTree) : t.at? [] = some .dir := rfl

theorem exists?_eq_true_iff {t : FileTree} {p : Path} :
    t.exists? p = true ↔ ∃ e, t.stat p = .ok e := by
  unfold exists?
  cases t.stat p <;> simp [Except.isOk, Except.toBool]

end FileTree

end ArtifactFetch
