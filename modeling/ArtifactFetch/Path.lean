import ArtifactFetch.Text.Cut

/-! # Path texts

A path is a text of components between slashes. Everything here looks at the text alone; what a path
leads to is the business of the file tree. A component `.` inside a path and a repeated slash mean
nothing; a leading `.` is kept, so `./a` has the parent `.` and `a` the empty parent. -/

namespace ArtifactFetch

/-- A path, absolute if its text starts with a slash. -/
structure Path where
  text : String
  deriving DecidableEq, Repr

namespace Path

/-- `right` seen from `left`: an absolute path replaces `left`, and otherwise one slash parts them
unless `left` is empty or ends in one. -/
def joinChars (left right : List Char) : List Char :=
  match right with
  | '/' :: _ => right
  | _ =>
    if left.isEmpty || left.getLast? == some '/' then left ++ right else left ++ '/' :: right

/-- The path that leads on from `p` by `part`. -/
def join (p : Path) (part : String) : Path :=
  ⟨String.ofList (joinChars p.text.toList part.toList)⟩

/-- The stretches between the slashes. -/
def components (p : Path) : List String :=
  Text.split (· == '/') p.text

def isAbsolute (p : Path) : Bool :=
  p.text.toList.head? == some '/'

/-- A component that only repeats a slash or stays in place. -/
def isIdle (name : List Char) : Bool := name.isEmpty || name == ['.']

/-- The start of a path that is a component of its own, a root slash or a leading `.`, and the
rest. -/
def splitStart : List Char → List Char × List Char
  | '/' :: cs => (['/'], cs)
  | ['.'] => (['.'], [])
  | '.' :: '/' :: cs => (['.'], '/' :: cs)
  | cs => ([], cs)

/-- The components after the start, the last one first, without idle ones at the end. -/
def tailComponents (body : List Char) : List (List Char) :=
  (Text.pieces (· == '/') body).reverse.dropWhile isIdle

/-- The path of the directory that holds the last component. A root and the empty path have none. -/
def parent? (p : Path) : Option Path :=
  let (start, body) := splitStart p.text.toList
  match tailComponents body with
  | _ :: before =>
    let kept := (before.dropWhile isIdle).reverse
    some ⟨String.ofList (start ++ Text.joinWith ['/'] kept)⟩
  | [] => if start = ['.'] then some ⟨""⟩ else none

/-- The last component, if it is a name. -/
def fileName? (p : Path) : Option (List Char) :=
  match tailComponents (splitStart p.text.toList).2 with
  | name :: _ => if name = ['.', '.'] then none else some name
  | [] => none

/-- What follows the last dot of the last component. A name whose only dot is its first character
has no extension. -/
def extension? (p : Path) : Option (List Char) := do
  let name ← p.fileName?
  match (Text.pieces (· == '.') name).reverse with
  | [] | [_] | [_, []] => none
  | ext :: _ => some ext

/-- The path and all the paths above it, the longest first. -/
def ancestors (p : Path) : List Path :=
  climb (p.text.length + 1) p
where
  climb : Nat → Path → List Path
    | 0, _ => []
    | n + 1, q => q :: match q.parent? with
      | some r => climb n r
      | none => []

end Path

end ArtifactFetch
