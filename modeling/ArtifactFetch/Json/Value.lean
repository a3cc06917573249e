import ArtifactFetch.Json.Ignored

/-! # Values of a known kind

Readers for the kinds of value that a record can hold: text, a flag, a 64-bit count, and any of them
or `null`. A value of another kind is read far enough to name it: a scalar whole, a list or an
object not at all. -/

namespace ArtifactFetch.Json

/-- The fault of a value that is not of the expected kind. -/
def misfit (expected : String) (text : List Char) : Fault :=
  let wrong := fun (found : Found) (rest : List Char) =>
    Fault.behind (.wrongType found expected) rest
  let word := fun (letters rest : List Char) (found : Found) =>
    match readWord letters rest with
    | .ok rest => wrong found rest
    | .error f => f
  let number := fun (r : Except Fault (Number × List Char)) =>
    match r with
    | .ok (n, rest) => wrong n.found rest
    | .error f => f
  match text with
  | [] => .ahead .endInValue []
  | c :: cs =>
    if c = 'n' then word ['u', 'l', 'l'] cs .null
    else if c = 't' then word ['r', 'u', 'e'] cs (.flag true)
    else if c = 'f' then word ['a', 'l', 's', 'e'] cs (.flag false)
    else if c = '-' then number (readNumber true cs)
    else if c.isDigit then number (readNumber false text)
    else if c = '"' then
      match readString cs with
      | .ok (s, rest) => wrong (.text s) rest
      | .error f => f
    else if c = '[' then wrong .list text
    else if c = '{' then wrong .object text
    else .ahead .expectedValue text

/-- A string. -/
def readText : Reader String := fun text =>
  match skipBlanks text with
  | [] => .error (.ahead .endInValue [])
  | c :: cs => if c = '"' then readString cs else .error (misfit "a string" (c :: cs))

/-- `true` or `false`. -/
def readFlag : Reader Bool := fun text =>
  match skipBlanks text with
  | [] => .error (.ahead .endInValue [])
  | c :: cs =>
    if c = 't' then (readWord ['r', 'u', 'e'] cs).map (true, ·)
    else if c = 'f' then (readWord ['a', 'l', 's', 'e'] cs).map (false, ·)
    else .error (misfit "a boolean" (c :: cs))

/-- A natural number below `2 ^ 64`. -/
def readCount (expected : String) : Reader UInt64 := fun text =>
  match skipBlanks text with
  | [] => .error (.ahead .endInValue [])
  | c :: cs =>
    if c = '-' ∨ c.isDigit then
      match if c = '-' then readNumber true cs else readNumber false (c :: cs) with
      | .error f => .error f
      | .ok (.natural n, rest) => .ok (UInt64.ofNat n, rest)
      | .ok (.negative n, rest) => .error (.behind (.wrongValue (.integer n) expected) rest)
      | .ok (.float neg m, rest) => .error (.behind (.wrongType (.float neg m) expected) rest)
    else .error (misfit expected (c :: cs))

/-- `null`, or a value that `read` reads. -/
def readOptional {α : Type} (read : Reader α) : Reader (Option α) := fun text =>
  match skipBlanks text with
  | 'n' :: cs => (readWord ['u', 'l', 'l'] cs).map (none, ·)
  | rest => (read rest).map fun (a, rest) => (some a, rest)

end ArtifactFetch.Json
