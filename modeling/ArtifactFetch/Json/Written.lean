/-! # JSON texts as they are written

Strings escape the quote, the backslash and the control characters, the common ones by a letter and
the others by `\u` with four lower-case digits; everything else stands for itself. Objects are
written on one line without blanks (`compact`), or with a member on each line, indented by two
blanks (`indented`). -/

namespace ArtifactFetch.Json

/-- Four hexadecimal digits. -/
def hex4 (n : Nat) : List Char :=
  [n / 4096 % 16, n / 256 % 16, n / 16 % 16, n % 16].map Nat.digitChar

/-- How a character stands in a string. -/
def escapeChar (c : Char) : List Char :=
  if c = '"' then ['\\', '"']
  else if c = '\\' then ['\\', '\\']
  else if c = '\x08' then ['\\', 'b']
  else if c = '\x0c' then ['\\', 'f']
  else if c = '\n' then ['\\', 'n']
  else if c = '\r' then ['\\', 'r']
  else if c = '\t' then ['\\', 't']
  else if c.toNat < 0x20 then '\\' :: 'u' :: hex4 c.toNat
  else [c]

/-- A string between quotes. -/
def writeText (s : String) : List Char := '"' :: s.toList.flatMap escapeChar ++ ['"']

/-- A flag. -/
def writeFlag (b : Bool) : List Char :=
  if b then ['t', 'r', 'u', 'e'] else ['f', 'a', 'l', 's', 'e']

/-- A count. -/
def writeCount (n : UInt64) : List Char := Nat.toDigits 10 n.toNat

/-- A value, or `null`. -/
def writeOptional {α : Type} (write : α → List Char) : Option α → List Char
  | none => ['n', 'u', 'l', 'l']
  | some a => write a

/-- A member of an object: its name and its value as written. -/
abbrev Member := String × List Char

/-- Members between `open` and the closing brace, each led in by `lead`, with `colon` after the
name. -/
def writeMembers (lead colon : List Char) : List Member → List Char
  | [] => []
  | [(name, value)] => lead ++ writeText name ++ colon ++ value
  | (name, value) :: ms =>
    lead ++ writeText name ++ colon ++ value ++ ',' :: writeMembers lead colon ms

/-- An object on one line. -/
def compact (members : List Member) : List Char := '{' :: writeMembers [] [':'] members ++ ['}']

/-- A non-empty object with a member on each line. -/
def indented (members : List Member) : List Char :=
  '{' :: writeMembers ['\n', ' ', ' '] [':', ' '] members ++ ['\n', '}']

end ArtifactFetch.Json
