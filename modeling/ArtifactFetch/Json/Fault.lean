import ArtifactFetch.Decimal.Shortest
import ArtifactFetch.Text.Quoted

/-! # What can be wrong with a JSON text

Reading stops at the first fault. A fault remembers its cause, the part of the text that was not yet
read, and how many bytes of that part belong to the fault as well; the place reported for it is
counted from the whole text (`Error.ofFault`). Lines start at one, and a column is the number of
bytes since the last line break, so the first byte of a line is reported as column one only if it
belongs to the fault. -/

namespace ArtifactFetch.Json

/-- How a number that is no 64-bit integer is written: plain from five places after the point up to
sixteen before it. -/
def numberLayout : Decimal.Layout := ⟨-5, 15⟩

/-- A value that was found where another kind was expected. -/
inductive Found where
  | null
  | flag (b : Bool)
  | integer (n : Int)
  | float (negative : Bool) (magnitude : Decimal.Binary)
  | text (s : String)
  | list
  | object
  deriving DecidableEq, Repr

namespace Found

/-- How a found value is named. -/
def describe : Found → String
  | .null => "null"
  | .flag b => "boolean `" ++ (if b then "true" else "false") ++ "`"
  | .integer n => "integer `" ++ toString n ++ "`"
  | .float negative m =>
    "floating point `" ++ (if negative then "-" else "")
      ++ String.ofList (numberLayout.write m.shortest) ++ "`"
  | .text s => "string " ++ Text.quoted s
  | .list => "sequence"
  | .object => "map"

end Found

/-- Why a text cannot be read. -/
inductive Cause where
  | endInValue
  | endInObject
  | endInList
  | endInString
  | expectedValue
  | expectedWord
  | expectedColon
  | expectedCommaOrBrace
  | expectedCommaOrBracket
  | keyNotString
  | trailingComma
  | trailingText
  | badNumber
  | numberOutOfRange
  | badEscape
  | endOfHexEscape
  | loneSurrogate
  | controlCharacter
  | wrongType (found : Found) (expected : String)
  /-- An integer below the range. -/
  | wrongValue (found : Found) (expected : String)
  | duplicateField (name : String)
  | missingField (name : String)
  | wrongLength (length : Nat) (expected : String)
  deriving DecidableEq, Repr

namespace Cause

/-- The text of a cause. -/
def text : Cause → String
  | .endInValue => "EOF while parsing a value"
  | .endInObject => "EOF while parsing an object"
  | .endInList => "EOF while parsing a list"
  | .endInString => "EOF while parsing a string"
  | .expectedValue => "expected value"
  | .expectedWord => "expected ident"
  | .expectedColon => "expected `:`"
  | .expectedCommaOrBrace => "expected `,` or `\x7d`"
  | .expectedCommaOrBracket => "expected `,` or `]`"
  | .keyNotString => "key must be a string"
  | .trailingComma => "trailing comma"
  | .trailingText => "trailing characters"
  | .badNumber => "invalid number"
  | .numberOutOfRange => "number out of range"
  | .badEscape => "invalid escape"
  | .endOfHexEscape => "unexpected end of hex escape"
  | .loneSurrogate => "lone leading surrogate in hex escape"
  | .controlCharacter => "control character (\\u0000-\\u001F) found while parsing a string"
  | .wrongType found expected => "invalid type: " ++ found.describe ++ ", expected " ++ expected
  | .wrongValue found expected => "invalid value: " ++ found.describe ++ ", expected " ++ expected
  | .duplicateField name => "duplicate field `" ++ name ++ "`"
  | .missingField name => "missing field `" ++ name ++ "`"
  | .wrongLength length expected =>
    "invalid length " ++ toString length ++ ", expected " ++ expected

end Cause

/-- Where reading stopped and why. -/
structure Fault where
  cause : Cause
  /-- The text not yet read. -/
  rest : List Char
  /-- How many bytes of `rest` belong to the fault. -/
  past : Nat
  deriving DecidableEq, Repr

/-- A fault found by looking at the next byte. -/
def Fault.ahead (cause : Cause) (rest : List Char) : Fault := ⟨cause, rest, 1⟩

/-- A fault of what was just read. -/
def Fault.behind (cause : Cause) (rest : List Char) : Fault := ⟨cause, rest, 0⟩

/-- A place in a text. -/
structure Position where
  line : Nat
  column : Nat
  deriving DecidableEq, Repr

namespace Position

/-- Before the first character. -/
def start : Position := ⟨1, 0⟩

/-- One character further. -/
def step (p : Position) (c : Char) : Position :=
  if c = '\n' then ⟨p.line + 1, 0⟩ else ⟨p.line, p.column + c.utf8Size⟩

/-- `n` bytes further, which may end inside a character, but not beyond the text. -/
def forward (p : Position) : Nat → List Char → Position
  | _, [] => p
  | n, c :: cs =>
    if n = 0 then p
    else if c.utf8Size ≤ n then (p.step c).forward (n - c.utf8Size) cs
    else ⟨p.line, p.column + n⟩

end Position

/-- A cause and the place it is reported at. -/
structure Error where
  cause : Cause
  position : Position
  deriving DecidableEq, Repr

namespace Error

/-- The place of a fault in the whole text. -/
def ofFault (text : List Char) (f : Fault) : Error :=
  let read := text.take (text.length - f.rest.length)
  ⟨f.cause, (read.foldl Position.step Position.start).forward f.past f.rest⟩

/-- The text of an error. -/
def message (e : Error) : String :=
  e.cause.text ++ " at line " ++ toString e.position.line ++ " column "
    ++ toString e.position.column

end Error

end ArtifactFetch.Json
