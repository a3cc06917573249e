import ArtifactFetch.Json.Value

/-! # Records

A record is written as an object of named members in any order, or as a list of its fields in their
own order. What was read is collected in a draft, member by member. Members of unknown name are
passed over, a known name may come only once, and what a missing field means is decided when the
object or list has ended. -/

namespace ArtifactFetch.Json

/-- A field of a record, and how its value enters a draft. -/
structure Field (Draft : Type) where
  name : String
  isSet : Draft → Bool
  read : Draft → Reader Draft

/-- The field of the given name that holds what `read` reads. -/
def Field.of {Draft α : Type} (name : String) (get : Draft → Option α) (set : Draft → α → Draft)
    (read : Reader α) : Field Draft where
  name := name
  isSet := fun d => (get d).isSome
  read := fun d text => (read text).map fun (a, rest) => (set d a, rest)

/-- A kind of record: its fields in order, and how a draft is completed after the end of an object,
or of a list with the number of elements that were read. -/
structure Schema (Draft α : Type) where
  fields : List (Field Draft)
  blank : Draft
  ofObject : Draft → Except Cause α
  ofList : Nat → Draft → Except Cause α
  expected : String

variable {Draft α : Type}

/-! ### Objects -/

/-- The text from the opening quote of the next key on; nothing at the end of the object. -/
def nextKey (first : Bool) (text : List Char) : Except Fault (Option (List Char)) :=
  match skipBlanks text with
  | [] => .error (.ahead .endInObject [])
  | c :: cs =>
    if c = '}' then .ok none
    else if first then
      if c = '"' then .ok (some cs) else .error (.ahead .keyNotString (c :: cs))
    else if c = ',' then
      match skipBlanks cs with
      | [] => .error (.ahead .endInValue [])
      | d :: ds =>
        if d = '"' then .ok (some ds)
        else if d = '}' then .error (.ahead .trailingComma (d :: ds))
        else .error (.ahead .keyNotString (d :: ds))
    else .error (.ahead .expectedCommaOrBrace (c :: cs))

/-- Where a key that comes again is reported: after the blanks behind it, and after the end of the
object if that follows at once. -/
def afterRepeated (rest : List Char) : List Char :=
  match skipBlanks rest with
  | '}' :: cs => cs
  | text => text

/-- Reads the member whose key was just read into the draft. -/
def readMember (fields : List (Field Draft)) (key : String) (draft : Draft) (text : List Char) :
    Except Fault (Draft × List Char) :=
  match fields.find? (·.name == key) with
  | some f =>
    if f.isSet draft then .error (.behind (.duplicateField key) (afterRepeated text))
    else match readColon text with
      | .error f => .error f
      | .ok rest => f.read draft rest
  | none =>
    match readColon text with
    | .error f => .error f
    | .ok rest => (skipValue rest).map (draft, ·)

/-- Reads the members of an object up to its end, at most as many as the first argument says, which
no object within its text exceeds. -/
def readMembers (fields : List (Field Draft)) :
    Nat → Bool → Draft → List Char → Except Fault (Draft × List Char)
  | 0, _, _, _ => .error (.ahead .endInObject [])
  | n + 1, first, draft, text =>
    match nextKey first text with
    | .error f => .error f
    | .ok none => .ok (draft, (skipBlanks text).drop 1)
    | .ok (some rest) =>
      match readString rest with
      | .error f => .error f
      | .ok (key, rest) =>
        match readMember fields key draft rest with
        | .error f => .error f
        | .ok (draft, rest) => readMembers fields n false draft rest

/-! ### Lists -/

/-- The text of the next element; nothing at the end of the list. -/
def nextElement (first : Bool) (text : List Char) : Except Fault (Option (List Char)) :=
  match skipBlanks text with
  | [] => .error (.ahead .endInList [])
  | c :: cs =>
    if c = ']' then .ok none
    else if first then .ok (some (c :: cs))
    else if c = ',' then
      match skipBlanks cs with
      | [] => .error (.ahead .endInValue [])
      | d :: ds =>
        if d = ']' then .error (.ahead .trailingComma (d :: ds)) else .ok (some (d :: ds))
    else .error (.ahead .expectedCommaOrBracket (c :: cs))

/-- Reads the elements of a list into the fields in their order and counts them, up to the last
field or the end of the list. -/
def readElements : List (Field Draft) → Nat → Draft → List Char →
    Except Fault (Nat × Draft × List Char)
  | [], n, draft, text => .ok (n, draft, text)
  | f :: fs, n, draft, text =>
    match nextElement (n == 0) text with
    | .error f => .error f
    | .ok none => .ok (n, draft, text)
    | .ok (some rest) =>
      match f.read draft rest with
      | .error f => .error f
      | .ok (draft, rest) => readElements fs (n + 1) draft rest

/-- The end of a list that has no field left. -/
def closeList (text : List Char) : Except Fault (List Char) :=
  match skipBlanks text with
  | [] => .error (.ahead .endInList [])
  | c :: cs =>
    if c = ']' then .ok cs
    else if c = ',' then
      match skipBlanks cs with
      | ']' :: ds => .error (.ahead .trailingComma (']' :: ds))
      | rest => .error (.ahead .trailingText rest)
    else .error (.ahead .trailingText (c :: cs))

/-! ### Whole records -/

/-- A draft completed, or its fault, reported behind the end of the record. -/
def complete (r : Except Cause α) (rest : List Char) : Except Fault (α × List Char) :=
  match r with
  | .ok a => .ok (a, rest)
  | .error cause => .error (.behind cause rest)

/-- Reads a record. -/
def Schema.read (schema : Schema Draft α) : Reader α := fun text =>
  match skipBlanks text with
  | [] => .error (.ahead .endInValue [])
  | c :: cs =>
    if c = '{' then
      match readMembers schema.fields (cs.length + 1) true schema.blank cs with
      | .error f => .error f
      | .ok (draft, rest) => complete (schema.ofObject draft) rest
    else if c = '[' then
      match readElements schema.fields 0 schema.blank cs with
      | .error f => .error f
      | .ok (n, draft, rest) =>
        match closeList rest with
        | .error f => .error f
        | .ok rest => complete (schema.ofList n draft) rest
    else .error (misfit schema.expected (c :: cs))

/-- Reads a text that holds one record and nothing else. -/
def Schema.readAll (schema : Schema Draft α) (text : List Char) : Except Fault α :=
  match schema.read text with
  | .error f => .error f
  | .ok (a, rest) =>
    match skipBlanks rest with
    | [] => .ok a
    | rest => .error (.ahead .trailingText rest)

/-- The record that a text holds. -/
def Schema.decode (schema : Schema Draft α) (s : String) : Except Error α :=
  match schema.readAll s.toList with
  | .ok a => .ok a
  | .error f => .error (.ofFault s.toList f)

end ArtifactFetch.Json
