import ArtifactFetch.Digest.Crc32

/-! # Extra fields of a directory header

A directory header ends with extra fields, each a tag, a length and its data. Fields of unknown tag
are passed over; the others have a form of their own and may replace what the header said. The walk
over the fields ends without harm where one reaches beyond the last byte (`Stop.cutShort`), and with
what was replaced until then; a field that is there but not of its form spoils the header
(`Stop.malformed`). -/

namespace ArtifactFetch.Archive

/-- What extra fields can replace in a directory header. -/
structure Entry where
  name : List UInt8
  /-- The comment in UTF-8. -/
  comment : List UInt8
  method : Nat
  size : Nat
  packedSize : Nat
  localOffset : Nat
  /-- A field describes how the data is encrypted. -/
  encryption : Bool
  deriving DecidableEq, Repr

/-- Why a field cannot be read. -/
inductive Stop where
  | cutShort
  | malformed
  deriving DecidableEq, Repr

/-- The first `n` bytes and the others. -/
def takeBytes (n : Nat) (bytes : List UInt8) : Except Stop (List UInt8 × List UInt8) :=
  if n ≤ bytes.length then .ok (bytes.splitAt n) else .error .cutShort

/-- The others. -/
def skipBytes (n : Nat) (bytes : List UInt8) : Except Stop (List UInt8) :=
  (takeBytes n bytes).map (·.2)

/-- The little-endian number of some bytes. -/
def littleEndian : List UInt8 → Nat
  | [] => 0
  | b :: bytes => b.toNat + 256 * littleEndian bytes

/-- The little-endian number of the first `n` bytes, and the others. -/
def takeNumber (n : Nat) (bytes : List UInt8) : Except Stop (Nat × List UInt8) :=
  (takeBytes n bytes).map fun (taken, rest) => (littleEndian taken, rest)

/-! ### The fields -/

/-- Times of day: a byte of flags and a time for each of its three lowest bits; a field of five
bytes holds one time, whatever the flags. -/
def readTimes (length : Nat) (bytes : List UInt8) : Except Stop (List UInt8) := do
  let (flags, rest) ← takeNumber 1 bytes
  let times := (List.range 8).countP flags.testBit
  if (length = 5 ∨ length = 1 + 4 * times) ∧ flags < 8 then skipBytes (length - 1) rest
  else throw .malformed

/-- File times: one attribute of three eight-byte times. -/
def readFileTimes (length : Nat) (bytes : List UInt8) : Except Stop (List UInt8) := do
  if length ≠ 32 then throw .malformed
  let rest ← skipBytes 4 bytes
  let (tag, rest) ← takeNumber 2 rest
  if tag ≠ 1 then throw .malformed
  let (size, rest) ← takeNumber 2 rest
  if size ≠ 24 then throw .malformed
  skipBytes 24 rest

/-- A UTF-8 text in place of another one, which is known by its checksum. -/
def readText (old : List UInt8) (length : Nat) (bytes : List UInt8) :
    Except Stop (List UInt8 × List UInt8) := do
  let rest ← skipBytes 1 bytes
  let (checksum, rest) ← takeNumber 4 rest
  if length < 5 then throw .malformed
  let (text, rest) ← takeBytes (length - 5) rest
  if checksum = (Crc32.checksum old).toNat ∧ (String.fromUTF8? ⟨text.toArray⟩).isSome then
    pure (text, rest)
  else throw .malformed

/-- A description of encryption: its version, its maker, its strength and the method of the data
before it was encrypted. -/
def readEncryption (length : Nat) (bytes : List UInt8) : Except Stop (Nat × List UInt8) := do
  if length ≠ 7 then throw .malformed
  let (version, rest) ← takeNumber 2 bytes
  let (maker, rest) ← takeNumber 2 rest
  let (strength, rest) ← takeNumber 1 rest
  let (method, rest) ← takeNumber 2 rest
  if maker = 0x4541 ∧ 1 ≤ version ∧ version ≤ 2 ∧ 1 ≤ strength ∧ strength ≤ 3 then
    pure (method, rest)
  else throw .malformed

/-- What stands in a header for a number that needs eight bytes. -/
def narrowLimit : Nat := 0xffffffff

/-- The eight-byte number that replaces `n` in a field of the given length, of which `used` bytes
were read before; `n` itself unless it does not fit into the header or the field is long enough for
all. -/
def widen (length n used : Nat) (bytes : List UInt8) : Except Stop (Nat × Nat × List UInt8) :=
  if 24 ≤ length ∨ n = narrowLimit then
    (takeNumber 8 bytes).map fun (m, rest) => (m, used + 8, rest)
  else .ok (n, used, bytes)

/-- Numbers of eight bytes in place of those in the header: the two sizes, and where the local entry
starts. -/
def readWide (length : Nat) (bytes : List UInt8) (e : Entry) : Entry × Except Stop (List UInt8) :=
  match widen length e.size 0 bytes with
  | .error stop => (e, .error stop)
  | .ok (size, used, rest) =>
    let e := { e with size := size }
    match widen length e.packedSize used rest with
    | .error stop => (e, .error stop)
    | .ok (packedSize, used, rest) =>
      let e := { e with packedSize := packedSize }
      match widen length e.localOffset used rest with
      | .error stop => (e, .error stop)
      | .ok (localOffset, used, rest) =>
        ({ e with localOffset := localOffset },
          if length < used then .error .malformed else skipBytes (length - used) rest)

/-- The entry with what was read, or as it is if nothing could be read. -/
def Entry.replace {α : Type} (e : Entry) (r : Except Stop (α × List UInt8)) (set : α → Entry) :
    Entry × Except Stop (List UInt8) :=
  match r with
  | .ok (a, rest) => (set a, .ok rest)
  | .error stop => (e, .error stop)

/-- Reads the field at the start of some bytes into the entry. -/
def readField (bytes : List UInt8) (e : Entry) : Entry × Except Stop (List UInt8) :=
  match takeNumber 2 bytes with
  | .error stop => (e, .error stop)
  | .ok (tag, rest) =>
    match takeNumber 2 rest with
    | .error stop => (e, .error stop)
    | .ok (length, rest) =>
      match tag with
      | 0x0001 => readWide length rest e
      | 0x000a => (e, readFileTimes length rest)
      | 0x5455 => (e, readTimes length rest)
      | 0x6375 => e.replace (readText e.comment length rest) fun text => { e with comment := text }
      | 0x7075 => e.replace (readText e.name length rest) fun text => { e with name := text }
      | 0x9901 =>
        e.replace (readEncryption length rest) fun method =>
          { e with method := method, encryption := true }
      | _ => (e, skipBytes length rest)

/-- Reads field after field into the entry, at most as many as the first argument says, which no
sequence of as many bytes exceeds; nothing if one of them is malformed. -/
def readFields : Nat → List UInt8 → Entry → Option Entry
  | 0, _, e => some e
  | n + 1, bytes, e =>
    if bytes.isEmpty then some e
    else match readField bytes e with
      | (e, .ok rest) => readFields n rest e
      | (e, .error .cutShort) => some e
      | (_, .error .malformed) => none

/-- The entry with the replacements of its extra fields. -/
def Entry.withExtra (e : Entry) (bytes : List UInt8) : Option Entry :=
  readFields bytes.length bytes e

end ArtifactFetch.Archive
