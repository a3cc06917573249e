import ArtifactFetch.Archive.Extra
import ArtifactFetch.Text.CodePage
import ArtifactFetch.Text.Repair

/-! # Readable archives

A zip archive is found from its end record, which is searched backwards, since a comment of any
length may follow it and other data may precede the archive. An end record names where the central
directory begins; the first directory header at or after that place fixes how much foreign data
stands before the archive. The archive is readable if the directory then consists of well-formed
headers whose local entries start before it. Local entries, file data and checksums are not looked
at. -/

namespace ArtifactFetch

/-- Why an archive cannot be read. -/
inductive ArchiveFault where
  /-- The file ends inside an end record. -/
  | truncated
  | entryNotFound
  | wrongPassword
  /-- The file is no archive, for the reason given. -/
  | invalid (reason : String)
  deriving DecidableEq, Repr

namespace ArchiveFault

def noEndRecord : ArchiveFault := .invalid "Could not find EOCD"
def commentBeyondFile : ArchiveFault := .invalid "EOCD comment exceeds file boundary"
def directoryBeyondEnd : ArchiveFault := .invalid "Invalid CDFH offset in EOCD"
def noHeader : ArchiveFault := .invalid "No CDFH found"

/-- The text of a fault. -/
def text : ArchiveFault → String
  | .truncated => "i/o error"
  | .entryNotFound => "specified file not found in archive"
  | .wrongPassword => "provided password is incorrect"
  | .invalid reason => "invalid Zip archive: " ++ reason

end ArchiveFault

namespace Archive

/-! ### Fields and signatures -/

/-- The byte at `i`, zero beyond the end. -/
def byte (file : Array UInt8) (i : Nat) : Nat := (file.getD i 0).toNat

/-- The little-endian number of two bytes at `i`. -/
def word (file : Array UInt8) (i : Nat) : Nat := byte file i + 256 * byte file (i + 1)

/-- The little-endian number of four bytes at `i`. -/
def long (file : Array UInt8) (i : Nat) : Nat := word file i + 65536 * word file (i + 2)

/-- The signature of an end record, `PK` and the bytes 5 and 6. -/
def endSignature : Nat := 0x06054b50

/-- The signature of a directory header, `PK` and the bytes 1 and 2. -/
def headerSignature : Nat := 0x02014b50

/-- A signature stands at `i`. -/
def signedAt (file : Array UInt8) (signature i : Nat) : Bool :=
  decide (i + 4 ≤ file.size) && long file i == signature

/-! ### The end record -/

/-- The length of an end record without its comment. -/
def endLength : Nat := 22

/-- What an end record says, and where it stands. -/
structure EndRecord where
  position : Nat
  disk : Nat
  directoryDisk : Nat
  entriesHere : Nat
  entries : Nat
  directoryOffset : Nat
  commentLength : Nat
  deriving DecidableEq, Repr

/-- Reads the end record at `i`; its comment has to lie within the file. -/
def readEnd (file : Array UInt8) (i : Nat) : Except ArchiveFault EndRecord :=
  if file.size < i + endLength then .error .truncated
  else
    let r : EndRecord :=
      { position := i
        disk := word file (i + 4)
        directoryDisk := word file (i + 6)
        entriesHere := word file (i + 8)
        entries := word file (i + 10)
        directoryOffset := long file (i + 16)
        commentLength := word file (i + 20) }
    if file.size < i + endLength + r.commentLength then .error .commentBeyondFile else .ok r

/-- The first directory header in `[low, high)`. -/
def firstHeader (file : Array UInt8) (low high : Nat) : Option Nat :=
  ((List.range (high - low)).map (low + ·)).find? fun i =>
    decide (i + 4 ≤ high) && signedAt file headerSignature i

/-- How many bytes precede the archive whose end record is `r`. An archive without entries ends
where its directory would begin. -/
def precedingJunk (file : Array UInt8) (r : EndRecord) : Except ArchiveFault Nat :=
  if r.entries = 0 then .ok (r.position - r.directoryOffset)
  else if r.position ≤ r.directoryOffset then .error .directoryBeyondEnd
  else match firstHeader file r.directoryOffset r.position with
    | some i => .ok (i - r.directoryOffset)
    | none => .error .noHeader

/-! ### The directory -/

/-- The length of a directory header without its three variable fields. -/
def headerLength : Nat := 46

/-- The method that stands for encrypted data, which an extra field has to describe. -/
def encryptedMethod : Nat := 99

/-- The bytes in `[low, high)`. -/
def slice (file : Array UInt8) (low high : Nat) : List UInt8 := (file.extract low high).toList

/-- A comment in UTF-8. The flag of its header says whether it is meant as such. -/
def commentText (flags : Nat) (bytes : List UInt8) : List UInt8 :=
  if flags.testBit 11 then Text.repair bytes else (Text.ofCodePage bytes).toUTF8.toList

/-- The entry of the directory header at `i`, whose extra fields stand in `[extra, comment)` and
whose comment ends at `stop`. -/
def entryAt (file : Array UInt8) (i extra comment stop : Nat) : Option Entry :=
  let e : Entry :=
    { name := slice file (i + headerLength) extra
      comment := commentText (word file (i + 8)) (slice file comment stop)
      method := word file (i + 10)
      packedSize := long file (i + 20)
      size := long file (i + 24)
      localOffset := long file (i + 42)
      encryption := false }
  e.withExtra (slice file extra comment)

/-- Checks the directory header at `i` and gives the place after it. The local entry has to start
before the directory does, at `directory`. -/
def headerEnd (file : Array UInt8) (junk directory i : Nat) : Option Nat :=
  if file.size < i + headerLength then none
  else if !signedAt file headerSignature i then none
  else
    let extra := i + headerLength + word file (i + 28)
    let comment := extra + word file (i + 30)
    let next := comment + word file (i + 32)
    if file.size < next then none
    else match entryAt file i extra comment next with
      | none => none
      | some e =>
        if directory ≤ e.localOffset + junk then none
        else if e.method = encryptedMethod ∧ !e.encryption then none
        else some next

/-- `n` headers stand one after another from `i` on. -/
def headersFrom (file : Array UInt8) (junk directory : Nat) : Nat → Nat → Bool
  | 0, _ => true
  | n + 1, i =>
    match headerEnd file junk directory i with
    | some next => headersFrom file junk directory n next
    | none => false

/-- The directory that an end record names is in order: the archive is on one disk, and all headers
are well formed. -/
def directoryInOrder (file : Array UInt8) (r : EndRecord) (junk : Nat) : Bool :=
  let directory := r.directoryOffset + junk
  r.disk == r.directoryDisk && headersFrom file junk directory r.entriesHere directory

/-! ### The search -/

/-- The places of end signatures, the last one first. -/
def endPlaces (file : Array UInt8) : List Nat :=
  (List.range file.size).reverse.filter (signedAt file endSignature)

/-- Tries the end records at the given places in turn. Of the records that lead to no directory the
last fault is remembered, except that one which cannot be read yields to any fault before it; a
directory that is not in order wipes the memory out. -/
def search (file : Array UInt8) : List Nat → Option ArchiveFault → Except ArchiveFault Unit
  | [], remembered => .error (remembered.getD .noEndRecord)
  | i :: earlier, remembered =>
    match readEnd file i with
    | .error fault => search file earlier (remembered.or (some fault))
    | .ok r =>
      match precedingJunk file r with
      | .error fault => search file earlier (some fault)
      | .ok junk =>
        if directoryInOrder file r junk then .ok () else search file earlier none

/-- A file with this content is a readable archive. -/
def check (content : List UInt8) : Except ArchiveFault Unit :=
  let file := content.toArray
  search file (endPlaces file) none

end Archive

end ArtifactFetch
