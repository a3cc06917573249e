/-! # CRC-32

The checksum of a sequence of bytes: the remainder of a division of polynomials over two elements,
lowest bit first, taken in one bit at a time. -/

namespace ArtifactFetch.Crc32

/-- The divisor, its highest power left out. -/
def divisor : UInt32 := 0xedb88320

/-- The remainder one bit further. -/
def shift (r : UInt32) : UInt32 := if r &&& 1 = 1 then (r >>> 1) ^^^ divisor else r >>> 1

/-- The remainder with one more byte. -/
def absorb (r : UInt32) (b : UInt8) : UInt32 := Nat.repeat shift 8 (r ^^^ b.toUInt32)

/-- The checksum of a sequence of bytes. -/
def checksum (bytes : List UInt8) : UInt32 := ~~~bytes.foldl absorb 0xffffffff

end ArtifactFetch.Crc32
