import OrderRelay.Text.Utf8

/-!
# Placement

Records with equal keys go to the same partition. The key is hashed byte by byte on 32-bit words, starting
from a fixed offset: each byte is mixed in by exclusive or, then the word is multiplied by a fixed odd
number. The partition is the remainder of the hash.
-/

namespace OrderRelay.Placement

/-- The word the hash starts from. -/
def start : UInt32 := 0x811c9dc5

/-- The number the hash is multiplied by for every byte. -/
def factor : UInt32 := 0x01000193

/-- Mix one byte into a hash. -/
def mix (hash : UInt32) (byte : UInt8) : UInt32 := (hash ^^^ byte.toUInt32) * factor

/-- The hash of a key. -/
def hash (key : String) : UInt32 := (Text.bytesOf key).foldl mix start

/-- The partition of a key among `partitions`. -/
def partitionOf (partitions : Nat) (key : String) : Int := ((hash key).toNat % partitions : Nat)

theorem partitionOf_nonneg (partitions : Nat) (key : String) : 0 ≤ partitionOf partitions key :=
  Int.natCast_nonneg _

theorem partitionOf_lt {partitions : Nat} (h : 0 < partitions) (key : String) :
    partitionOf partitions key < partitions :=
  Int.ofNat_lt.mpr (Nat.mod_lt _ h)

end OrderRelay.Placement
