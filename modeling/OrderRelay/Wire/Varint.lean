/-!
# Variable-length integers

A 64-bit signed number is folded onto the natural numbers, small magnitudes first (`zigzag`), and written
in groups of seven bits, the lowest first. Every byte but the last has its high bit set.

* `zigzag`, `unzigzag`;
* `groups`, the bytes of a natural number, and `readGroups`, which takes them off a list and gives their
  exact value, however large;
* `write` and `read` on 64-bit numbers. Reading takes at most ten bytes and keeps the value modulo
  `2 ^ 64`, so bits beyond the word are lost without notice.
-/

namespace OrderRelay.Varint

/-- Fold the integers onto the natural numbers: `0, -1, 1, -2, 2, …`. -/
def zigzag (v : Int) : Nat := if 0 ≤ v then 2 * v.toNat else 2 * (-v).toNat - 1

/-- Unfold a natural number into the integer it stands for. -/
def unzigzag (n : Nat) : Int := if n % 2 = 0 then (n / 2 : Nat) else -((n / 2 : Nat) : Int) - 1

/-- The groups of seven bits of a number as bytes, the lowest group first. -/
def groups (n : Nat) : List UInt8 :=
  if n < 128 then [UInt8.ofNat n] else UInt8.ofNat (n % 128 + 128) :: groups (n / 128)
termination_by n
decreasing_by omega

/-- Why no number could be read. -/
inductive Fault where
  /-- The group that must be the last one announces another. -/
  | tooLong
  /-- The bytes end before the number does. -/
  | cut
deriving DecidableEq, Repr

/-- Take at most `limit` groups off the front of a list: their value, and the rest of the list. -/
def readGroups : (limit : Nat) → List UInt8 → Except Fault (Nat × List UInt8)
  | 0, _ => .error .tooLong
  | _ + 1, [] => .error .cut
  | limit + 1, b :: rest =>
    if b.toNat < 128 then .ok (b.toNat, rest)
    else match readGroups limit rest with
      | .error fault => .error fault
      | .ok (n, rest) => .ok (b.toNat - 128 + 128 * n, rest)

/-- No number takes more groups than this. -/
def maxGroups : Nat := 10

/-- The bytes of a 64-bit number. -/
def write (v : Int64) : List UInt8 := groups (zigzag v.toInt)

/-- Take a 64-bit number off the front of a list. -/
def read (bytes : List UInt8) : Except Fault (Int64 × List UInt8) :=
  match readGroups maxGroups bytes with
  | .error fault => .error fault
  | .ok (n, rest) => .ok (Int64.ofInt (unzigzag (n % UInt64.size)), rest)

/-- Unfolding undoes folding. -/
theorem unzigzag_zigzag (v : Int) : unzigzag (zigzag v) = v := by
  unfold zigzag unzigzag
  split <;> split <;> omega

/-- Folding undoes unfolding. -/
theorem zigzag_unzigzag (n : Nat) : zigzag (unzigzag n) = n := by
  unfold zigzag unzigzag
  split <;> split <;> omega

end OrderRelay.Varint
