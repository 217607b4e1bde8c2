import OrderRelay.Bus.Record

/-!
# The log of a partition

A partition numbers its records from zero and never gives a number twice. Retention forgets records from
the front; the numbers of the others stay.

* `PartitionLog`, with `append` and `truncate`;
* the view `get?`: the record at an offset, and `low` and `high`, the ends of the retained range;
* the law of each operation on the view: `get?_append`, `get?_truncate`, `high_append`, `high_truncate`,
  `low_truncate`.
-/

namespace OrderRelay

/-- A record as it is stored. -/
structure StoredRecord where
  key : String
  payload : List UInt8
  timestamp : Int
deriving DecidableEq, Repr

/-- The retained records of a partition, the first of them at the offset `base`. -/
structure PartitionLog where
  base : Nat
  records : Array StoredRecord
deriving DecidableEq, Repr

namespace PartitionLog

/-- The log of a partition that nothing was written to. -/
def empty : PartitionLog := ⟨0, #[]⟩

instance : Inhabited PartitionLog := ⟨empty⟩

/-- The least retained offset. -/
def low (l : PartitionLog) : Int := l.base

/-- The offset of the next record. -/
def high (l : PartitionLog) : Int := l.base + l.records.size

/-- The watermarks of a log. -/
def watermarks (l : PartitionLog) : Watermarks := ⟨l.low, l.high⟩

/-- The retained record at an offset. -/
def get? (l : PartitionLog) (offset : Int) : Option StoredRecord :=
  if offset < l.base then none else l.records[(offset - l.base).toNat]?

/-- The log with one more record. -/
def append (l : PartitionLog) (r : StoredRecord) : PartitionLog := ⟨l.base, l.records.push r⟩

/-- Where a log is cut to forget the offsets below `offset`: inside its range. -/
def cut (l : PartitionLog) (offset : Int) : Nat :=
  min (max offset.toNat l.base) (l.base + l.records.size)

/-- The log without the records below `offset`. -/
def truncate (l : PartitionLog) (offset : Int) : PartitionLog :=
  ⟨l.cut offset, l.records.extract (l.cut offset - l.base) l.records.size⟩

/-- The retained records with their offsets, in order. -/
def entries (l : PartitionLog) : List (Int × StoredRecord) :=
  l.records.toList.zipIdx.map fun e => ((l.base : Int) + e.2, e.1)

/-! ## What the operations do to the view -/

theorem low_le_high (l : PartitionLog) : l.low ≤ l.high := by
  unfold low high
  omega

/-- Exactly the offsets from `low` up to `high` hold a record. -/
theorem isSome_get?_iff (l : PartitionLog) (o : Int) :
    (l.get? o).isSome = true ↔ l.low ≤ o ∧ o < l.high := by
  unfold get? low high
  split
  · simp only [Option.isSome_none, Bool.false_eq_true, false_iff]
    omega
  · rw [Option.isSome_iff_ne_none, ne_eq, Array.getElem?_eq_none_iff]
    omega

@[simp] theorem low_append (l : PartitionLog) (r : StoredRecord) : (l.append r).low = l.low := rfl

@[simp] theorem high_append (l : PartitionLog) (r : StoredRecord) :
    (l.append r).high = l.high + 1 := by
  simp [high, append]
  omega

/-- Appending puts the record at the end and leaves all others where they are. -/
theorem get?_append (l : PartitionLog) (r : StoredRecord) (o : Int) :
    (l.append r).get? o = if o = l.high then some r else l.get? o := by
  unfold get? append high
  simp only [Array.getElem?_push]
  by_cases h : o < l.base
  · simp only [h, if_true]
    rw [if_neg (by omega)]
  · simp only [h, if_false]
    by_cases ho : o = l.base + l.records.size
    · rw [if_pos (by omega), if_pos ho]
    · rw [if_neg (by omega), if_neg ho]

theorem low_truncate (l : PartitionLog) (o : Int) :
    (l.truncate o).low = min (max o l.low) l.high := by
  simp only [low, truncate, cut, high]
  omega

@[simp] theorem high_truncate (l : PartitionLog) (o : Int) : (l.truncate o).high = l.high := by
  simp only [high, truncate, cut, Array.size_extract]
  omega

theorem low_le_low_truncate (l : PartitionLog) (o : Int) : l.low ≤ (l.truncate o).low := by
  rw [low_truncate]
  have := l.low_le_high
  omega

/-- Retention forgets the records below the new low end and keeps all others. -/
theorem get?_truncate (l : PartitionLog) (o o' : Int) :
    (l.truncate o).get? o' = if o' < (l.truncate o).low then none else l.get? o' := by
  have hc : l.base ≤ l.cut o ∧ l.cut o ≤ l.base + l.records.size := by
    unfold cut
    omega
  unfold get? low truncate
  simp only [Array.getElem?_extract, Nat.min_self]
  by_cases h : o' < l.cut o
  · simp [h]
  · have hb : ¬ o' < l.base := by omega
    have he : l.cut o - l.base + (o' - l.cut o).toNat = (o' - l.base).toNat := by omega
    simp only [h, hb, if_false, he]
    by_cases hs : (o' - l.cut o).toNat < l.records.size - (l.cut o - l.base)
    · simp only [hs, if_true]
    · simp only [hs, if_false]
      rw [eq_comm, Array.getElem?_eq_none_iff]
      omega

end PartitionLog

end OrderRelay
