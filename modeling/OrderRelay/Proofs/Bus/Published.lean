import OrderRelay.Proofs.Bus.Journal

/-!
# What is published on a channel

The retained records of a channel can be listed. The list goes through the partitions in increasing order, and
through each partition in the order of the offsets.

* `PartitionLog.mem_entries_iff`, `PartitionLog.pairwise_entries`: the records of one log, with their offsets;
* `Position.Before`, the order of the list;
* **`mem_published_iff`**, **`pairwise_published`**: what is in the list, and in which order.
-/

namespace OrderRelay

/-! ## One log -/

namespace PartitionLog

variable {l : PartitionLog}

theorem mem_entries_iff {o : Int} {r : StoredRecord} : (o, r) ∈ l.entries ↔ l.get? o = some r := by
  unfold entries get?
  simp only [List.mem_map, Prod.exists, List.mem_zipIdx_iff_getElem?, Array.getElem?_toList, Prod.mk.injEq]
  constructor
  · rintro ⟨s, i, hi, rfl, rfl⟩
    have hoff : ((l.base : Int) + i - l.base).toNat = i := by omega
    rw [if_neg (by omega), hoff]
    exact hi
  · intro h
    split at h
    · exact nomatch h
    · exact ⟨r, (o - l.base).toNat, h, by omega, rfl⟩

theorem pairwise_entries (l : PartitionLog) : l.entries.Pairwise fun a b => a.1 < b.1 := by
  have hplaces : (l.records.toList.zipIdx.map Prod.snd).Pairwise (· < ·) := by
    rw [List.zipIdx_map_snd]
    exact List.pairwise_lt_range'
  rw [List.pairwise_map] at hplaces
  unfold entries
  rw [List.pairwise_map]
  refine hplaces.imp fun {a b} hab => ?_
  show (l.base : Int) + a.2 < l.base + b.2
  omega

end PartitionLog

/-! ## The list of a channel -/

/-- The place comes first: in an earlier partition, or in the same one at a smaller offset. -/
def Position.Before (a b : Position) : Prop :=
  a.partition < b.partition ∨ a.partition = b.partition ∧ a.offset < b.offset

namespace Bus

variable {b : Bus} {channel : String}

theorem log_of_mem_entries {p : Int} {l : PartitionLog} (h : (p, l) ∈ (b.logs channel).entries) :
    b.log channel p = l := by
  rw [log, PartitionMap.mem_entries_iff.mp h, Option.getD_some]

/-- A log that holds a record was written to. -/
theorem mem_entries_of_get? {p o : Int} {r : StoredRecord} (h : (b.log channel p).get? o = some r) :
    (p, b.log channel p) ∈ (b.logs channel).entries := by
  rw [PartitionMap.mem_entries_iff]
  cases hl : (b.logs channel).get? p with
  | some l => rw [log, hl, Option.getD_some]
  | none =>
    have hempty : b.log channel p = .empty := by rw [log, hl, Option.getD_none]
    rw [hempty] at h
    have hrange : (0 : Int) ≤ o ∧ o < 0 := (PartitionLog.isSome_get?_iff .empty o).mp (by rw [h]; rfl)
    omega

/-- **The list** has the retained records, as the envelopes they came in. -/
theorem mem_published_iff {position : Position} {e : Envelope} :
    (position, e) ∈ b.published channel ↔ e.destination = channel ∧
      (b.log channel position.partition).get? position.offset = some e.record := by
  unfold published
  simp only [List.mem_flatMap, List.mem_map]
  constructor
  · rintro ⟨⟨p, l⟩, hl, ⟨o, r⟩, hr, heq⟩
    obtain ⟨rfl, rfl⟩ := Prod.mk.inj heq
    rw [log_of_mem_entries hl]
    exact ⟨rfl, PartitionLog.mem_entries_iff.mp hr⟩
  · rintro ⟨rfl, h⟩
    exact ⟨_, mem_entries_of_get? h, _, PartitionLog.mem_entries_iff.mpr h, rfl⟩

/-- **The list is ordered** by partition, and within a partition by offset. -/
theorem pairwise_published (b : Bus) (channel : String) :
    (b.published channel).Pairwise fun x y => x.1.Before y.1 := by
  unfold published
  rw [List.pairwise_flatMap]
  constructor
  · rintro ⟨p, l⟩ -
    rw [List.pairwise_map]
    exact l.pairwise_entries.imp fun hlt => .inr ⟨rfl, hlt⟩
  · refine (b.logs channel).sorted.imp fun {x y} hlt => ?_
    intro a ha a' ha'
    obtain ⟨_, -, rfl⟩ := List.mem_map.mp ha
    obtain ⟨_, -, rfl⟩ := List.mem_map.mp ha'
    exact .inl hlt

end Bus

end OrderRelay
