import OrderRelay.Bus.State

/-!
# Logs and committed offsets

What each operation of a bus does to the logs and to the committed offsets, one law for each.

* `publishTo_eq_ok_iff`, `log_publishTo`: a record that was stored, and the logs after it;
* `publish_eq_error_iff`, `exists_publish_eq_ok_iff`: the partition of a key exists, so publishing fails only if the
  channel is unavailable;
* `log_truncate`, `committed_commit`;
* `low_publishTo`, `low_le_low_truncate`: no low end ever falls.
-/

namespace OrderRelay.Bus

variable {b b' : Bus}

/-- The least offset that a partition retains. -/
def low (b : Bus) (channel : String) (p : Int) : Int := (b.log channel p).low

theorem low_le_high (b : Bus) (channel : String) (p : Int) : b.low channel p ≤ b.high channel p :=
  (b.log channel p).low_le_high

/-- The partitions are numbered from zero. -/
theorem mem_partitionList_iff {p : Int} : p ∈ b.partitionList ↔ 0 ≤ p ∧ p < b.partitions := by
  unfold partitionList
  rw [List.mem_map]
  constructor
  · rintro ⟨i, hi, rfl⟩
    have := List.mem_range.mp hi
    simp only [Int.ofNat_eq_natCast]
    omega
  · rintro ⟨h0, hp⟩
    exact ⟨p.toNat, List.mem_range.mpr (by omega), Int.toNat_of_nonneg h0⟩

/-! ## Publishing -/

/-- An envelope is stored when its channel is available and has the partition. It becomes the last record. -/
theorem publishTo_eq_ok_iff {e : Envelope} {p : Int} {position : Position} :
    b.publishTo e p = .ok (position, b') ↔
      b.unavailable e.destination = false ∧ b.hasPartition p = true ∧
        position = ⟨p, b.high e.destination p⟩ ∧
        b' = b.setLog e.destination p
          ((b.log e.destination p).append ⟨e.key, e.payload, e.timestamp⟩) := by
  unfold publishTo
  cases b.unavailable e.destination with
  | true => simp
  | false =>
    cases b.hasPartition p with
    | false => simp
    | true => simp [high, eq_comm]

section Stored

variable {e : Envelope} {p : Int} {position : Position}

/-- The logs after an envelope was stored. -/
theorem log_publishTo (h : b.publishTo e p = .ok (position, b')) (c : String) (q : Int) :
    b'.log c q = if c = e.destination ∧ q = p then
      (b.log c q).append ⟨e.key, e.payload, e.timestamp⟩ else b.log c q := by
  obtain ⟨-, -, -, rfl⟩ := publishTo_eq_ok_iff.mp h
  rw [log_setLog]
  split
  · rename_i hc
    rw [hc.1, hc.2]
  · rfl

theorem committed_publishTo (h : b.publishTo e p = .ok (position, b')) : b'.committed = b.committed := by
  obtain ⟨-, -, -, rfl⟩ := publishTo_eq_ok_iff.mp h
  rfl

theorem settings_publishTo (h : b.publishTo e p = .ok (position, b')) :
    b'.partitions = b.partitions ∧ b'.unavailable = b.unavailable ∧ b'.failing = b.failing := by
  obtain ⟨-, -, -, rfl⟩ := publishTo_eq_ok_iff.mp h
  exact ⟨rfl, rfl, rfl⟩

theorem low_publishTo (h : b.publishTo e p = .ok (position, b')) (c : String) (q : Int) :
    b'.low c q = b.low c q := by
  unfold low
  rw [log_publishTo h]
  split <;> rfl

theorem high_publishTo (h : b.publishTo e p = .ok (position, b')) (c : String) (q : Int) :
    b'.high c q = if c = e.destination ∧ q = p then b.high c q + 1 else b.high c q := by
  unfold high
  rw [log_publishTo h]
  split
  · exact PartitionLog.high_append _ _
  · rfl

theorem eq_destination_of_high_lt (h : b.publishTo e p = .ok (position, b')) {c : String} {q : Int}
    (hlt : b.high c q < b'.high c q) : c = e.destination := by
  rw [high_publishTo h] at hlt
  split at hlt
  · rename_i heq
    exact heq.1
  · exact absurd hlt (Int.lt_irrefl _)

end Stored

/-! ## Publishing by key -/

section ByKey

variable {e : Envelope}

theorem hasPartition_partitionOf (b : Bus) (key : String) : b.hasPartition (b.partitionOf key) = true := by
  simp only [hasPartition, Bool.and_eq_true, decide_eq_true_eq]
  exact ⟨Placement.partitionOf_nonneg _ _, Placement.partitionOf_lt b.partitions_pos key⟩

/-- A record finds its partition, so it is refused only if the channel is unavailable. -/
theorem publish_eq_error_iff {err : PublishError} :
    b.publish e = .error err ↔
      b.unavailable e.destination = true ∧ err = .unavailable e.destination "channel marked unavailable" := by
  unfold publish publishTo
  rw [b.hasPartition_partitionOf]
  cases b.unavailable e.destination <;> simp [eq_comm]

theorem exists_publish_eq_ok_iff :
    (∃ position b', b.publish e = .ok (position, b')) ↔ b.unavailable e.destination = false := by
  constructor
  · rintro ⟨position, b', h⟩
    exact (publishTo_eq_ok_iff.mp h).1
  · intro h
    exact ⟨_, _, publishTo_eq_ok_iff.mpr ⟨h, b.hasPartition_partitionOf e.key, rfl, rfl⟩⟩

end ByKey

/-! ## Retention -/

theorem log_truncate (b : Bus) (channel : String) (p offset : Int) (c : String) (q : Int) :
    (b.truncate channel p offset).log c q =
      if b.hasPartition p = true ∧ c = channel ∧ q = p then (b.log c q).truncate offset
      else b.log c q := by
  unfold truncate
  by_cases hp : b.hasPartition p = true
  · rw [if_pos hp, log_setLog]
    by_cases hc : c = channel ∧ q = p
    · rw [if_pos hc, if_pos ⟨hp, hc⟩, hc.1, hc.2]
    · rw [if_neg hc, if_neg fun h => hc h.2]
  · rw [if_neg hp, if_neg fun h => hp h.1]

theorem committed_truncate (b : Bus) (channel : String) (p offset : Int) :
    (b.truncate channel p offset).committed = b.committed := by
  unfold truncate
  split <;> rfl

theorem low_le_low_truncate (b : Bus) (channel : String) (p offset : Int) (c : String) (q : Int) :
    b.low c q ≤ (b.truncate channel p offset).low c q := by
  unfold low
  rw [log_truncate]
  split
  · exact PartitionLog.low_le_low_truncate _ _
  · exact Int.le_refl _

theorem high_truncate (b : Bus) (channel : String) (p offset : Int) (c : String) (q : Int) :
    (b.truncate channel p offset).high c q = b.high c q := by
  unfold high
  rw [log_truncate]
  split
  · exact PartitionLog.high_truncate _ _
  · rfl

/-! ## Committing -/

theorem committed_commit (b : Bus) (channel : Channel) (p next : Int) (c g : String) (q : Int) :
    (b.commit channel p next).committed c g q =
      if c = channel.name ∧ g = channel.group ∧ q = p then some next else b.committed c g q := rfl

end OrderRelay.Bus
