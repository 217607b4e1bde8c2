import OrderRelay.Consumer
import OrderRelay.Proofs.Bus.Logs

/-!
# What a consumer reads

The laws of a consumer's operations, in terms of its read positions.

* `next?_eq_some`: a record that is read is the first retained one at or after the read position of a
  partition that is not paused, and that position moves just past it;
* `get?_eq_none_of_next?_eq_none`: when nothing is read, there is nothing to read;
* `assign_eq`: the positions after an assignment;
* `get?_rewind`, `get?_starts`.
-/

namespace OrderRelay.Consumer

variable {b : Bus} {c c' : Consumer}

/-! ## Reading -/

theorem mem_of_mem_round {α : Type} {turn : Nat} {xs : List α} {e : α × Nat} (h : e ∈ round turn xs) :
    e.1 ∈ xs := by
  unfold round at h
  have hz : e ∈ xs.zipIdx := by
    rcases List.mem_append.mp h with h | h
    · exact List.mem_of_mem_drop h
    · exact List.mem_of_mem_take h
  exact (List.mem_zipIdx' hz).2 ▸ List.getElem_mem _

theorem exists_mem_round {α : Type} (turn : Nat) {xs : List α} {x : α} (h : x ∈ xs) :
    ∃ place, (x, place) ∈ round turn xs := by
  obtain ⟨i, hi, rfl⟩ := List.mem_iff_getElem.mp h
  have hz : (xs[i], i) ∈ xs.zipIdx := by
    rw [List.mem_zipIdx_iff_getElem?]
    exact List.getElem?_eq_getElem hi
  rw [← List.take_append_drop (turn % xs.length) xs.zipIdx] at hz
  exact ⟨i, List.mem_append.mpr (List.mem_append.mp hz).symm⟩

/-- What is known of a record that was read, and of the consumer after reading it. -/
structure Read (b : Bus) (c : Consumer) (r : ConsumedRecord) (c' : Consumer) : Prop where
  channel : r.channel = c.channel.name
  /-- The record is retained, and nothing between the read position and it is. -/
  exists_position : ∃ position stored, c.positions.get? r.partition = some position ∧
    r.offset = max position (b.low c.channel.name r.partition) ∧
    (b.log c.channel.name r.partition).get? r.offset = some stored ∧
    r.key = some stored.key ∧ r.payload = stored.payload
  not_paused : c.isPaused r.partition = false
  /-- Only the turn and the read position of the partition change. -/
  exists_turn : ∃ turn, c' = { c with
    positions := c.positions.insert r.partition (r.offset + 1), turn := turn }

theorem next?_eq_some {r : ConsumedRecord} (h : next? b c = some (r, c')) : Read b c r c' := by
  unfold next? at h
  obtain ⟨⟨⟨p, position⟩, place⟩, hm, hf⟩ := List.exists_of_findSome?_eq_some h
  have hp : c.positions.get? p = some position :=
    PartitionMap.mem_entries_iff.mp (mem_of_mem_round hm)
  simp only [candidate?] at hf
  cases hpaused : c.isPaused p with
  | true => simp [hpaused] at hf
  | false =>
    cases hs : (b.log c.channel.name p).get? (max position (b.log c.channel.name p).low) with
    | none => simp [hpaused, hs] at hf
    | some stored =>
      simp only [hpaused, hs, Bool.false_eq_true, if_false, Option.map_some, Option.some.injEq,
        Prod.mk.injEq] at hf
      obtain ⟨rfl, rfl⟩ := hf
      exact ⟨rfl, ⟨position, stored, hp, rfl, hs, rfl, rfl⟩, hpaused, ⟨_, rfl⟩⟩

/-- When nothing is read, every partition that is not paused has nothing to give from its read position on. -/
theorem get?_eq_none_of_next?_eq_none (h : next? b c = none) {p position : Int}
    (hp : c.positions.get? p = some position) (hpaused : c.isPaused p = false) :
    (b.log c.channel.name p).get? (max position (b.low c.channel.name p)) = none := by
  obtain ⟨place, hm⟩ := exists_mem_round c.turn (PartitionMap.mem_entries_iff.mpr hp)
  unfold next? at h
  have hnone := List.findSome?_eq_none_iff.mp h _ hm
  rw [Option.map_eq_none_iff, candidate?, hpaused, if_neg Bool.false_ne_true] at hnone
  exact Option.map_eq_none_iff.mp hnone

namespace Read

variable {r : ConsumedRecord}

theorem offset_lt_high (h : Read b c r c') : r.offset < b.high c.channel.name r.partition := by
  obtain ⟨_, _, _, _, hs, _⟩ := h.exists_position
  exact ((PartitionLog.isSome_get?_iff _ _).mp (by rw [hs]; rfl)).2

theorem channel_eq (h : Read b c r c') : c'.channel = c.channel := by
  obtain ⟨_, rfl⟩ := h.exists_turn
  rfl

theorem pending_eq (h : Read b c r c') : c'.pending = c.pending := by
  obtain ⟨_, rfl⟩ := h.exists_turn
  rfl

theorem isPaused_eq (h : Read b c r c') (p : Int) : c'.isPaused p = c.isPaused p := by
  obtain ⟨_, rfl⟩ := h.exists_turn
  rfl

theorem get?_positions (h : Read b c r c') (p : Int) :
    c'.positions.get? p = if r.partition = p then some (r.offset + 1) else c.positions.get? p := by
  obtain ⟨_, rfl⟩ := h.exists_turn
  exact PartitionMap.get?_insert _ _ _ _

end Read

theorem get?_rewind (c : Consumer) (r : ConsumedRecord) (p : Int) :
    (c.rewind r).positions.get? p =
      if r.partition = p then (c.positions.get? p).map fun _ => r.offset else c.positions.get? p := by
  unfold rewind PartitionMap.contains
  by_cases hp : r.partition = p
  · subst hp
    cases h : c.positions.get? r.partition with
    | none => simp [h]
    | some position => simp [PartitionMap.get?_insert]
  · rw [if_neg hp]
    split
    · exact (PartitionMap.get?_insert _ _ _ _).trans (if_neg hp)
    · rfl

theorem channel_rewind (c : Consumer) (r : ConsumedRecord) : (c.rewind r).channel = c.channel := by
  unfold rewind
  split <;> rfl

theorem isPaused_rewind (c : Consumer) (r : ConsumedRecord) (p : Int) :
    (c.rewind r).isPaused p = c.isPaused p := by
  unfold rewind
  split <;> rfl

theorem pending_rewind (c : Consumer) (r : ConsumedRecord) : (c.rewind r).pending = c.pending := by
  unfold rewind
  split <;> rfl

theorem isPaused_pause (c : Consumer) (p q : Int) :
    (c.pause p).isPaused q = (decide (p = q) || c.isPaused q) := by
  unfold isPaused pause PartitionSet.add PartitionMap.contains
  rw [PartitionMap.get?_insert]
  by_cases h : p = q <;> simp [h]

/-- A record that was read and is read again leaves the read position at its offset. -/
theorem Read.get?_rewind {r : ConsumedRecord} (h : Read b c r c') (p : Int) :
    (c'.rewind r).positions.get? p =
      if r.partition = p then some r.offset else c.positions.get? p := by
  rw [Consumer.get?_rewind, h.get?_positions]
  split <;> rfl

/-! ## Getting partitions -/

/-- Every partition of the bus gets the start of the group, and no other partition gets any. -/
theorem get?_starts (b : Bus) (channel : Channel) (p : Int) :
    (starts b channel).get? p = if p ∈ b.partitionList then some (startOf b channel p) else none :=
  PartitionMap.get?_ofList_map b.partitionList (startOf b channel) p

variable {ℓ : Type} (listener : Listener ℓ)

/-- A consumer whose listener objects waits; one whose listener agrees has its partitions. -/
theorem assign_eq (b : Bus) (c : Consumer) (s : ℓ) :
    (assign listener b c s).state =
        (listener.assigned (b.control c.channel.name) b.partitionList s).state ∧
      (assign listener b c s).consumer =
        match (listener.assigned (b.control c.channel.name) b.partitionList s).failure with
        | some _ => { c with paused := .empty, pending := true }
        | none => { c with
            positions := (listener.assigned (b.control c.channel.name) b.partitionList s).seeks.foldl
              (fun m e => m.insert e.1 e.2) (starts b c.channel)
            paused := .empty
            pending := false } := by
  unfold assign
  dsimp only
  generalize listener.assigned (b.control c.channel.name) b.partitionList s = r
  obtain ⟨state, seeks, failure, entries⟩ := r
  cases failure <;> exact ⟨rfl, rfl⟩

theorem channel_assign (b : Bus) (c : Consumer) (s : ℓ) :
    (assign listener b c s).consumer.channel = c.channel := by
  rw [(assign_eq listener b c s).2]
  split <;> rfl

/-- A consumer that has its partitions just reads. -/
theorem poll_of_not_pending (h : c.pending = false) (s : ℓ) :
    poll listener b c s = match next? b c with
      | none => (none, ⟨c, s, []⟩)
      | some (r, c') => (some r, ⟨c', s, []⟩) := by
  have hc : (if c.pending = true then assign listener b c s else ⟨c, s, []⟩) = ⟨c, s, []⟩ :=
    if_neg (by rw [h]; exact Bool.false_ne_true)
  rw [poll, hc]
  exact if_neg (by rw [h]; exact Bool.false_ne_true)

end OrderRelay.Consumer
