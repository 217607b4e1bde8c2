import OrderRelay.Bus.PartitionLog
import OrderRelay.Bus.PartitionMap
import OrderRelay.Bus.Placement
import OrderRelay.Tier

/-!
# The bus

Channels of append-only logs, all with the same number of partitions, and the offsets that consumer groups
have committed. Only the logs that were written to are kept, and all others are empty, so that the number of
partitions costs nothing. Two kinds of trouble can be switched on per channel: publishing fails, or questions
about offsets fail.

* `Bus`, `Bus.ofPartitions`, and the log of a partition, `Bus.log`, with its law `log_setLog`;
* `publish`, which places a record by its key, and `publishTo`, which names the partition; a failing
  publish leaves no new bus;
* `truncate`, `commit`, `setUnavailable`, `failQueries`;
* `published`, `committed`, `watermarks`: what can be seen of a bus.
-/

namespace OrderRelay

/-- The state of the bus. -/
structure Bus where
  partitions : Nat
  partitions_pos : 0 < partitions
  /-- The logs of a channel that were written to. -/
  logs : String → PartitionMap PartitionLog
  /-- The offset that a group will read next on a partition of a channel, if it ever committed. -/
  committed : String → String → Int → Option Int
  /-- Publishing to the channel fails. -/
  unavailable : String → Bool
  /-- Questions about the offsets of the channel fail. -/
  failing : String → Bool

namespace Bus

/-- An empty bus whose channels have `n` partitions, at least one. -/
def ofPartitions (n : Int) : Bus where
  partitions := max n.toNat 1
  partitions_pos := by omega
  logs _ := .empty
  committed _ _ _ := none
  unavailable _ := false
  failing _ := false

instance : Inhabited Bus := ⟨ofPartitions 1⟩

/-- The partitions of every channel. -/
def partitionList (b : Bus) : List Int := (List.range b.partitions).map Int.ofNat

/-- The channel has a partition of that number. -/
def hasPartition (b : Bus) (p : Int) : Bool := 0 ≤ p && p < b.partitions

/-- The partition a key belongs to. -/
def partitionOf (b : Bus) (key : String) : Int := Placement.partitionOf b.partitions key

/-- The log of a partition of a channel. -/
def log (b : Bus) (channel : String) (p : Int) : PartitionLog :=
  ((b.logs channel).get? p).getD .empty

/-- The bus with another log for one partition of one channel. -/
def setLog (b : Bus) (channel : String) (p : Int) (l : PartitionLog) : Bus :=
  let changed := (b.logs channel).insert p l
  { b with logs := fun c => if c = channel then changed else b.logs c }

/-- Another log for one partition leaves all other logs as they are. -/
theorem log_setLog (b : Bus) (channel c : String) (p q : Int) (l : PartitionLog) :
    (b.setLog channel p l).log c q = if c = channel ∧ q = p then l else b.log c q := by
  by_cases hc : c = channel
  · subst hc
    by_cases hq : q = p
    · simp [log, setLog, PartitionMap.get?_insert, hq]
    · have : p ≠ q := fun h => hq h.symm
      simp [log, setLog, PartitionMap.get?_insert, hq, this]
  · simp [log, setLog, hc]

/-- Store an envelope on a given partition of its channel. -/
def publishTo (b : Bus) (e : Envelope) (p : Int) : Except PublishError (Position × Bus) :=
  if b.unavailable e.destination then
    .error (.unavailable e.destination "channel marked unavailable")
  else if b.hasPartition p then
    let l := b.log e.destination p
    .ok (⟨p, l.high⟩, b.setLog e.destination p (l.append ⟨e.key, e.payload, e.timestamp⟩))
  else .error (.unavailable e.destination ("unknown partition " ++ toString p))

/-- Store an envelope on the partition its key belongs to. -/
def publish (b : Bus) (e : Envelope) : Except PublishError (Position × Bus) :=
  b.publishTo e (b.partitionOf e.key)

/-- Forget the records of a partition below an offset. -/
def truncate (b : Bus) (channel : String) (p offset : Int) : Bus :=
  if b.hasPartition p then b.setLog channel p ((b.log channel p).truncate offset) else b

/-- Note the offset that a group will read next. -/
def commit (b : Bus) (channel : Channel) (p next : Int) : Bus :=
  { b with committed := fun c g q =>
      if c = channel.name ∧ g = channel.group ∧ q = p then some next else b.committed c g q }

/-- Make publishing to a channel fail, or work again. -/
def setUnavailable (b : Bus) (channel : String) (on : Bool) : Bus :=
  { b with unavailable := fun c => if c = channel then on else b.unavailable c }

/-- Make questions about the offsets of a channel fail, or work again. -/
def failQueries (b : Bus) (channel : String) (on : Bool) : Bus :=
  { b with failing := fun c => if c = channel then on else b.failing c }

/-- The retained records of a channel with their positions, by partition and then by offset. -/
def published (b : Bus) (channel : String) : List (Position × Envelope) :=
  (b.logs channel).entries.flatMap fun (p, l) => l.entries.map fun e =>
    (⟨p, e.1⟩, ⟨e.2.key, e.2.payload, channel, e.2.timestamp⟩)

/-- The offset that the next record of a partition will get. -/
def high (b : Bus) (channel : String) (p : Int) : Int := (b.log channel p).high

/-- The range of offsets that a partition retains, if it can be asked for. -/
def watermarks (b : Bus) (channel : String) (p : Int) : Except OffsetQueryError Watermarks :=
  if b.failing channel then .error ⟨channel, p, "broker unreachable"⟩
  else .ok (b.log channel p).watermarks

end Bus

end OrderRelay
