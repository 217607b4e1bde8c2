import OrderRelay.Bus.Assignment
import OrderRelay.Bus.PartitionMap
import OrderRelay.Text.Quoted

/-!
# Consumers

A consumer reads one channel for a group, all partitions of it. It starts each partition where its group
left off, hands out the records of a partition in order, and takes the partitions in turn.

* `Consumer`, its read positions and the partitions it skips;
* `assign`, `join`, `rebalance`: how it gets its partitions, together with a listener's state and the log
  entries of that (`Assigned`);
* `next?` and `poll`: the next record;
* `rewind`, `pause`, `committedBy`: what its user does with a record.
-/

namespace OrderRelay

/-- The consumer of a channel. -/
structure Consumer where
  channel : Channel
  /-- What it is known by in its group. -/
  name : String
  /-- The offset it reads next, for every partition it was given. -/
  positions : PartitionMap Int
  /-- The partitions it hands out nothing from. -/
  paused : PartitionSet
  /-- It has yet to be given its partitions. -/
  pending : Bool
  /-- The place in the list of its partitions from which it looks for the next record. -/
  turn : Nat
deriving DecidableEq

/-- A consumer with the state of its listener, and what was reported on the way. -/
structure Assigned (ℓ : Type) where
  consumer : Consumer
  state : ℓ
  entries : List Log.Entry

namespace Consumer

open Log

/-- The partitions it was given. -/
def assignment (c : Consumer) : List Int := c.positions.keys

/-- It hands out nothing from the partition. -/
def isPaused (c : Consumer) (p : Int) : Bool := c.paused.contains p

/-! ## Getting partitions -/

/-- Where the group starts on a partition: where it left off, unless that is no longer retained. -/
def startOf (b : Bus) (channel : Channel) (p : Int) : Int :=
  let low := (b.log channel.name p).low
  max ((b.committed channel.name channel.group p).getD low) low

/-- The starts of all partitions. -/
def starts (b : Bus) (channel : Channel) : PartitionMap Int :=
  .ofList (b.partitionList.map fun p => (p, startOf b channel p))

/-- Reported when the assignment fails. -/
def failedEntry (c : Consumer) (e : OffsetQueryError) : Entry :=
  warn .bus "partition assignment failed; will retry"
    [("channel", .text c.channel.name), ("member", .text c.name), ("error", .text e.message)]

/-- Reported when the assignment succeeds. -/
def assignedEntry (c : Consumer) (ps : List Int) : Entry :=
  debug .bus "partitions assigned"
    [("channel", .text c.channel.name), ("group", .text c.channel.group), ("member", .text c.name),
      ("partitions", .text ("[" ++ ", ".intercalate (ps.map toString) ++ "]"))]

variable {ℓ : Type} (listener : Listener ℓ) (b : Bus)

/-- Give the consumer all partitions of its channel. If the listener objects, the consumer keeps what
positions it has and tries again later. -/
def assign (c : Consumer) (s : ℓ) : Assigned ℓ :=
  let r := listener.assigned (b.control c.channel.name) b.partitionList s
  match r.failure with
  | some e => ⟨{ c with paused := .empty, pending := true }, r.state, r.entries ++ [c.failedEntry e]⟩
  | none =>
    ⟨{ c with
        positions := r.seeks.foldl (fun m e => m.insert e.1 e.2) (starts b c.channel)
        paused := .empty
        pending := false },
      r.state, r.entries ++ [c.assignedEntry b.partitionList]⟩

/-- A consumer before its first assignment. -/
def fresh (channel : Channel) (name : String) : Consumer := ⟨channel, name, .empty, .empty, true, 0⟩

/-- A new consumer of a channel. -/
def join (channel : Channel) (name : String) (s : ℓ) : Assigned ℓ :=
  assign listener b (fresh channel name) s

/-- Take all partitions away and give them anew. -/
def rebalance (c : Consumer) (s : ℓ) : Assigned ℓ :=
  let s := if c.assignment.isEmpty then s else listener.revoked c.assignment s
  assign listener b { c with positions := .empty } s

/-! ## Reading -/

/-- The record the consumer would read from a partition, with its offset: the first retained one at or
after the read position. -/
def candidate? (c : Consumer) (p position : Int) : Option (Int × StoredRecord) :=
  if c.isPaused p then none
  else
    let l := b.log c.channel.name p
    let offset := max position l.low
    (l.get? offset).map fun r => (offset, r)

/-- A list with the place of each entry, beginning with the one whose turn it is. -/
def round {α : Type} (turn : Nat) (xs : List α) : List (α × Nat) :=
  let placed := xs.zipIdx
  placed.drop (turn % xs.length) ++ placed.take (turn % xs.length)

/-- The next record, taking the partitions in turn, and the consumer after reading it. -/
def next? (c : Consumer) : Option (ConsumedRecord × Consumer) :=
  let entries := c.positions.entries
  (round c.turn entries).findSome? fun ((p, position), place) =>
    (candidate? b c p position).map fun (offset, r) =>
      (⟨c.channel.name, c.channel.group, p, offset, some r.key, r.payload, some r.timestamp⟩,
        { c with
          positions := c.positions.insert p (offset + 1)
          turn := (place + 1) % entries.length })

/-- Ask for the next record. A consumer still without its partitions tries to get them first. -/
def poll (c : Consumer) (s : ℓ) : Option ConsumedRecord × Assigned ℓ :=
  let a := if c.pending then assign listener b c s else ⟨c, s, []⟩
  if a.consumer.pending then (none, a)
  else match next? b a.consumer with
    | none => (none, a)
    | some (r, c) => (some r, { a with consumer := c })

/-! ## What its user does -/

/-- Read a record of one of its partitions again. -/
def rewind (c : Consumer) (r : ConsumedRecord) : Consumer :=
  if c.positions.contains r.partition then
    { c with positions := c.positions.insert r.partition r.offset }
  else c

/-- Hand out nothing from a partition until the next assignment. -/
def pause (c : Consumer) (p : Int) : Consumer := { c with paused := PartitionSet.add c.paused p }

/-- The bus after the consumer's group has committed a record and all before it. -/
def committedBy (c : Consumer) (r : ConsumedRecord) : Bus :=
  b.commit c.channel r.partition (r.offset + 1)

/-! ## In words -/

/-- The consumer with all it holds. -/
def describe (c : Consumer) : String :=
  "InMemoryConsumer \x7b channel: Channel \x7b name: " ++ Text.quoted c.channel.name ++
    ", consumer_group: " ++ Text.quoted c.channel.group ++ " \x7d, member_id: " ++ c.name ++
    ", positions: \x7b" ++
    ", ".intercalate (c.positions.entries.map fun e => toString e.1 ++ ": " ++ toString e.2) ++
    "\x7d, paused: \x7b" ++ ", ".intercalate (c.paused.keys.map toString) ++
    "\x7d, assignment_pending: " ++ (if c.pending then "true" else "false") ++ " \x7d"

end Consumer

end OrderRelay
