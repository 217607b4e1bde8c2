import OrderRelay.Log.Entry
import OrderRelay.Processing.Outcome
import OrderRelay.Wire.Codec

/-!
# Processing a record

A processor serves one tier. It reads the event of a record, has it handled, and then settles the record
with its consumer:

* handled, given up, or moved on to the next tier: the record is committed;
* not accepted by the next tier: the record is rewound and will be read again.

A record is committed only after it was stored on the next tier, so no event is lost in between.

What a processor works with (handler, publisher, clock, log) are actions on a state of some type `σ`;
nothing is assumed about them.

* `Processor`, `Subscription`;
* `evaluate`: read and handle;
* `Plan`, `plan`: what is to become of the record, decided from the outcome alone;
* `resolve`: carry the plan out; `handleRecord`: settle the record as well.
-/

namespace OrderRelay

open Log

/-- The consumer of a channel as a processor and a worker use it. -/
structure Subscription (σ : Type) where
  channel : String
  /-- Wait up to a time for the next record. -/
  poll : Text.Duration → StateM σ (Except ConsumeError (Option ConsumedRecord))
  /-- Note that a record and all before it are done with. -/
  commit : ConsumedRecord → StateM σ (Except ConsumeError Unit)
  /-- Read a record again. -/
  rewind : ConsumedRecord → StateM σ (Except ConsumeError Unit)
  /-- Read nothing more from a partition. -/
  pause : Int → StateM σ (Except ConsumeError Unit)
  watermarks : Int → StateM σ (Except OffsetQueryError Watermarks)

/-- What serves the records of one tier. Handling can fail with an `ε`. -/
structure Processor (σ ε : Type) where
  tier : Tier
  topology : Topology
  codec : Codec
  handle : OrderReceived → StateM σ (Except ε Unit)
  classify : ε → FailureKind
  describe : ε → String
  publish : Envelope → StateM σ (Except PublishError Position)
  clock : StateM σ Int
  republishKey : RepublishKey
  report : Entry → StateM σ Unit

/-- What is to become of a record. -/
inductive Plan where
  /-- Nothing more to do. -/
  | finish (resolution : Resolution)
  /-- Store a payload on the next tier. -/
  | escalate (next : Tier) (key : String) (payload : List UInt8)
deriving DecidableEq, Repr

namespace Processor

variable {σ ε : Type} (p : Processor σ ε)

/-! ## Reading and handling -/

/-- The fields that name a record in the log. -/
def recordFields (r : ConsumedRecord) (reference : String) : List (String × Value) :=
  [("channel", .text r.channel), ("partition", .number r.partition), ("offset", .number r.offset),
    ("reference", .text reference)]

/-- Reported when an event was read. -/
def receivedEntry (r : ConsumedRecord) (e : OrderReceived) : Entry :=
  info .processor "order received" (recordFields r e.referenceUri ++ [("tier", .text p.tier.name)])

/-- The outcome of an answer of the handler. -/
def outcomeOf : Except ε Unit → Outcome
  | .ok () => .success
  | .error err => .failure (p.classify err) (p.describe err)

/-- Read the event of a record and have it handled. There is no event only if the payload cannot be read,
and that is a failure for good. -/
def evaluate (r : ConsumedRecord) : StateM σ (Option OrderReceived × Outcome) :=
  match p.codec.decode r.payload with
  | .error err => return (none, .failure .permanent err.message)
  | .ok e => do
    p.report (p.receivedEntry r e)
    let answer ← p.handle e
    return (some e, p.outcomeOf answer)

/-- The URI in a record, if its payload can be read. -/
def referenceOf (r : ConsumedRecord) : Option String :=
  match p.codec.decode r.payload with
  | .ok e => some e.referenceUri
  | .error _ => none

/-! ## Deciding -/

/-- How an event moves on: without blanks around its URI, and under the key of the policy. -/
def escalation (r : ConsumedRecord) (e : OrderReceived) (next : Tier) : Plan :=
  match p.codec.encode e.trimmed with
  | .error err => .finish (.dropped .permanent err.message)
  | .ok payload => .escalate next (p.republishKey.resolve (r.key.getD "")) payload

/-- What is to become of a record. Only a passing failure moves on, and only if there is a next tier. -/
def plan (r : ConsumedRecord) : Option OrderReceived × Outcome → Plan
  | (_, .success) => .finish .completed
  | (_, .failure .permanent cause) => .finish (.dropped .permanent cause)
  | (none, .failure .transient cause) => .finish (.dropped .transient cause)
  | (some e, .failure .transient cause) =>
    match p.tier.next with
    | none => .finish (.dropped .transient cause)
    | some next => p.escalation r e next

/-- The envelope in which a payload moves on at a given time. -/
def envelope (next : Tier) (key : String) (payload : List UInt8) (now : Int) : Envelope :=
  ⟨key, payload, p.topology.channelName next, now⟩

/-- What became of a record that was to move on. -/
def resolutionOf (next : Tier) : Except PublishError Position → Resolution
  | .ok position => .republished next position
  | .error err => .redeliver err.message

/-! ## Acting -/

/-- Carry out what is to become of a record. -/
def carryOut : Plan → StateM σ Resolution
  | .finish resolution => return resolution
  | .escalate next key payload => do
    let now ← p.clock
    let answer ← p.publish (p.envelope next key payload now)
    return resolutionOf next answer

/-- Read, handle, decide and act: the URI read, empty if there was none, and what became of the record. -/
def resolve (r : ConsumedRecord) : StateM σ (String × Resolution) := do
  let (event, outcome) ← p.evaluate r
  let resolution ← p.carryOut (p.plan r (event, outcome))
  return ((event.map (·.referenceUri)).getD "", resolution)

/-- Reported when a record was resolved. -/
def resolvedEntry (r : ConsumedRecord) (reference : String) (resolution : Resolution) : Entry :=
  let fields := recordFields r reference ++ [("outcome", .text resolution.name)]
  match resolution with
  | .completed => info .processor "order processed" fields
  | .republished next position =>
    info .processor "transient failure; moved to next tier" (fields ++
      [("next_tier", .text next.name), ("next_partition", .number position.partition),
        ("next_offset", .number position.offset)])
  | .dropped kind cause =>
    error .processor "order processing failed permanently" (fields ++
      [("failure", .text kind.name), ("cause", .text cause)])
  | .redeliver cause =>
    warn .processor "republish failed; leaving offset uncommitted" (fields ++
      [("cause", .text cause)])

/-- Reported when a record could not be settled. -/
def unsettledEntry (r : ConsumedRecord) (err : ConsumeError) : Entry :=
  warn .processor "failed to settle offset"
    [("channel", .text r.channel), ("partition", .number r.partition), ("offset", .number r.offset),
      ("error", .text err.message)]

/-- Tell the consumer what became of a record. -/
def settle (consumer : Subscription σ) (r : ConsumedRecord) (resolution : Resolution) :
    StateM σ Unit := do
  let answer ← if resolution.isSettled then consumer.commit r else consumer.rewind r
  match answer with
  | .ok () => return
  | .error err => p.report (unsettledEntry r err)

/-- Process a record from beginning to end. -/
def handleRecord (consumer : Subscription σ) (r : ConsumedRecord) : StateM σ Resolution := do
  let (reference, resolution) ← p.resolve r
  p.report (resolvedEntry r reference resolution)
  p.settle consumer r resolution
  return resolution

end Processor

end OrderRelay
