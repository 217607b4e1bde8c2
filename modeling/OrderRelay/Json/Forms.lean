import OrderRelay.Bus.Record
import OrderRelay.Json.Decode
import OrderRelay.Json.Value
import OrderRelay.Tier
import OrderRelay.Wire.Codec

/-!
# The JSON forms of the program's values

How events, references, tiers, channels, positions and envelopes are written and read.

* for each a `toJson` and a reader;
* `Codec.json`, the form of events as a codec.
-/

namespace OrderRelay

open Json Reader

/-- The integers of 64 bits. -/
def Json.Reader.long : Reader Int := integer Int64.minValue.toInt Int64.maxValue.toInt "i64"

/-- The integers of 32 bits. -/
def Json.Reader.int : Reader Int := integer Int32.minValue.toInt Int32.maxValue.toInt "i32"

/-- The numbers of 8 bits. -/
def Json.Reader.byte : Reader UInt8 := do return UInt8.ofNat (← integer 0 255 "u8").toNat

/-! ## Events and references -/

/-- An event with its URI as the only member. -/
def OrderReceived.toJson (e : OrderReceived) : Json.Value :=
  .object [("reference_uri", .text e.referenceUri)]

/-- Read an event. -/
def OrderReceived.reader : Reader OrderReceived :=
  record "OrderReceived"
    [⟨"reference_uri", Option.isSome, fun _ => some <$> string⟩]
    (none : Option String)
    fun
      | none => .error "reference_uri"
      | some uri => .ok ⟨uri⟩

/-- A reference is its text. -/
def OrderReference.toJson (r : OrderReference) : Json.Value := .text r.text

/-- Read a reference. A text that is none is refused without a place. -/
def OrderReference.reader : Reader OrderReference := do
  match OrderReference.parse (← string) with
  | .ok r => return r
  | .error e => failUnplaced (.refused e.message)

/-- The JSON form of events as a codec. -/
def Codec.json : Codec where
  encode e := .ok (Text.bytesOf (render e.toJson))
  decode payload := match document OrderReceived.reader payload with
    | .ok e => .ok e
    | .error fault => .error (.decoding fault.message)

/-! ## Tiers and channels -/

/-- A tier is its name. -/
def Tier.toJson (t : Tier) : Json.Value := .text t.name

/-- Read a tier. -/
def Tier.reader : Reader Tier := do
  return (Tier.ofName? (← variant (Tier.all.map Tier.name))).getD .main

/-- A channel with its name and its group. -/
def Channel.toJson (c : Channel) : Json.Value :=
  .object [("name", .text c.name), ("consumer_group", .text c.group)]

/-- Read a channel. -/
def Channel.reader : Reader Channel :=
  record "Channel"
    [⟨"name", fun s => s.1.isSome, fun s => do return (some (← string), s.2)⟩,
      ⟨"consumer_group", fun s => s.2.isSome, fun s => do return (s.1, some (← string))⟩]
    ((none, none) : Option String × Option String)
    fun
      | (none, _) => .error "name"
      | (_, none) => .error "consumer_group"
      | (some name, some group) => .ok ⟨name, group⟩

/-! ## Positions and envelopes -/

/-- A position with its partition and its offset. -/
def Position.toJson (p : Position) : Json.Value :=
  .object [("partition", .number p.partition), ("offset", .number p.offset)]

/-- Read a position. -/
def Position.reader : Reader Position :=
  record "Position"
    [⟨"partition", fun s => s.1.isSome, fun s => do return (some (← int), s.2)⟩,
      ⟨"offset", fun s => s.2.isSome, fun s => do return (s.1, some (← long))⟩]
    ((none, none) : Option Int × Option Int)
    fun
      | (none, _) => .error "partition"
      | (_, none) => .error "offset"
      | (some partition, some offset) => .ok ⟨partition, offset⟩

/-- An envelope, its payload as a list of numbers. -/
def Envelope.toJson (e : Envelope) : Json.Value :=
  .object [("key", .text e.key), ("payload", .list (e.payload.map fun b => .number b.toNat)),
    ("destination", .text e.destination), ("timestamp_millis", .number e.timestamp)]

/-- The parts of an envelope as far as they were read. -/
structure Envelope.Parts where
  key : Option String
  payload : Option (List UInt8)
  destination : Option String
  timestamp : Option Int

/-- Read an envelope. -/
def Envelope.reader : Reader Envelope :=
  record "Envelope"
    [⟨"key", fun s => s.key.isSome, fun s => do return { s with key := some (← string) }⟩,
      ⟨"payload", fun s => s.payload.isSome, fun s => do return { s with payload := some (← list byte) }⟩,
      ⟨"destination", fun s => s.destination.isSome,
        fun s => do return { s with destination := some (← string) }⟩,
      ⟨"timestamp_millis", fun s => s.timestamp.isSome,
        fun s => do return { s with timestamp := some (← long) }⟩]
    (⟨none, none, none, none⟩ : Envelope.Parts)
    fun
      | ⟨none, _, _, _⟩ => .error "key"
      | ⟨_, none, _, _⟩ => .error "payload"
      | ⟨_, _, none, _⟩ => .error "destination"
      | ⟨_, _, _, none⟩ => .error "timestamp_millis"
      | ⟨some key, some payload, some destination, some timestamp⟩ =>
        .ok ⟨key, payload, destination, timestamp⟩

end OrderRelay
