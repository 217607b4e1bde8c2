import OrderRelay.Text.Duration

/-!
# Records and their places

What goes onto a channel and what comes off it.

* `Envelope`, a payload on its way to a channel;
* `Position`, the place an envelope is stored at, and `ConsumedRecord`, what a consumer gets to see;
* `Watermarks`, the range of offsets a partition retains;
* `PublishError`, `ConsumeError`, `OffsetQueryError`, the ways in which the bus can fail.
-/

namespace OrderRelay

open Text

/-- A payload with its key, on its way to the channel `destination`. The time is in milliseconds. -/
structure Envelope where
  key : String
  payload : List UInt8
  destination : String
  timestamp : Int
deriving DecidableEq, Repr

/-- The place of a record on its channel. -/
structure Position where
  partition : Int
  offset : Int
deriving DecidableEq, Repr

/-- A record as its consumer sees it. -/
structure ConsumedRecord where
  channel : String
  group : String
  partition : Int
  offset : Int
  key : Option String
  payload : List UInt8
  timestamp : Option Int
deriving DecidableEq, Repr

/-- The place of a consumed record. -/
def ConsumedRecord.position (r : ConsumedRecord) : Position := ⟨r.partition, r.offset⟩

/-- The least retained offset of a partition, and the offset the next record will get. -/
structure Watermarks where
  low : Int
  high : Int
deriving DecidableEq, Repr

/-- An envelope was not stored. The bus may recover, so trying again can help. -/
inductive PublishError where
  | timeout (channel : String) (waited : Duration)
  | unavailable (channel reason : String)
deriving DecidableEq, Repr

namespace PublishError

/-- The channel the envelope was meant for. -/
def channel : PublishError → String
  | timeout channel _ => channel
  | unavailable channel _ => channel

/-- The message of an error. -/
def message : PublishError → String
  | timeout channel waited => "no acknowledgement from " ++ channel ++ " within " ++ waited.render
  | unavailable channel reason => channel ++ " unavailable: " ++ reason

end PublishError

/-- A consumer could not do what it was asked for. -/
inductive ConsumeError where
  | transport (text : String)
  | commit (text : String)
  /-- The subscription is gone for good. -/
  | disconnected
deriving DecidableEq, Repr

/-- The message of an error. -/
def ConsumeError.message : ConsumeError → String
  | transport text => "transport error: " ++ text
  | commit text => "offset commit failed: " ++ text
  | disconnected => "subscription disconnected"

/-- The offsets of a partition could not be asked for. -/
structure OffsetQueryError where
  channel : String
  partition : Int
  reason : String
deriving DecidableEq, Repr

/-- The message of an error. -/
def OffsetQueryError.message (e : OffsetQueryError) : String :=
  "offset query for " ++ e.channel ++ "[" ++ toString e.partition ++ "] failed: " ++ e.reason

end OrderRelay
