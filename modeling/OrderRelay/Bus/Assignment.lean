import OrderRelay.Bus.State
import OrderRelay.Log.Entry

/-!
# Assignment of partitions

When a consumer is given its partitions, a listener may look at the offsets of each and send the consumer
back to the earliest retained record. One failing question fails the whole assignment.

* `Control`, the questions a listener may ask, and `Bus.control`, their answers on a bus;
* `Reaction`, what came of an assignment, and `Listener`;
* `Listener.silent`, which asks nothing.
-/

namespace OrderRelay

/-- What can be asked for while partitions are being assigned. -/
structure Control where
  watermarks : Int → Except OffsetQueryError Watermarks
  /-- Go back to the earliest retained record of a partition; the answer is its offset. -/
  seekEarliest : Int → Except OffsetQueryError Int

/-- The answers that a bus gives for a channel. -/
def Bus.control (b : Bus) (channel : String) : Control where
  watermarks p := b.watermarks channel p
  seekEarliest p := match b.watermarks channel p with
    | .ok marks => .ok marks.low
    | .error e => .error e

/-- What came of an assignment: the new state of the listener, the offsets it went back to in order, the
failure that ended it early, and its log entries. -/
structure Reaction (ℓ : Type) where
  state : ℓ
  seeks : List (Int × Int)
  failure : Option OffsetQueryError
  entries : List Log.Entry

/-- Something that is told of assignments and may fail them. Its state is of type `ℓ`. -/
structure Listener (ℓ : Type) where
  assigned : Control → List Int → ℓ → Reaction ℓ
  revoked : List Int → ℓ → ℓ

/-- The listener that lets every assignment pass. -/
def Listener.silent (ℓ : Type) : Listener ℓ where
  assigned _ _ s := ⟨s, [], none, []⟩
  revoked _ s := s

end OrderRelay
