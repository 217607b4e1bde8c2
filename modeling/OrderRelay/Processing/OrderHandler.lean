import OrderRelay.Log.Entry
import OrderRelay.Order.Event

/-!
# The order handler

The business of the program: an event is handled when its URI is that of an order. Nothing else about
orders is known here, so any other URI is a failure for good.

* `HandlingError`;
* `OrderHandler.accept`, the order an event is about, and `OrderHandler.acceptedEntry`.
-/

namespace OrderRelay

/-- An event was not handled. -/
inductive HandlingError where
  | unknownReferenceUri (uri : String)
deriving DecidableEq, Repr

namespace HandlingError

/-- The message of an error. -/
def message : HandlingError → String
  | unknownReferenceUri uri => "unrecognised order reference URI " ++ Text.quoted uri

/-- Another attempt could end otherwise. -/
def isRetryable : HandlingError → Bool
  | unknownReferenceUri _ => false

end HandlingError

namespace OrderHandler

/-- The order that an event is about. -/
def accept (e : OrderReceived) : Except HandlingError OrderReference :=
  match OrderReference.ofUri (Text.trim e.referenceUri) with
  | .ok r => .ok r
  | .error _ => .error (.unknownReferenceUri e.referenceUri)

/-- Reported when an event is handled. -/
def acceptedEntry (e : OrderReceived) (r : OrderReference) : Log.Entry :=
  Log.info .handler "processing received order"
    [("reference", .text r.text), ("uri", .text e.referenceUri)]

/-- Handle an event, reporting through `report`. -/
def handle {σ : Type} (report : Log.Entry → StateM σ Unit) (e : OrderReceived) :
    StateM σ (Except HandlingError Unit) :=
  match accept e with
  | .ok r => do
    report (acceptedEntry e r)
    return .ok ()
  | .error err => return .error err

end OrderHandler

end OrderRelay
