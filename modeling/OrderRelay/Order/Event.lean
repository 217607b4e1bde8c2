import OrderRelay.Order.Reference

/-!
# The order-received event

The event says that an order arrived, and names it by its URI. The URI is taken as it comes: an event
read from outside may hold blanks, or something that is no order URI at all.

* `OrderReceived`, `OrderReceived.ofReference`;
* `OrderReceived.trimmed`, the form in which an event travels on to another tier.
-/

namespace OrderRelay

/-- An order arrived. -/
structure OrderReceived where
  referenceUri : String
deriving DecidableEq, Repr, Inhabited

namespace OrderReceived

/-- The event about the order with a given reference. -/
def ofReference (r : OrderReference) : OrderReceived := ⟨r.uri⟩

/-- The event without blanks around its URI. -/
def trimmed (e : OrderReceived) : OrderReceived := ⟨Text.trim e.referenceUri⟩

end OrderReceived

end OrderRelay
