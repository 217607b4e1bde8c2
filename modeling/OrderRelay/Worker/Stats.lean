import OrderRelay.Processing.Outcome

/-!
# Counters

What a worker has done so far, record by record. A record counts as processed, with what became of it, or
as held back.
-/

namespace OrderRelay

/-- The counters of a worker. -/
structure Stats where
  tier : Tier
  channel : String
  processed : Nat
  succeeded : Nat
  republished : Nat
  dropped : Nat
  redelivered : Nat
  heldBack : Nat
  finished : Bool
deriving DecidableEq, Repr

namespace Stats

/-- The counters of a worker that has yet to start. -/
def start (tier : Tier) (channel : String) : Stats := ⟨tier, channel, 0, 0, 0, 0, 0, 0, false⟩

/-- Count a processed record. -/
def count (s : Stats) (resolution : Resolution) : Stats :=
  let s := { s with processed := s.processed + 1 }
  match resolution with
  | .completed => { s with succeeded := s.succeeded + 1 }
  | .republished .. => { s with republished := s.republished + 1 }
  | .dropped .. => { s with dropped := s.dropped + 1 }
  | .redeliver .. => { s with redelivered := s.redelivered + 1 }

/-- Count a record that was held back. -/
def countHeldBack (s : Stats) : Stats := { s with heldBack := s.heldBack + 1 }

/-- Note that the worker has stopped. -/
def finish (s : Stats) : Stats := { s with finished := true }

end Stats

end OrderRelay
