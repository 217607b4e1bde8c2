import OrderRelay.Tier
import OrderRelay.Bus.Record

/-!
# Outcomes and resolutions

Handling an event succeeds or fails, and a failure is worth another attempt or not. From that follows what
becomes of the record.

* `FailureKind`, `Outcome`: the result of handling one event;
* `Resolution`: what became of the record.
-/

namespace OrderRelay

/-- Whether another attempt can help. -/
inductive FailureKind where
  /-- Worth another attempt on a later tier. -/
  | transient
  /-- No attempt can help. -/
  | permanent
deriving DecidableEq, Repr

namespace FailureKind

/-- The name of a kind. -/
def name : FailureKind → String
  | transient => "transient"
  | permanent => "permanent"

/-- The kind of a failure that says of itself whether it may be retried. -/
def ofRetryable (retryable : Bool) : FailureKind := if retryable then transient else permanent

end FailureKind

/-- The result of handling one event. -/
inductive Outcome where
  | success
  | failure (kind : FailureKind) (cause : String)
deriving DecidableEq, Repr

namespace Outcome

/-- The name of an outcome. -/
def name : Outcome → String
  | success => "success"
  | failure .transient _ => "transient_failure"
  | failure .permanent _ => "permanent_failure"

/-- The cause of a failure. -/
def cause? : Outcome → Option String
  | success => none
  | failure _ cause => some cause

end Outcome

/-- What became of a record. -/
inductive Resolution where
  /-- It was handled. -/
  | completed
  /-- It moved on to the next tier, where it is stored at `position`. -/
  | republished (next : Tier) (position : Position)
  /-- It was given up. -/
  | dropped (kind : FailureKind) (cause : String)
  /-- It could not move on and stays where it is. -/
  | redeliver (cause : String)
deriving DecidableEq, Repr

namespace Resolution

/-- The name of a resolution. -/
def name : Resolution → String
  | completed => "completed"
  | republished .. => "republished"
  | dropped .. => "dropped"
  | redeliver .. => "redeliver"

/-- The record is done with: it need not be read again. -/
def isSettled : Resolution → Bool
  | redeliver .. => false
  | _ => true

end Resolution

end OrderRelay
