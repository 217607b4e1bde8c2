/-!
# Tiers

Orders are worked off on three tiers. What fails on one tier for a passing reason moves on to the next;
the last tier has none.

* `Tier`, `Tier.next`;
* `Channel`, a named channel with the group of consumers that reads it;
* `Topology`, the channel of every tier, derived from a namespace and a base name;
* `RepublishKey`, the key of a record that moves on.
-/

namespace OrderRelay

/-- One step of the escalation chain. -/
inductive Tier where
  | main
  | retry
  | error
deriving DecidableEq, Repr, Inhabited

namespace Tier

/-- The tiers in the order of escalation. -/
def all : List Tier := [main, retry, error]

/-- Where a passing failure moves on to. -/
def next : Tier → Option Tier
  | main => some retry
  | retry => some error
  | error => none

/-- The name of a tier. -/
def name : Tier → String
  | main => "main"
  | retry => "retry"
  | error => "error"

/-- The tier of a name. -/
def ofName? (s : String) : Option Tier := all.find? (·.name == s)

/-- The position in the order of escalation, from zero. -/
def rank : Tier → Nat
  | main => 0
  | retry => 1
  | error => 2

/-- The ending that a tier gives to the base name of a channel. -/
def ending : Tier → String
  | main => ""
  | retry => "-retry"
  | error => "-error"

end Tier

/-- A channel and the group that consumes it. -/
structure Channel where
  name : String
  group : String
deriving DecidableEq, Repr, Inhabited

/-- What the names of all channels and groups are made of. -/
structure Topology where
  namespaceName : String
  baseTopic : String
deriving DecidableEq, Repr

namespace Topology

/-- The names used when nothing else is asked for. -/
def standard : Topology := ⟨"item-handler", "order-received"⟩

/-- The channel name of a tier. -/
def channelName (t : Topology) (tier : Tier) : String := t.baseTopic ++ tier.ending

/-- The consumer group of a tier. -/
def consumerGroup (t : Topology) (tier : Tier) : String :=
  t.namespaceName ++ "-" ++ t.channelName tier

/-- The channel of a tier, with its group. -/
def channel (t : Topology) (tier : Tier) : Channel := ⟨t.channelName tier, t.consumerGroup tier⟩

/-- No two tiers share a channel. -/
theorem channelName_inj (t : Topology) {a b : Tier} : t.channelName a = t.channelName b ↔ a = b := by
  unfold channelName
  rw [String.append_right_inj]
  cases a <;> cases b <;> decide

end Topology

/-- The key of a record that moves on to the next tier. -/
inductive RepublishKey where
  /-- The same key for all. -/
  | fixed (key : String)
  /-- The key it had. -/
  | source
deriving DecidableEq, Repr

namespace RepublishKey

/-- The usual key: the name of the retry channel. -/
def retryChannel (t : Topology) : RepublishKey := .fixed (t.channelName .retry)

/-- The key for a record that had the key `sourceKey`. -/
def resolve (k : RepublishKey) (sourceKey : String) : String :=
  match k with
  | fixed key => key
  | source => sourceKey

end RepublishKey

end OrderRelay
