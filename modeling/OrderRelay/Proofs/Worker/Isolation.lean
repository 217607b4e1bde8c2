import Mathlib.Logic.Function.Basic
import OrderRelay.Proofs.Feed.Floor
import OrderRelay.Proofs.Worker.View

/-!
# Tiers do not get in each other's way

A round of a tier commits on its own channel only and stores at most one copy, on the channel of the next tier.
The main tier and the error tier have no channel in common then, so that it does not matter which of them goes
first.

* `Isolated`, what a round leaves alone; `Handling.Accounted.isolated`: every round does;
* `Tier.Apart`: the rounds of one tier change nothing that the other tier sees, `Isolated.sameView`;
* `Account.appliedTo_comm`: what two rounds do to the bus can be done in either order;
* `Bus.SameButTimes`, two buses with the same records apart from their times;
* `Hall`, workers on one bus, `Crew.round`, a round of one of them, and `Crew.round_congr`;
* **`Crew.tiers_isolated`**: every round is isolated, and the order of two rounds does not matter.
-/

namespace OrderRelay

/-! ## What a round leaves alone -/

/-- What a round of a tier leaves alone on the bus `b`, which is `b'` then. -/
structure Isolated (topology : Topology) (tier : Tier) (told : Option Account) (b b' : Bus) : Prop where
  /-- Nothing is committed but on its own channel for its own group, on the partition of the record. -/
  committed : ∀ channel group p, b'.committed channel group p ≠ b.committed channel group p →
    channel = topology.channelName tier ∧ group = topology.consumerGroup tier ∧
      ∃ a, told = some a ∧ p = a.record.partition
  /-- No log changes, or one record is appended to the channel of the next tier. -/
  logs : (∀ channel p, b'.log channel p = b.log channel p) ∨ ∃ next q stored, tier.next = some next ∧
    ∀ channel p, b'.log channel p =
      if channel = topology.channelName next ∧ p = q then (b.log channel p).append stored else b.log channel p
  own : ∀ p, b'.log (topology.channelName tier) p = b.log (topology.channelName tier) p
  unavailable : b'.unavailable = b.unavailable
  failing : b'.failing = b.failing
  partitions : b'.partitions = b.partitions

section Leaving

variable {topology : Topology} {tier : Tier} {b b' : Bus}

theorem Isolated.refl (told : Option Account) : Isolated topology tier told b b where
  committed _ _ _ h := absurd rfl h
  logs := .inl fun _ _ => rfl
  own _ := rfl
  unavailable := rfl
  failing := rfl
  partitions := rfl

theorem Isolated.commit {a : Account} (h : Isolated topology tier (some a) b b') (o : Int) :
    Isolated topology tier (some a) b (b'.commit (topology.channel tier) a.record.partition o) where
  committed channel group p hne := by
    rw [Bus.committed_commit] at hne
    split at hne
    · rename_i heq
      exact ⟨heq.1, heq.2.1, a, rfl, heq.2.2⟩
    · exact h.committed channel group p hne
  logs := h.logs
  own := h.own
  unavailable := h.unavailable
  failing := h.failing
  partitions := h.partitions

theorem isolated_plan {a : Account} (now : Int)
    (hnext : ∀ next key payload, a.plan = .escalate next key payload → tier.next = some next) :
    Isolated topology tier (some a) b (a.plan.applied topology now b) := by
  rcases a.plan.applied_cases topology now b with heq | ⟨next, key, payload, position, hplan, hstored⟩
  · rw [heq]
    exact .refl _
  · have hnext := hnext next key payload hplan
    have hlog := Bus.log_publishTo hstored
    obtain ⟨hpartitions, hunavailable, hfailing⟩ := Bus.settings_publishTo hstored
    constructor
    case committed =>
      intro channel group p hne
      rw [Bus.committed_publishTo hstored] at hne
      exact absurd rfl hne
    case logs => exact .inr ⟨next, _, _, hnext, hlog⟩
    case own =>
      intro p
      rw [hlog, if_neg fun h => topology.channelName_ne_next hnext h.1]
    case unavailable => exact hunavailable
    case failing => exact hfailing
    case partitions => exact hpartitions

end Leaving

namespace Handling.Accounted

variable {η ε : Type} {k : Handling η ε} {topology : Topology} {tier : Tier} {x y : Stage η}
  {told : Option Account}

/-- A record moves on to the next tier only. -/
theorem next_of_escalate (h : Accounted k topology tier x y told) {a : Account} (ha : told = some a)
    {next : Tier} {key : String} {payload : List UInt8} (hplan : a.plan = .escalate next key payload) :
    tier.next = some next := by
  obtain ⟨z, hz⟩ := h.decided a ha
  exact (Processor.plan_eq_escalate (hz.symm.trans hplan)).1

/-- **Every round is isolated.** -/
theorem isolated (h : Accounted k topology tier x y told)
    (hc : x.scene.consumer.channel = topology.channel tier) :
    Isolated topology tier told x.scene.bus y.scene.bus := by
  rw [h.bus_eq, hc]
  cases told with
  | none => exact .refl _
  | some a =>
    have hplan : Isolated topology tier (some a) x.scene.bus
        (a.plan.applied topology x.scene.now x.scene.bus) :=
      isolated_plan x.scene.now fun next key payload => h.next_of_escalate rfl
    show Isolated topology tier (some a) x.scene.bus (a.applied topology (topology.channel tier) _ _)
    unfold Account.applied
    split
    · exact hplan.commit _
    · exact hplan

end Handling.Accounted

/-! ## What another tier sees of it -/

/-- The rounds of the tier `t` change nothing that the tier `u` sees. -/
structure Tier.Apart (t u : Tier) : Prop where
  ne : t ≠ u
  next_ne : t.next ≠ some u
  next_ne_next : ∀ next, t.next = some next → u.next ≠ some next

theorem Tier.main_apart_error : Tier.main.Apart .error := ⟨by decide, by decide, fun _ _ h => nomatch h⟩

theorem Tier.error_apart_main : Tier.error.Apart .main := ⟨by decide, by decide, fun _ h => nomatch h⟩

theorem Isolated.sameView {topology : Topology} {t u : Tier} {told : Option Account} {b b' : Bus}
    (h : Isolated topology t told b b') (hapart : t.Apart u) : SameView topology u b b' := by
  have hlog {v : Tier} (hv : t.next ≠ some v) (p : Int) :
      b.log (topology.channelName v) p = b'.log (topology.channelName v) p := by
    rcases h.logs with hsame | ⟨next, q, stored, hnext, hlog⟩
    · exact (hsame _ p).symm
    · rw [hlog, if_neg]
      exact fun heq => hv (hnext.trans (congrArg some (topology.channelName_inj.mp heq.1).symm))
  constructor
  case toSameSight =>
    constructor
    case partitions => exact h.partitions.symm
    case log => exact hlog hapart.next_ne
    case committed =>
      intro p
      by_contra hne
      have hchannel := (h.committed _ _ p (Ne.symm hne)).1
      exact hapart.ne (topology.channelName_inj.mp hchannel).symm
    case failing => rw [h.failing]
  case unavailable =>
    intro next _
    rw [h.unavailable]
  case high =>
    intro next hnext p
    have ht : t.next ≠ some next := fun ht => hapart.next_ne_next next ht hnext
    exact congrArg PartitionLog.high (hlog ht p)

/-! ## In either order -/

namespace Bus

variable (b : Bus) (c : Channel) (p o : Int)

theorem commit_comm {d : Channel} (hne : c.name ≠ d.name) (q o' : Int) :
    (b.commit c p o).commit d q o' = (b.commit d q o').commit c p o := by
  have hcommitted : ((b.commit c p o).commit d q o').committed = ((b.commit d q o').commit c p o).committed := by
    funext channel group r
    rw [committed_commit, committed_commit, committed_commit, committed_commit]
    by_cases hc : channel = c.name
    · have hd : ¬ channel = d.name := fun hd => hne (hc.symm.trans hd)
      simp only [hd, false_and, if_false]
    · simp only [hc, false_and, if_false]
  unfold commit at hcommitted ⊢
  rw [Bus.mk.injEq]
  exact ⟨rfl, rfl, hcommitted, rfl, rfl⟩

theorem publish_commit (e : Envelope) :
    (b.commit c p o).publish e = (b.publish e).map fun stored => (stored.1, stored.2.commit c p o) := by
  have hsame : (b.commit c p o).hasPartition (b.partitionOf e.key) = b.hasPartition (b.partitionOf e.key) := rfl
  have hkey : (b.commit c p o).partitionOf e.key = b.partitionOf e.key := rfl
  have hunavailable : (b.commit c p o).unavailable = b.unavailable := rfl
  unfold publish publishTo
  rw [hkey, hsame, hunavailable]
  cases b.unavailable e.destination <;> cases b.hasPartition (b.partitionOf e.key) <;> rfl

end Bus

theorem Plan.applied_commit (plan : Plan) (topology : Topology) (now : Int) (b : Bus) (c : Channel) (p o : Int) :
    plan.applied topology now (b.commit c p o) = (plan.applied topology now b).commit c p o := by
  cases plan with
  | finish resolution => rfl
  | escalate next key payload =>
    have hcommit := b.publish_commit c p o ⟨key, payload, topology.channelName next, now⟩
    cases h : b.publish ⟨key, payload, topology.channelName next, now⟩ with
    | ok stored =>
      rw [h] at hcommit
      rw [(carried_of_ok h).1, (carried_of_ok hcommit).1]
    | error err =>
      rw [h] at hcommit
      rw [(carried_of_error h).1, (carried_of_error hcommit).1]

namespace Account

variable {topology : Topology} {c d : Channel} {b : Bus}

theorem applied_commit (hne : c.name ≠ d.name) (a : Account) (now p o : Int) :
    a.applied topology c now (b.commit d p o) = (a.applied topology c now b).commit d p o := by
  unfold applied
  rw [Plan.applied_commit]
  split
  · exact Bus.commit_comm _ d _ _ (Ne.symm hne) _ _
  · rfl

/-- **What two rounds do can be done in either order**, if one of them stores no copy. -/
theorem appliedTo_comm (hne : c.name ≠ d.name) (told : Option Account) {told' : Option Account}
    (hlast : ∀ a, told' = some a → ∃ resolution, a.plan = .finish resolution) (n m m' : Int) :
    appliedTo topology c n (appliedTo topology d m b told') told =
      appliedTo topology d m' (appliedTo topology c n b told) told' := by
  cases told' with
  | none => rfl
  | some a' =>
    obtain ⟨resolution, hplan⟩ := hlast a' rfl
    cases told with
    | none =>
      show a'.applied topology d m b = a'.applied topology d m' b
      rw [applied_of_finish hplan, applied_of_finish hplan]
    | some a =>
      show a.applied topology c n (a'.applied topology d m b) =
        a'.applied topology d m' (a.applied topology c n b)
      rw [applied_of_finish hplan, applied_of_finish hplan]
      split
      · exact applied_commit hne a n _ _
      · rfl

end Account

/-! ## Times left aside -/

/-- The log with all times forgotten. -/
def PartitionLog.timeless (l : PartitionLog) : PartitionLog :=
  ⟨l.base, l.records.map fun r => { r with timestamp := 0 }⟩

namespace Bus

/-- Two buses are the same, but for the times of their records. -/
structure SameButTimes (b b' : Bus) : Prop where
  logs : ∀ channel p, (b.log channel p).timeless = (b'.log channel p).timeless
  committed : b.committed = b'.committed
  unavailable : b.unavailable = b'.unavailable
  failing : b.failing = b'.failing
  partitions : b.partitions = b'.partitions

theorem SameButTimes.refl (b : Bus) : SameButTimes b b := ⟨fun _ _ => rfl, rfl, rfl, rfl, rfl⟩

theorem SameButTimes.commit {b b' : Bus} (h : SameButTimes b b') (c : Channel) (p o : Int) :
    SameButTimes (b.commit c p o) (b'.commit c p o) where
  logs := h.logs
  committed := by
    unfold Bus.commit
    rw [h.committed]
  unavailable := h.unavailable
  failing := h.failing
  partitions := h.partitions

end Bus

namespace Plan

/-- A plan that is carried out at another time leaves the same bus, but for the times. -/
theorem sameButTimes_applied (plan : Plan) (topology : Topology) (n n' : Int) (b : Bus) :
    (plan.applied topology n b).SameButTimes (plan.applied topology n' b) := by
  cases plan with
  | finish resolution => exact .refl b
  | escalate next key payload =>
    have hpositions : (b.publish ⟨key, payload, topology.channelName next, n⟩).map Prod.fst =
        (b.publish ⟨key, payload, topology.channelName next, n'⟩).map Prod.fst :=
      Bus.publish_congr key payload n n' rfl rfl fun _ => rfl
    rcases both_of_map_fst_eq hpositions with ⟨err, h, h'⟩ | ⟨stored, stored', h, h'⟩
    · rw [(carried_of_error h).1, (carried_of_error h').1]
      exact .refl b
    · rw [(carried_of_ok h).1, (carried_of_ok h').1]
      obtain ⟨hpartitions, hunavailable, hfailing⟩ := Bus.settings_publishTo h
      obtain ⟨hpartitions', hunavailable', hfailing'⟩ := Bus.settings_publishTo h'
      constructor
      case committed => rw [Bus.committed_publishTo h, Bus.committed_publishTo h']
      case unavailable => rw [hunavailable, hunavailable']
      case failing => rw [hfailing, hfailing']
      case partitions => rw [hpartitions, hpartitions']
      case logs =>
        intro channel p
        rw [Bus.log_publishTo h, Bus.log_publishTo h']
        split
        · simp [PartitionLog.timeless, PartitionLog.append]
        · rfl

end Plan

theorem Account.sameButTimes_appliedTo (topology : Topology) (c : Channel) (n n' : Int) (b : Bus)
    (told : Option Account) :
    (appliedTo topology c n b told).SameButTimes (appliedTo topology c n' b told) := by
  cases told with
  | none => exact .refl b
  | some a =>
    have hplan := a.plan.sameButTimes_applied topology n n' b
    show (a.applied topology c n b).SameButTimes (a.applied topology c n' b)
    unfold applied
    split
    · exact hplan.commit _ _ _
    · exact hplan

theorem Account.sameButTimes_of_finish {topology : Topology} {c : Channel} {b b' : Bus} (h : b.SameButTimes b')
    {told : Option Account} (hlast : ∀ a, told = some a → ∃ resolution, a.plan = .finish resolution) (n : Int) :
    (appliedTo topology c n b told).SameButTimes (appliedTo topology c n b' told) := by
  cases told with
  | none => exact h
  | some a =>
    obtain ⟨resolution, hplan⟩ := hlast a rfl
    show (a.applied topology c n b).SameButTimes (a.applied topology c n b')
    rw [applied_of_finish hplan, applied_of_finish hplan]
    split
    · exact h.commit _ _ _
    · exact h

/-! ## Workers on one bus -/

/-- What a worker has for itself. -/
structure Desk where
  consumer : Consumer
  sweep : Option Sweep
  /-- Someone asked the worker to stop. -/
  stopAsked : Bool
  state : Worker.State

/-- The workers of all tiers on one bus. What the handlers remember they share. -/
structure Hall (η : Type) where
  bus : Bus
  memory : η
  desks : Tier → Desk

namespace Hall

variable {η : Type} (h : Hall η)

/-- What the worker of a tier has before it at a given time. -/
def stage (t : Tier) (now : Int) : Stage η :=
  ⟨⟨h.bus, (h.desks t).sweep, (h.desks t).consumer, (h.desks t).stopAsked, now, []⟩, h.memory, []⟩

/-- Every worker has a consumer of its own channel. -/
def Placed (topology : Topology) : Prop := ∀ t, (h.desks t).consumer.channel = topology.channel t

end Hall

namespace Crew

variable {η ε : Type} (crew : Crew η ε) (mode : Tier → Mode)

/-- One round of the worker of a tier: why it left its loop, if it did, what was done about which record, and
the hall afterwards. -/
def round (h : Hall η) (t : Tier) (now : Int) : (Option Stop × Option Account) × Hall η :=
  let w := (crew.handling t).worker crew.topology t (mode t) crew.tick
  let out := w.iterateTold (h.desks t).state (h.stage t now)
  let scene := out.2.scene
  ((out.1.1.2, out.1.2), ⟨scene.bus, out.2.memory,
    Function.update h.desks t ⟨scene.consumer, scene.sweep, scene.stopAsked, out.1.1.1⟩⟩)

variable {crew mode} {h h' : Hall η} {t u : Tier}

theorem desks_round_of_ne (hu : u ≠ t) (now : Int) : (crew.round mode h t now).2.desks u = h.desks u :=
  Function.update_of_ne hu _ _

variable (crew mode) in
theorem accounted_round (h : Hall η) (t : Tier) (now : Int) : ∃ y,
    Handling.Accounted (crew.handling t) crew.topology t (h.stage t now) y (crew.round mode h t now).1.2 ∧
      y.scene.bus = (crew.round mode h t now).2.bus ∧
      y.scene.consumer = ((crew.round mode h t now).2.desks t).consumer := by
  have haccounted := (crew.handling t).accounted_iterateTold crew.topology t (mode t) crew.tick (h.desks t).state
    (h.stage t now)
  refine ⟨_, haccounted, rfl, ?_⟩
  show _ = (Function.update h.desks t _ t).consumer
  rw [Function.update_self]

variable (mode) in
/-- **A round is the same** for a worker with the same desk on a bus on which it sees the same. -/
theorem round_congr (hdesk : h.desks t = h'.desks t) (hview : SameView crew.topology t h.bus h'.bus)
    (hc : (h'.desks t).consumer.channel = crew.topology.channel t) (hsteady : (crew.handling t).Steady)
    (n n' : Int) :
    (crew.round mode h t n).1 = (crew.round mode h' t n').1 ∧
      (crew.round mode h t n).2.desks t = (crew.round mode h' t n').2.desks t := by
  have hstage : Handling.SameStage crew.topology t (h.stage t n) (h'.stage t n') := by
    constructor
    case consumer => exact congrArg Desk.consumer hdesk
    case channel => exact hc
    case sweep => exact congrArg Desk.sweep hdesk
    case stopAsked => exact congrArg Desk.stopAsked hdesk
    case bus => exact hview
  have halike := (crew.handling t).worksAlike_of_view crew.topology t (mode t) crew.tick hsteady
  obtain ⟨htold, hstage'⟩ := halike.iterateTold (h.desks t).state _ _ hstage
  unfold round
  dsimp only
  rw [Function.update_self, Function.update_self, ← hdesk, htold, hstage'.consumer, hstage'.sweep,
    hstage'.stopAsked]
  exact ⟨rfl, rfl⟩

section Placed

variable (mode) (hplaced : h.Placed crew.topology)

include hplaced

theorem isolated_round (t : Tier) (now : Int) :
    Isolated crew.topology t (crew.round mode h t now).1.2 h.bus (crew.round mode h t now).2.bus := by
  obtain ⟨y, hy, hbus, -⟩ := accounted_round crew mode h t now
  rw [← hbus]
  exact hy.isolated (hplaced t)

theorem bus_round (t : Tier) (now : Int) : (crew.round mode h t now).2.bus =
    Account.appliedTo crew.topology (crew.topology.channel t) now h.bus (crew.round mode h t now).1.2 := by
  obtain ⟨y, hy, hbus, -⟩ := accounted_round crew mode h t now
  rw [← hbus, hy.bus_eq, ← hplaced t]
  rfl

theorem read_round {now : Int} {a : Account} (ha : (crew.round mode h t now).1.2 = some a) :
    a.record.channel = crew.topology.channelName t ∧ a.record.group = crew.topology.consumerGroup t := by
  obtain ⟨y, hy, -⟩ := accounted_round crew mode h t now
  have hread := hy.read a ha
  have hchannel : (h.stage t now).scene.consumer.channel = crew.topology.channel t := hplaced t
  rw [hchannel] at hread
  exact hread

theorem placed_round (t : Tier) (now : Int) : (crew.round mode h t now).2.Placed crew.topology := by
  intro u
  by_cases hu : u = t
  · subst hu
    obtain ⟨y, hy, -, hconsumer⟩ := accounted_round crew mode h u now
    rw [← hconsumer, hy.channel_eq]
    exact hplaced u
  · rw [desks_round_of_ne hu]
    exact hplaced u

end Placed

variable (crew mode h) in
/-- On the last tier nothing moves on. -/
theorem finish_of_last (now : Int) (ht : t.next = none) (a : Account)
    (ha : (crew.round mode h t now).1.2 = some a) : ∃ resolution, a.plan = .finish resolution := by
  obtain ⟨y, hy, -⟩ := accounted_round crew mode h t now
  cases hplan : a.plan with
  | finish resolution => exact ⟨resolution, rfl⟩
  | escalate next key payload => exact nomatch ht.symm.trans (hy.next_of_escalate ha hplan)

/-- What a round of the main tier and a round of the error tier come to in either order. The main tier goes first
at the time `n` and second at the time `n'`, the error tier second at `m` and first at `m'`. -/
structure EitherOrder (crew : Crew η ε) (mode : Tier → Mode) (h : Hall η) (n m m' n' : Int) : Prop where
  /-- Each worker finds the same to do, and the same comes of it. -/
  main : (crew.round mode h .main n).1 = (crew.round mode (crew.round mode h .error m').2 .main n').1
  error : (crew.round mode (crew.round mode h .main n).2 .error m).1 = (crew.round mode h .error m').1
  desks : (crew.round mode (crew.round mode h .main n).2 .error m).2.desks =
    (crew.round mode (crew.round mode h .error m').2 .main n').2.desks
  sameButTimes : (crew.round mode (crew.round mode h .main n).2 .error m).2.bus.SameButTimes
    (crew.round mode (crew.round mode h .error m').2 .main n').2.bus
  /-- If the copy is stored at the same time, the bus is the same. -/
  bus : n = n' → (crew.round mode (crew.round mode h .main n).2 .error m).2.bus =
    (crew.round mode (crew.round mode h .error m').2 .main n').2.bus

/-- **The order of the two rounds does not matter.** -/
theorem eitherOrder (hplaced : h.Placed crew.topology) (hmain : (crew.handling .main).Steady)
    (herror : (crew.handling .error).Steady) (n m m' n' : Int) : EitherOrder crew mode h n m m' n' := by
  have hother : (crew.topology.channel .main).name ≠ (crew.topology.channel .error).name := fun heq =>
    nomatch crew.topology.channelName_inj.mp heq
  have hlast := finish_of_last crew mode h (t := .error) m' rfl
  -- Neither worker sees what the other one has done.
  have hseen := (isolated_round mode hplaced .main n).sameView Tier.main_apart_error
  have hseen' := (isolated_round mode hplaced .error m').sameView Tier.error_apart_main
  have hnext := placed_round mode hplaced .main n
  have hnext' := placed_round mode hplaced .error m'
  have hkept {t u : Tier} (h : Hall η) (now : Int) (hu : u ≠ t) :
      (crew.round mode h t now).2.desks u = h.desks u := desks_round_of_ne hu now
  obtain ⟨htold, hdesk⟩ :=
    round_congr mode (hkept h n (by decide)).symm hseen (hnext .error) herror m' m
  obtain ⟨htold', hdesk'⟩ :=
    round_congr mode (hkept h m' (by decide)).symm hseen' (hnext' .main) hmain n n'
  have hbus := bus_round mode hnext .error m
  have hbus' := bus_round mode hnext' .main n'
  rw [← htold, bus_round mode hplaced .main n] at hbus
  rw [← htold', bus_round mode hplaced .error m', Account.appliedTo_comm hother _ hlast n' m' m] at hbus'
  constructor
  case main => exact htold'
  case error => exact htold.symm
  case desks =>
    funext t
    cases t with
    | main => rw [hkept _ _ (by decide), hdesk']
    | retry => rw [hkept _ _ (by decide), hkept _ _ (by decide), hkept _ _ (by decide), hkept _ _ (by decide)]
    | error => rw [hkept _ n' (by decide), hdesk]
  case sameButTimes =>
    rw [hbus, hbus']
    exact Account.sameButTimes_of_finish (Account.sameButTimes_appliedTo ..) hlast m
  case bus =>
    rintro rfl
    rw [hbus, hbus']

/-- **Tiers are isolated.** A round of any tier is isolated and works on a record of its own channel, if on any.
And with handlers whose answers depend on the event alone, a round of the main tier and a round of the error tier
come to the same in either order, whatever the clock shows. -/
theorem tiers_isolated (crew : Crew η ε) (mode : Tier → Mode) (h : Hall η) (hplaced : h.Placed crew.topology) :
    (∀ t now,
      Isolated crew.topology t (crew.round mode h t now).1.2 h.bus (crew.round mode h t now).2.bus ∧
        ∀ a, (crew.round mode h t now).1.2 = some a →
          a.record.channel = crew.topology.channelName t ∧ a.record.group = crew.topology.consumerGroup t) ∧
      ((crew.handling .main).Steady → (crew.handling .error).Steady →
        ∀ n m m' n', EitherOrder crew mode h n m m' n') :=
  ⟨fun t now => ⟨isolated_round mode hplaced t now, fun _ ha => read_round mode hplaced ha⟩, eitherOrder hplaced⟩

/-- Workers that handle no event. The one of the last tier has a sweep. -/
def declining : Crew Unit Unit := ⟨.standard, ⟨0⟩, fun _ => .refusing⟩

/-- The mode of the workers. -/
def lastSweeps : Tier → Mode
  | .error => .recovery
  | _ => .feed

/-- There is a record on the first tier and one on the last. -/
def twoRecords : Bus :=
  ((Bus.ofPartitions 2).setLog "order-received" 1 ⟨0, #[⟨"k", [2, 97], 0⟩]⟩).setLog "order-received-error" 0
    ⟨3, #[⟨"k", [2, 98], 0⟩]⟩

/-- All workers have just joined. -/
def allJoined : Hall Unit := ⟨twoRecords, (), fun t =>
  let w := (declining.handling t).worker declining.topology t (lastSweeps t) declining.tick
  let sweep := match lastSweeps t with
    | .feed => none
    | .recovery => some (Sweep.start (declining.topology.channelName t))
  let a := Consumer.join Scene.listener twoRecords (declining.topology.channel t) w.name sweep
  ⟨a.consumer, a.state, false, w.start⟩⟩

theorem tiers_isolated_allJoined : allJoined.Placed declining.topology ∧
    (declining.round lastSweeps allJoined .main 5).1.2.map (·.resolution) = some (.republished .retry ⟨0, 0⟩) ∧
      (declining.round lastSweeps allJoined .error 5).1.2.map (·.resolution) = some (.dropped .transient "") ∧
      EitherOrder declining lastSweeps allJoined 5 6 7 8 := by
  have hplaced : allJoined.Placed declining.topology := fun t => by cases t <;> rfl
  have hisolated := tiers_isolated declining lastSweeps allJoined hplaced
  exact ⟨hplaced, by decide +kernel, by decide +kernel,
    hisolated.2 (fun _ _ _ => rfl) (fun _ _ _ => rfl) 5 6 7 8⟩

end Crew

end OrderRelay
