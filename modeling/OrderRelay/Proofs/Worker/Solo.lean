import OrderRelay.Proofs.Feed.Floor
import OrderRelay.Proofs.Recovery.Parts

/-!
# A worker by itself

One worker of any tier, with a sweep or without, move by move. Between two moves anyone may publish, retention
may remove records, channels may fail, the worker may be asked to stop, and between two rounds its consumer may
be given its partitions anew.

* `Solo`, the state, with a *history* of what there is to tell, and `SoloAct`, what can happen;
* `Handling.soloOpening`, `Handling.soloPerform`, `Handling.soloAfter`: how it begins, and what happens;
* `Sight`, the part of the state on which a move depends, and `Moved`, what a move can make of it.
-/

namespace OrderRelay

open Log

/-- What can be told of a worker by itself. -/
inductive Happening where
  | told (e : Event)
  /-- The consumer was asked for a record. These partitions were drained then, and these it had stopped
  reading. -/
  | polled (drained : List Int) (paused : PartitionSet)
  /-- A record was handed over for processing. -/
  | handed (r : ConsumedRecord)
  /-- The consumer was given its partitions anew. These the worker remembered to have stopped reading, and
  these are drained afterwards. -/
  | reassigned (remembered : PartitionSet) (drained : List Int)
deriving DecidableEq

/-- A worker by itself, with the scene it works on and the state of its handler. -/
structure Solo (η : Type) where
  scene : Scene
  memory : η
  stand : Worker.Stand
  history : List Happening

/-- What can happen next. -/
inductive SoloAct (η : Type) where
  | move
  | outside (o : Outside η)
  | askStop
  /-- The consumer is given its partitions anew, if the worker is between two rounds. -/
  | rebalance

/-- The sweep that a worker starts with. -/
def Mode.sweep? (prior : Sweep) : Mode → Option Sweep
  | feed => none
  | recovery => some prior

/-- The partitions of a sweep that are drained. -/
def drainedOf (sweep : Option Sweep) : List Int := (sweep.map Sweep.drained).getD []

/-- The partitions of a sweep that have something left to do. -/
def pendingOf (sweep : Option Sweep) : List Int := (sweep.map Sweep.pending).getD []

/-- A happening of a longer history is one of its first part or of the rest. -/
theorem eq_append_or {h es xs ys : List Happening} {e : Happening} (heq : h ++ es = xs ++ e :: ys) :
    (∃ zs, h = xs ++ e :: zs ∧ ys = zs ++ es) ∨ ∃ zs, xs = h ++ zs ∧ es = zs ++ e :: ys := by
  rcases List.append_eq_append_iff.mp heq with ⟨zs, hxs, hes⟩ | ⟨zs, hh, hys⟩
  · exact .inr ⟨zs, hxs, hes⟩
  · cases zs with
    | nil =>
      rw [List.append_nil] at hh
      exact .inr ⟨[], by rw [hh, List.append_nil], hys.symm⟩
    | cons z zs =>
      obtain ⟨rfl, hrest⟩ := List.cons.inj hys
      exact .inl ⟨zs, hh, hrest⟩

/-- Nothing is handed over by what others do. -/
theorem handed_notMem_told (es : List Event) (r : ConsumedRecord) : .handed r ∉ es.map Happening.told := by
  intro hr
  obtain ⟨e, -, he⟩ := List.mem_map.mp hr
  cases he

namespace Worker.Point

/-- The record that was read last, until it is settled. -/
def record? : Point → Option ConsumedRecord
  | inPhase phase => phase.record?
  | judging r => some r
  | _ => none

/-- The worker has left its loop. -/
def Stopped (point : Point) : Prop := ∃ why, point = .inPhase (.stopped why)

/-- What there is to tell when a worker gets to a point. -/
def tidings (t : Tier) : Point → List Happening
  | inPhase (.holding r) => [.handed r]
  | inPhase (.resolved r _ resolution) => [.told (.resolved t r resolution)]
  | _ => []

end Worker.Point

namespace Solo

variable {η : Type} (f : Solo η)

/-- What there is to tell before a move. -/
def asking : List Happening :=
  if f.stand.point = .polling then [.polled (drainedOf f.scene.sweep) f.scene.consumer.paused] else []

/-- The worker after its consumer was given its partitions anew, if it is between two rounds. -/
def rebalanced : Solo η :=
  if f.stand.point = .inPhase .ready then
    let a := f.scene.consumer.rebalance Scene.listener f.scene.bus f.scene.sweep
    { f with
      scene := { f.scene with
        consumer := a.consumer, sweep := a.state, entries := f.scene.entries ++ a.entries }
      history := f.history ++ [.reassigned f.stand.state.paused (drainedOf a.state)] }
  else f

end Solo

namespace Handling

variable {η ε : Type} (k : Handling η ε) (topology : Topology) (tier : Tier) (mode : Mode)
  (tick : Text.Duration)

/-- A worker that is about to start, with a consumer that has just joined on a bus. A sweep listens to its
assignments. -/
def soloOpening (b : Bus) (name : String) (prior : Sweep) (memory : η) (now : Int) : Solo η :=
  let a := Consumer.join Scene.listener b (topology.channel tier) name (mode.sweep? prior)
  ⟨⟨b, a.state, a.consumer, false, now, a.entries⟩, memory,
    ⟨.inPhase .ready, (k.worker topology tier mode tick).start⟩, []⟩

/-- The worker after its next move. -/
def soloMove (f : Solo η) : Solo η :=
  let (stand, x) := (k.worker topology tier mode tick).move f.stand ⟨f.scene, f.memory, []⟩
  ⟨x.scene, x.memory, stand, f.history ++ f.asking ++
    x.deeds.map (fun d => .told (d.event tier f.stand.point.record?)) ++ stand.point.tidings tier⟩

/-- The worker after something has happened. -/
def soloPerform (f : Solo η) : SoloAct η → Solo η
  | .move => k.soloMove topology tier mode tick f
  | .outside o => { f with
      scene := { f.scene with bus := o.alter f.scene.bus, now := o.time f.scene.now }
      memory := o.mind f.memory
      history := f.history ++ (o.events f.scene.bus).map .told }
  | .askStop => { f with scene := { f.scene with stopAsked := true } }
  | .rebalance => f.rebalanced

/-- The worker after several things have happened, one after the other. -/
def soloRun (f : Solo η) (acts : List (SoloAct η)) : Solo η :=
  acts.foldl (k.soloPerform topology tier mode tick) f

/-- The worker from its beginning until several things have happened. -/
def soloAfter (b : Bus) (name : String) (prior : Sweep) (memory : η) (now : Int) (acts : List (SoloAct η)) :
    Solo η :=
  k.soloRun topology tier mode tick (k.soloOpening topology tier mode tick b name prior memory now) acts

theorem soloAfter_append (b : Bus) (name : String) (prior : Sweep) (memory : η) (now : Int)
    (acts more : List (SoloAct η)) :
    k.soloAfter topology tier mode tick b name prior memory now (acts ++ more) =
      k.soloRun topology tier mode tick
        (k.soloAfter topology tier mode tick b name prior memory now acts) more :=
  List.foldl_append

end Handling

/-! ## What a move can do -/

/-- The part of the state on which a move depends. -/
structure Sight where
  bus : Bus
  sweep : Option Sweep
  consumer : Consumer
  /-- The partitions that the worker remembers to have stopped reading. -/
  own : PartitionSet
  stopAsked : Bool
  point : Worker.Point

namespace Sight

/-- What a poll finds: a consumer still without its partitions tries to get them first. -/
def arrived (g : Sight) : Sight :=
  if g.consumer.pending then
    let a := g.consumer.assign Scene.listener g.bus g.sweep
    { g with consumer := a.consumer, sweep := a.state }
  else g

theorem arrived_of_not_pending {g : Sight} (h : g.consumer.pending = false) : g.arrived = g := by
  rw [arrived, h]
  rfl

theorem arrived_bus (g : Sight) : g.arrived.bus = g.bus := by
  unfold arrived
  split <;> rfl

theorem arrived_own (g : Sight) : g.arrived.own = g.own := by
  unfold arrived
  split <;> rfl

end Sight

/-- What a worker sees. -/
def Solo.sight {η : Type} (f : Solo η) : Sight :=
  ⟨f.scene.bus, f.scene.sweep, f.scene.consumer, f.stand.state.paused, f.scene.stopAsked, f.stand.point⟩

section Moved

variable {η ε : Type} (k : Handling η ε) (topology : Topology) (tier : Tier) (g : Sight)

/-- What a move can make of what a worker sees, and what there is to tell of it. -/
inductive Moved : Sight → List Happening → Prop where
  | asked (ready : g.point = .inPhase .ready) (asked : g.stopAsked = true) :
      Moved { g with stopAsked := false, point := .inPhase (.stopped .requested) } []
  | ended {sweep : Sweep} {own : PartitionSet} {c : Consumer} (ready : g.point = .inPhase .ready)
      (sweep_eq : g.sweep = some sweep) (complete : sweep.isComplete = true)
      (halted : Halted sweep.drained (Handling.stillDrained sweep g.own) g.consumer own c) :
      Moved { g with consumer := c, own, point := .inPhase (.stopped .sweepComplete) } []
  | entered {sweep : Sweep} {own : PartitionSet} {c : Consumer} (ready : g.point = .inPhase .ready)
      (sweep_eq : g.sweep = some sweep) (incomplete : sweep.isComplete = false)
      (halted : Halted sweep.drained (Handling.stillDrained sweep g.own) g.consumer own c) :
      Moved { g with consumer := c, own, point := .polling } []
  | passed (ready : g.point = .inPhase .ready) (sweep_eq : g.sweep = none) :
      Moved { g with point := .polling } []
  | read {r : ConsumedRecord} {c : Consumer} (polling : g.point = .polling)
      (given : g.arrived.consumer.pending = false) (read : Consumer.Read g.bus g.arrived.consumer r c) :
      Moved { g.arrived with consumer := c, point := .judging r }
        [.polled (drainedOf g.sweep) g.consumer.paused]
  | empty (polling : g.point = .polling)
      (nothing : g.arrived.consumer.pending = false → g.arrived.consumer.next? g.bus = none) :
      Moved { g.arrived with point := .looking (pendingOf g.arrived.sweep) }
        [.polled (drainedOf g.sweep) g.consumer.paused]
  /-- A record is handed over. It is inside the windows, if there are any. -/
  | taken {r : ConsumedRecord} (judging : g.point = .judging r)
      (inside : ∀ sweep, g.sweep = some sweep →
        ∃ w, sweep.windows.get? r.partition = some w ∧ w.drained = false ∧ r.offset ≤ w.last) :
      Moved { g with point := .inPhase (.holding r) } [.handed r]
  /-- A record past its window, or of a drained partition, is held back. -/
  | held {r : ConsumedRecord} {sweep : Sweep} {w : Window} {own : PartitionSet} {c : Consumer}
      (judging : g.point = .judging r) (sweep_eq : g.sweep = some sweep)
      (window : sweep.windows.get? r.partition = some w) (past : w.drained = true ∨ w.last < r.offset)
      (halted : Halted [r.partition] g.own (g.consumer.rewind r) own c) :
      Moved { g with
        sweep := some (sweep.hear (.judged r.partition r.offset)), consumer := c, own,
        point := .inPhase .ready } [.told (.rewound tier r)]
  /-- So is a record of a partition without a window. -/
  | strange {r : ConsumedRecord} {sweep : Sweep} (judging : g.point = .judging r)
      (sweep_eq : g.sweep = some sweep) (window : sweep.windows.get? r.partition = none) :
      Moved { g with consumer := g.consumer.rewind r, point := .inPhase .ready } [.told (.rewound tier r)]
  | looked {p : Int} {ps : List Int} {sweep : Sweep} (looking : g.point = .looking (p :: ps))
      (sweep_eq : g.sweep = some sweep) :
      Moved { g with
        sweep := some (if g.bus.failing (topology.channelName tier) then sweep
          else sweep.hear (.observed p (g.bus.low (topology.channelName tier) p)))
        point := .looking ps } []
  | glanced {p : Int} {ps : List Int} (looking : g.point = .looking (p :: ps)) (sweep_eq : g.sweep = none) :
      Moved { g with point := .looking ps } []
  | turned (looking : g.point = .looking []) : Moved { g with point := .inPhase .ready } []
  | evaluated {r : ConsumedRecord} {event : Option OrderReceived} {outcome : Outcome}
      (holding : g.point = .inPhase (.holding r)) :
      Moved { g with point := .inPhase (.handled r event outcome) } []
  | finished {r : ConsumedRecord} {event : Option OrderReceived} {outcome : Outcome} {reference : String}
      {resolution : Resolution} (handled : g.point = .inPhase (.handled r event outcome))
      (plan : (k.processor topology tier).plan r (event, outcome) = .finish resolution) :
      Moved { g with point := .inPhase (.resolved r reference resolution) }
        [.told (.resolved tier r resolution)]
  | stored {r : ConsumedRecord} {event : Option OrderReceived} {outcome : Outcome} {reference : String}
      {next : Tier} {key : String} {payload : List UInt8} {now : Int} {position : Position} {bus : Bus}
      (handled : g.point = .inPhase (.handled r event outcome))
      (plan : (k.processor topology tier).plan r (event, outcome) = .escalate next key payload)
      (publish : g.bus.publish ⟨key, payload, topology.channelName next, now⟩ = .ok (position, bus)) :
      Moved { g with bus, point := .inPhase (.resolved r reference (.republished next position)) }
        [.told (.stored (some (tier, r)) ⟨key, payload, topology.channelName next, now⟩ position),
          .told (.resolved tier r (.republished next position))]
  | refused {r : ConsumedRecord} {event : Option OrderReceived} {outcome : Outcome} {reference cause : String}
      {next : Tier} {key : String} {payload : List UInt8}
      (handled : g.point = .inPhase (.handled r event outcome))
      (plan : (k.processor topology tier).plan r (event, outcome) = .escalate next key payload) :
      Moved { g with point := .inPhase (.resolved r reference (.redeliver cause)) }
        [.told (.resolved tier r (.redeliver cause))]
  | committed {r : ConsumedRecord} {reference : String} {resolution : Resolution}
      (resolved : g.point = .inPhase (.resolved r reference resolution))
      (settled : resolution.isSettled = true) :
      Moved { g with
        bus := g.consumer.committedBy g.bus r
        sweep := g.sweep.map (·.hear (.settled r.partition r.offset))
        point := .inPhase .ready } [.told (.committed tier r)]
  | rewound {r : ConsumedRecord} {reference : String} {resolution : Resolution}
      (resolved : g.point = .inPhase (.resolved r reference resolution))
      (unsettled : resolution.isSettled = false) :
      Moved { g with consumer := g.consumer.rewind r, point := .inPhase .ready } [.told (.rewound tier r)]
  | stopped {why : Stop} (left : g.point = .inPhase (.stopped why)) : Moved g []

end Moved

end OrderRelay
