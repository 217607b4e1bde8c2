import Mathlib.Logic.Function.Basic
import OrderRelay.Proofs.Bus.Outside
import OrderRelay.Proofs.Worker.Stage

/-!
# Workers side by side

The workers of several tiers on one bus, in any order of their steps. Between two steps of a worker another
may work, anyone may publish to any channel, retention may remove records, channels may fail, and a worker
may crash and be replaced by one with a new consumer.

* `Crew`, how the workers of all tiers work, and `Floor`, the state, with a *history* of what happened;
* `Act`, what can happen, and `Crew.perform`, `Crew.run`, what it does;
* **`Crew.worked`**: all that a step of a worker can do.
-/

namespace OrderRelay

open Log

/-- How the workers of all tiers work. -/
structure Crew (η ε : Type) where
  topology : Topology
  tick : Text.Duration
  handling : Tier → Handling η ε

/-- A worker in the middle of its work, with its consumer. -/
structure Seat where
  consumer : Consumer
  task : Worker.Task

/-- The state that all workers share, with a seat for the worker of each tier. -/
structure Floor (η : Type) where
  bus : Bus
  memory : η
  now : Int
  entries : List Entry
  seats : Tier → Option Seat
  history : List Event

/-- What can happen next. -/
inductive Act (η : Type) where
  /-- A new worker with a new consumer takes the seat of a tier, if it is free. -/
  | join (tier : Tier) (name : String)
  | crash (tier : Tier)
  /-- The worker of a tier takes its next step. -/
  | work (tier : Tier)
  | outside (o : Outside η)

namespace Floor

variable {η : Type} (f : Floor η)

/-- A bus on which nobody works yet. -/
def opening (b : Bus) (memory : η) (now : Int) : Floor η := ⟨b, memory, now, [], fun _ => none, []⟩

/-- The floor with another worker in the seat of a tier, or none. -/
def sit (t : Tier) (s : Option Seat) : Floor η := { f with seats := Function.update f.seats t s }

/-- The floor with more to tell. -/
def tell (es : List Event) : Floor η := { f with history := f.history ++ es }

/-- What a worker has before it. -/
def stage (c : Consumer) : Stage η := ⟨⟨f.bus, none, c, false, f.now, f.entries⟩, f.memory, []⟩

end Floor

/-! ## What workers do -/

/-- What there is to tell of a deed that a worker did for a record. -/
def Deed.event (t : Tier) (r : Option ConsumedRecord) : Deed → Event
  | stored e position => .stored (r.map fun r => (t, r)) e position
  | committed r => .committed t r
  | rewound r => .rewound t r

/-- The record that has just been resolved, and how. -/
def Worker.Phase.resolution? : Worker.Phase → Option (ConsumedRecord × Resolution)
  | resolved r _ resolution => some (r, resolution)
  | _ => none

namespace Crew

variable {η ε : Type} (crew : Crew η ε) (f : Floor η)

/-- The worker of a tier, without a sweep. -/
def worker (t : Tier) : Worker (Stage η) ε := (crew.handling t).worker crew.topology t .feed crew.tick

/-- The floor after a step of the worker of a tier. -/
def work (t : Tier) : Floor η :=
  match f.seats t with
  | none => f
  | some s =>
    let (task, x) := (crew.worker t).advance s.task (f.stage s.consumer)
    { f with
      bus := x.scene.bus
      memory := x.memory
      entries := x.scene.entries
      seats := Function.update f.seats t (some ⟨x.scene.consumer, task⟩)
      history := f.history ++ x.deeds.map (Deed.event t s.task.phase.record?) ++
        (task.phase.resolution?.map fun e => .resolved t e.1 e.2).toList }

/-- The floor after a new worker has come for a tier, if there was none. -/
def join (t : Tier) (name : String) : Floor η :=
  match f.seats t with
  | some _ => f
  | none =>
    let a := Consumer.join Scene.listener f.bus (crew.topology.channel t) name none
    { f.sit t (some ⟨a.consumer, ⟨.ready, (crew.worker t).start⟩⟩) with
      entries := f.entries ++ a.entries }

/-- The floor after something has happened. -/
def perform : Act η → Floor η
  | .join t name => crew.join f t name
  | .crash t => f.sit t none
  | .work t => crew.work f t
  | .outside o => { f.tell (o.events f.bus) with
      bus := o.alter f.bus, memory := o.mind f.memory, now := o.time f.now }

/-- The floor after several things have happened, one after the other. -/
def run (acts : List (Act η)) : Floor η := acts.foldl crew.perform f

end Crew

/-! ## The steps of a worker -/

namespace Crew

variable {η ε : Type} (crew : Crew η ε) (f : Floor η)

/-- What serves the records of a tier. -/
def processor (t : Tier) : Processor (Stage η) ε := (crew.handling t).processor crew.topology t

/-- What a step of the worker of a tier can make of the floor. -/
inductive Worked (t : Tier) : Floor η → Prop where
  /-- The seat is empty, the worker has left its loop, or there is nothing to read. -/
  | idle : Worked t f
  | took {c c' : Consumer} {state : Worker.State} {r : ConsumedRecord}
      (seat : f.seats t = some ⟨c, .ready, state⟩) (read : Consumer.Read f.bus c r c') :
      Worked t (f.sit t (some ⟨c', .holding r, state⟩))
  | evaluated {c : Consumer} {state : Worker.State} {r : ConsumedRecord} {event : Option OrderReceived}
      {outcome : Outcome} {memory : η} {entries : List Entry}
      (seat : f.seats t = some ⟨c, .holding r, state⟩)
      (event_eq : event = ((crew.handling t).codec.decode r.payload).toOption) :
      Worked t { f.sit t (some ⟨c, .handled r event outcome, state⟩) with memory, entries }
  | finished {c : Consumer} {state : Worker.State} {r : ConsumedRecord} {event : Option OrderReceived}
      {outcome : Outcome} {reference : String} {resolution : Resolution}
      (seat : f.seats t = some ⟨c, .handled r event outcome, state⟩)
      (plan : (crew.processor t).plan r (event, outcome) = .finish resolution) :
      Worked t ((f.sit t (some ⟨c, .resolved r reference resolution, state⟩)).tell
        [.resolved t r resolution])
  | moved {c : Consumer} {state : Worker.State} {r : ConsumedRecord} {event : Option OrderReceived}
      {outcome : Outcome} {reference : String} {next : Tier} {key : String} {payload : List UInt8}
      {position : Position} {bus : Bus}
      (seat : f.seats t = some ⟨c, .handled r event outcome, state⟩)
      (plan : (crew.processor t).plan r (event, outcome) = .escalate next key payload)
      (publish : f.bus.publish ⟨key, payload, crew.topology.channelName next, f.now⟩ =
        .ok (position, bus)) :
      Worked t { (f.sit t (some ⟨c, .resolved r reference (.republished next position), state⟩)).tell
        [.stored (some (t, r)) ⟨key, payload, crew.topology.channelName next, f.now⟩ position,
          .resolved t r (.republished next position)] with bus }
  | refused {c : Consumer} {state : Worker.State} {r : ConsumedRecord} {event : Option OrderReceived}
      {outcome : Outcome} {reference cause : String} {next : Tier} {key : String} {payload : List UInt8}
      (seat : f.seats t = some ⟨c, .handled r event outcome, state⟩)
      (plan : (crew.processor t).plan r (event, outcome) = .escalate next key payload) :
      Worked t ((f.sit t (some ⟨c, .resolved r reference (.redeliver cause), state⟩)).tell
        [.resolved t r (.redeliver cause)])
  | committed {c : Consumer} {state state' : Worker.State} {r : ConsumedRecord} {reference : String}
      {resolution : Resolution} {entries : List Entry}
      (seat : f.seats t = some ⟨c, .resolved r reference resolution, state⟩)
      (settled : resolution.isSettled = true) :
      Worked t { (f.sit t (some ⟨c, .ready, state'⟩)).tell [.committed t r] with
        bus := c.committedBy f.bus r, entries }
  | rewound {c : Consumer} {state state' : Worker.State} {r : ConsumedRecord} {reference : String}
      {resolution : Resolution} {entries : List Entry}
      (seat : f.seats t = some ⟨c, .resolved r reference resolution, state⟩)
      (unsettled : resolution.isSettled = false) :
      Worked t { (f.sit t (some ⟨c.rewind r, .ready, state'⟩)).tell [.rewound t r] with entries }

section Step

variable {crew f} {t : Tier} {s : Seat}

theorem work_of_empty (hs : f.seats t = none) : crew.work f t = f := by rw [work, hs]

theorem work_eq {task : Worker.Task} {x : Stage η} (hs : f.seats t = some s)
    (ha : (crew.worker t).advance s.task (f.stage s.consumer) = (task, x)) :
    crew.work f t =
      { (f.sit t (some ⟨x.scene.consumer, task⟩)).tell (x.deeds.map (Deed.event t s.task.phase.record?) ++
          (task.phase.resolution?.map fun e => .resolved t e.1 e.2).toList) with
        bus := x.scene.bus, memory := x.memory, entries := x.scene.entries } := by
  simp only [work, hs, ha, Floor.sit, Floor.tell, List.append_assoc]

/-- A step that has nothing to tell. -/
theorem work_eq_of_quiet {task : Worker.Task} {x : Stage η} (hs : f.seats t = some s)
    (ha : (crew.worker t).advance s.task (f.stage s.consumer) = (task, x)) (hd : x.deeds = [])
    (hr : task.phase.resolution? = none) :
    crew.work f t = { f.sit t (some ⟨x.scene.consumer, task⟩) with
      bus := x.scene.bus, memory := x.memory, entries := x.scene.entries } := by
  rw [work_eq hs ha, hd, hr]
  simp only [Floor.tell, List.map_nil, Option.map_none, Option.toList_none, List.append_nil]

theorem sit_self (hs : f.seats t = some s) : f.sit t (some s) = f := by
  rw [Floor.sit, ← hs, Function.update_eq_self]

/-- A step in which nothing happens. -/
theorem work_eq_self (crew : Crew η ε) (hs : f.seats t = some s)
    (ha : (crew.worker t).advance s.task (f.stage s.consumer) = (s.task, f.stage s.consumer))
    (hr : s.task.phase.resolution? = none) : crew.work f t = f := by
  rw [work_eq_of_quiet hs ha rfl hr]
  exact sit_self hs

end Step

section Phases

variable {f} {t : Tier} {c : Consumer} {state : Worker.State} {r : ConsumedRecord}

theorem worked_ready (hs : f.seats t = some ⟨c, .ready, state⟩) (hp : c.pending = false) :
    Worked crew f t (crew.work f t) := by
  cases hn : c.next? f.bus with
  | none =>
    have h := Handling.select_feed_of_none (crew.handling t) crew.topology t crew.tick
      (x := f.stage c) state rfl hp hn
    rw [work_eq_self crew hs (Worker.advance_ready h) rfl]
    exact .idle
  | some e =>
    have h := Handling.select_feed_of_some (crew.handling t) crew.topology t crew.tick
      (x := f.stage c) state rfl hp hn
    rw [work_eq_of_quiet hs (Worker.advance_ready h) rfl rfl]
    exact .took hs (Consumer.next?_eq_some hn)

theorem worked_holding (hs : f.seats t = some ⟨c, .holding r, state⟩) :
    Worked crew f t (crew.work f t) := by
  cases hd : (crew.handling t).codec.decode r.payload with
  | error err =>
    have h := Handling.evaluate_of_error (crew.handling t) crew.topology t (f.stage c) hd
    rw [work_eq_of_quiet hs (Worker.advance_holding h) rfl rfl]
    exact .evaluated hs (by rw [hd]; rfl)
  | ok e =>
    have h := Handling.evaluate_of_ok (crew.handling t) crew.topology t (f.stage c) hd
    rw [work_eq_of_quiet hs (Worker.advance_holding h) rfl rfl]
    exact .evaluated hs (by rw [hd]; rfl)

theorem worked_handled {event : Option OrderReceived} {outcome : Outcome}
    (hs : f.seats t = some ⟨c, .handled r event outcome, state⟩) :
    Worked crew f t (crew.work f t) := by
  cases hplan : (crew.processor t).plan r (event, outcome) with
  | finish resolution =>
    have h := Handling.carryOut_finish (crew.handling t) crew.topology t (f.stage c) resolution
    rw [← hplan] at h
    rw [work_eq hs (Worker.advance_handled h)]
    exact .finished hs hplan
  | escalate next key payload =>
    cases hpub : f.bus.publish ⟨key, payload, crew.topology.channelName next, f.now⟩ with
    | ok v =>
      have h := Handling.carryOut_of_published (crew.handling t) crew.topology t (x := f.stage c) hpub
      rw [← hplan] at h
      rw [work_eq hs (Worker.advance_handled h)]
      exact .moved hs hplan hpub
    | error err =>
      have h := Handling.carryOut_of_not_published (crew.handling t) crew.topology t (x := f.stage c) hpub
      rw [← hplan] at h
      rw [work_eq hs (Worker.advance_handled h)]
      exact .refused hs hplan

theorem worked_resolved {reference : String} {resolution : Resolution}
    (hs : f.seats t = some ⟨c, .resolved r reference resolution, state⟩) :
    Worked crew f t (crew.work f t) := by
  let reported : Stage η :=
    (Stage.onScene (Scene.report (Processor.resolvedEntry r reference resolution)) (f.stage c)).2
  have hc := Worker.conclude_of_no_sweep (w := crew.worker t) (s := state) rfl r resolution
  cases hres : resolution.isSettled with
  | true =>
    have h := Handling.settle_of_settled (crew.handling t) crew.topology t reported (r := r) hres
    rw [work_eq hs (Worker.advance_resolved rfl h (by rw [hc]; rfl))]
    exact .committed hs hres
  | false =>
    have h := Handling.settle_of_unsettled (crew.handling t) crew.topology t reported (r := r) hres
    rw [work_eq hs (Worker.advance_resolved rfl h (by rw [hc]; rfl))]
    exact .rewound hs hres

end Phases

/-- **All that a step of a worker can do**, if its consumer has its partitions. -/
theorem worked {t : Tier} (hp : ∀ s, f.seats t = some s → s.consumer.pending = false) :
    Worked crew f t (crew.work f t) := by
  cases hs : f.seats t with
  | none =>
    rw [work_of_empty hs]
    exact .idle
  | some s =>
    obtain ⟨c, phase, state⟩ := s
    cases phase with
    | ready => exact crew.worked_ready hs (hp _ hs)
    | holding r => exact crew.worked_holding hs
    | handled r event outcome => exact crew.worked_handled hs
    | resolved r reference resolution => exact crew.worked_resolved hs
    | stopped why =>
      rw [work_eq_self crew hs rfl rfl]
      exact .idle

end Crew

end OrderRelay
