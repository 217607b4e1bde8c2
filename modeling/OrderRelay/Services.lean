import OrderRelay.Config
import OrderRelay.Consumer
import OrderRelay.Log.Line
import OrderRelay.Processing.OrderHandler
import OrderRelay.Worker.Loop

/-!
# The services of a process

A process reads the channels of its mode from one bus, a worker for each, and can put an order onto the main
channel by itself. In recovery a sweep goes with the only worker.

* `Scene`, the part of the state that a worker sees in a round, and what a worker is made of: `subscription`,
  `processor`, `worker`;
* `Post`, a worker with its consumer, and `Services`;
* `Services.start`, `turn`, a round of one worker, `catchUp`, rounds of all until nothing is left to do, and
  `shutdown`;
* `Services.inject`, a new order for the main channel: it fails and there are no new services, or it stores
  one record;
* `stats`, `snapshots`: what can be seen.
-/

namespace OrderRelay

open Log

/-- The part of the state that a worker sees in a round. -/
structure Scene where
  bus : Bus
  /-- The sweep, if there is one. -/
  sweep : Option Sweep
  consumer : Consumer
  /-- Someone asked the worker to stop. -/
  stopAsked : Bool
  /-- The time, in milliseconds. -/
  now : Int
  /-- What was reported so far. -/
  entries : List Entry

namespace Scene

/-- Note what is reported. -/
def report (e : Entry) : StateM Scene Unit := modify fun s => { s with entries := s.entries ++ [e] }

/-- The sweep, if there is one, listens to the assignments of the consumer. -/
def listener : Listener (Option Sweep) where
  assigned control ps
    | none => ⟨none, [], none, []⟩
    | some sweep =>
      let r := Sweep.listener.assigned control ps sweep
      ⟨some r.state, r.seeks, r.failure, r.entries⟩
  revoked ps s := s.map (Sweep.listener.revoked ps)

/-- The consumer on the scene is asked for a record. -/
def poll : StateM Scene (Option ConsumedRecord) := fun s =>
  let (r, a) := s.consumer.poll listener s.bus s.sweep
  (r, { s with consumer := a.consumer, sweep := a.state, entries := s.entries ++ a.entries })

/-- The consumer on the scene as a worker uses it. -/
def subscription (channel : String) : Subscription Scene where
  channel := channel
  poll _ := return .ok (← poll)
  commit r := modifyGet fun s => (.ok (), { s with bus := s.consumer.committedBy s.bus r })
  rewind r := modifyGet fun s => (.ok (), { s with consumer := s.consumer.rewind r })
  pause p := modifyGet fun s => (.ok (), { s with consumer := s.consumer.pause p })
  watermarks p := return (← get).bus.watermarks channel p

/-- Store an envelope on the bus of the scene. -/
def publish (e : Envelope) : StateM Scene (Except PublishError Position) := fun s =>
  match s.bus.publish e with
  | .ok (position, bus) => (.ok position, { s with bus })
  | .error err => (.error err, s)

/-- The place of the sweep. -/
def sweepCell (channel : String) : Cell Scene Sweep where
  get s := s.sweep.getD (.start channel)
  set sweep s := { s with sweep := some sweep }

/-- What serves the records of a tier. -/
def processor (topology : Topology) (tier : Tier) : Processor Scene HandlingError where
  tier := tier
  topology := topology
  codec := .wire
  handle := OrderHandler.handle report
  classify e := .ofRetryable e.isRetryable
  describe := HandlingError.message
  publish := publish
  clock := return (← get).now
  republishKey := .retryChannel topology
  report := report

end Scene

/-- The worker of a tier. -/
def Config.worker (c : Config) (tier : Tier) : Worker Scene HandlingError where
  name := c.topology.namespaceName ++ "-" ++ tier.name
  processor := Scene.processor c.topology tier
  consumer := Scene.subscription (c.topology.channelName tier)
  recovery := match c.mode with
    | .feed => none
    | .recovery => some (Scene.sweepCell (c.topology.channelName tier))
  tick := c.pollInterval
  stopRequested := modifyGet fun s => (s.stopAsked, { s with stopAsked := false })

/-- A worker at work: its consumer and what it keeps for itself. -/
structure Post where
  tier : Tier
  consumer : Consumer
  state : Worker.State
  stopAsked : Bool

/-- The services of a process, with the bus they work on and the lines logged so far. -/
structure Services where
  config : Config
  bus : Bus
  sweep : Option Sweep
  posts : List Post
  /-- The counters of the workers that are gone. -/
  stopped : List Stats
  log : List Line

/-- Where a new order was stored. -/
structure Injected where
  channel : String
  position : Position
  referenceUri : String
deriving DecidableEq, Repr

/-- A new order was not stored. -/
inductive InjectError where
  | reference (cause : ReferenceError)
  | codec (cause : CodecError)
  | publish (cause : PublishError)
deriving DecidableEq

/-- The message of an error. -/
def InjectError.message : InjectError → String
  | reference e => e.message
  | codec e => e.message
  | publish e => e.message

namespace Services

/-- The thread that starts a process. -/
def mainThread : String := "main"

/-- The threads that answer requests and signals. -/
def poolThread : String := "tokio-rt-worker"

/-- The services with more lines from one thread. -/
def logged (s : Services) (thread : String) (es : List Entry) : Services :=
  { s with log := s.log ++ es.map (Line.mk thread) }

/-! ## What is reported -/

/-- Reported when a sweep is about to begin. -/
def exclusiveEntry (c : Config) : Entry :=
  warn .services
    "error-recovery mode: feed processes must not consume the error channel concurrently"
    [("channel", .text (c.topology.channelName .error))]

/-- Reported when all workers have started. -/
def startedEntry (c : Config) (workers : Nat) : Entry :=
  info .services "tier workers started" [("mode", .text c.mode.name), ("workers", .number workers)]

/-- Reported when a worker has stopped for good. -/
def joinedEntry (s : Stats) : Entry :=
  info .services "tier worker joined"
    [("tier", .text s.tier.name), ("processed", .number s.processed),
      ("republished", .number s.republished), ("dropped", .number s.dropped)]

/-- Reported when a new order was stored. -/
def injectedEntry (i : Injected) : Entry :=
  info .services "order-received event injected"
    [("channel", .text i.channel), ("partition", .number i.position.partition),
      ("offset", .number i.position.offset), ("reference", .text i.referenceUri)]

/-! ## Workers -/

/-- Put a worker on a tier. Its consumer joins the channel at once. -/
def enlist (s : Services) (tier : Tier) : Services :=
  let w := s.config.worker tier
  let a := Consumer.join Scene.listener s.bus (s.config.topology.channel tier) w.name s.sweep
  let s : Services := { s with
    sweep := a.state
    posts := s.posts ++ [⟨tier, a.consumer, w.start, false⟩] }
  (s.logged mainThread a.entries).logged w.name [w.startedEntry]

/-- Start the services of a configuration on a bus. -/
def start (c : Config) (b : Bus) : Services :=
  let sweep := match c.mode with
    | .feed => none
    | .recovery => some (.start (c.topology.channelName .error))
  let s : Services := ⟨c, b, sweep, [], [], []⟩
  let s := match c.mode with
    | .feed => s
    | .recovery => s.logged mainThread [exclusiveEntry c]
  let s := c.mode.tiers.foldl enlist s
  s.logged mainThread [startedEntry c s.posts.length]

/-- One round of a worker on a scene; one that finds a reason to stop finishes. -/
def round (w : Worker Scene HandlingError) (state : Worker.State) : StateM Scene Worker.State := do
  match ← w.iterate state with
  | (state, none) => return state
  | (state, some _) => w.finish state

/-- The scene of a worker. -/
def sceneOf (s : Services) (p : Post) (now : Int) : Scene :=
  ⟨s.bus, s.sweep, p.consumer, p.stopAsked, now, []⟩

/-- One round of the worker at a place, at a given time. A worker that has finished does nothing. -/
def turn (now : Int) (s : Services) (i : Nat) : Services :=
  match s.posts[i]? with
  | none => s
  | some p =>
    if p.state.stats.finished then s
    else
      let w := s.config.worker p.tier
      let (state, scene) := round w p.state (s.sceneOf p now)
      { s with
        bus := scene.bus
        sweep := scene.sweep
        posts := s.posts.set i ⟨p.tier, scene.consumer, state, scene.stopAsked⟩ }.logged w.name
        scene.entries

/-- One round of every worker. -/
def turns (now : Int) (s : Services) : Services := (List.range s.posts.length).foldl (turn now) s

/-- More rounds than any worker has records to read: one for each, and three to find the end. -/
def patience (s : Services) : Nat :=
  s.posts.foldl (fun n p => n + (s.bus.published p.consumer.channel.name).length) 3

/-- Let all workers work off what there is. -/
def catchUp (now : Int) (s : Services) : Services := Nat.repeat (turns now) s.patience s

/-- Ask all workers to stop. -/
def requestStop (s : Services) : Services :=
  { s with posts := s.posts.map fun p => { p with stopAsked := true } }

/-- Ask all workers to stop, and wait for it. -/
def shutdown (now : Int) (s : Services) : Services :=
  let s := turns now s.requestStop
  let stats := s.posts.map (·.state.stats)
  { s with posts := [], stopped := s.stopped ++ stats }.logged poolThread (stats.map joinedEntry)

/-! ## New orders -/

/-- The envelope of a new order: its key is its URI. -/
def envelopeOf (c : Config) (now : Int) (e : OrderReceived) (payload : List UInt8) : Envelope :=
  ⟨e.referenceUri, payload, c.topology.channelName .main, now⟩

/-- Put a new order onto the main channel. -/
def inject (now : Int) (order : String) (s : Services) : Except InjectError (Injected × Services) := do
  let reference ← (OrderReference.parse order).mapError .reference
  let event := OrderReceived.ofReference reference
  let payload ← (Codec.wire.encode event).mapError .codec
  let envelope := envelopeOf s.config now event payload
  let (position, bus) ← (s.bus.publish envelope).mapError .publish
  let injected : Injected := ⟨envelope.destination, position, event.referenceUri⟩
  return (injected, { s with bus }.logged poolThread [injectedEntry injected])

/-! ## What can be seen -/

/-- The counters of all workers, those that are gone last. -/
def stats (s : Services) : List Stats := s.posts.map (·.state.stats) ++ s.stopped

/-- The last offsets of the windows of the sweep, with their partitions. -/
def snapshots (s : Services) : List (Int × Int) := (s.sweep.map Sweep.snapshots).getD []

end Services

end OrderRelay
