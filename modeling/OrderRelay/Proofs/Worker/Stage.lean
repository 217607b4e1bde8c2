import OrderRelay.Proofs.Consumer.Reading
import OrderRelay.Proofs.Worker.Steps
import OrderRelay.Services

/-!
# Workers with any way of handling

The workers of a process differ in their tier alone. Here the codec, the handler, the classifier and the key
for the next tier are left open as well. What such a worker does to its scene is what any worker does.

* `Handling`, what is left open, and `Stage`, a scene with the handler's own state and a list of deeds;
* `Handling.worker`, the worker of a tier;
* `select_feed_of_some`, `evaluate_of_ok`, `carryOut_escalate`, `settle_of_settled` and others: what the steps
  of a worker without a sweep do to its stage.
-/

namespace OrderRelay

open Log

/-- What a worker does on the bus and with its consumer, beside reading. -/
inductive Deed where
  | stored (e : Envelope) (position : Position)
  | committed (r : ConsumedRecord)
  | rewound (r : ConsumedRecord)
deriving DecidableEq, Repr

/-- A scene, with the state of the handler and what was done on the scene so far. -/
structure Stage (η : Type) where
  scene : Scene
  memory : η
  deeds : List Deed

/-- A way of handling events. The handler has a state of type `η`, and tells what it reports. -/
structure Handling (η ε : Type) where
  codec : Codec
  handle : OrderReceived → StateM η (Except ε Unit × List Entry)
  classify : ε → FailureKind
  describe : ε → String
  republishKey : RepublishKey

namespace Stage

variable {η α : Type}

/-- An action on the scene. -/
def onScene (m : StateM Scene α) : StateM (Stage η) α := fun x =>
  let (a, scene) := m x.scene
  (a, { x with scene })

/-- An action of the handler. -/
def onMemory (m : StateM η α) : StateM (Stage η) α := fun x =>
  let (a, memory) := m x.memory
  (a, { x with memory })

/-- Note a deed. -/
def note (d : Deed) : StateM (Stage η) Unit := modify fun x => { x with deeds := x.deeds ++ [d] }

/-- Note what is reported. -/
def report (e : Entry) : StateM (Stage η) Unit := onScene (Scene.report e)

/-- Store an envelope on the bus. -/
def publish (e : Envelope) : StateM (Stage η) (Except PublishError Position) := do
  match ← onScene (Scene.publish e) with
  | .ok position => do
    note (.stored e position)
    return .ok position
  | .error err => return .error err

/-- The consumer on the scene as a worker uses it. -/
def subscription (channel : String) : Subscription (Stage η) where
  channel := channel
  poll tick := onScene ((Scene.subscription channel).poll tick)
  commit r := do
    note (.committed r)
    onScene ((Scene.subscription channel).commit r)
  rewind r := do
    note (.rewound r)
    onScene ((Scene.subscription channel).rewind r)
  pause p := onScene ((Scene.subscription channel).pause p)
  watermarks p := onScene ((Scene.subscription channel).watermarks p)

/-- The place of the sweep. -/
def sweepCell (channel : String) : Cell (Stage η) Sweep where
  get x := (Scene.sweepCell channel).get x.scene
  set sweep x := { x with scene := (Scene.sweepCell channel).set sweep x.scene }

end Stage

namespace Handling

variable {η ε : Type} (k : Handling η ε) (topology : Topology) (tier : Tier)

/-- What serves the records of a tier. -/
def processor : Processor (Stage η) ε where
  tier := tier
  topology := topology
  codec := k.codec
  handle e := do
    let (answer, entries) ← Stage.onMemory (k.handle e)
    entries.forM Stage.report
    return answer
  classify := k.classify
  describe := k.describe
  publish := Stage.publish
  clock := return (← get).scene.now
  republishKey := k.republishKey
  report := Stage.report

/-- The worker of a tier. -/
def worker (mode : Mode) (tick : Text.Duration) : Worker (Stage η) ε where
  name := topology.namespaceName ++ "-" ++ tier.name
  processor := k.processor topology tier
  consumer := Stage.subscription (topology.channelName tier)
  recovery := match mode with
    | .feed => none
    | .recovery => some (Stage.sweepCell (topology.channelName tier))
  tick := tick
  stopRequested := Stage.onScene (modifyGet fun s => (s.stopAsked, { s with stopAsked := false }))

/-- Every event is handled. -/
def accepting : Handling Unit Unit :=
  ⟨.wire, fun _ => pure (.ok (), []), fun _ => .permanent, fun _ => "", .source⟩

/-- No event is handled, for a passing reason. -/
def refusing : Handling Unit Unit :=
  ⟨.wire, fun _ => pure (.error (), []), fun _ => .transient, fun _ => "", .retryChannel .standard⟩

end Handling

/-! ## What the steps do -/

namespace Handling

variable {η ε : Type} (k : Handling η ε) (topology : Topology) (tier : Tier) (tick : Text.Duration)
  (x : Stage η)

/-- Reporting changes the entries alone. -/
theorem report_eq (e : Entry) :
    Stage.report e x = ((), { x with scene := { x.scene with entries := x.scene.entries ++ [e] } }) := rfl

theorem forM_report (es : List Entry) :
    es.forM Stage.report x =
      ((), { x with scene := { x.scene with entries := x.scene.entries ++ es } }) := by
  induction es generalizing x with
  | nil =>
    rw [List.append_nil]
    rfl
  | cons e es ih =>
    have h : (e :: es).forM Stage.report x =
        es.forM Stage.report
          { x with scene := { x.scene with entries := x.scene.entries ++ [e] } } := rfl
    rw [h, ih]
    simp

section Selecting

variable {x}

/-- The consumer of a scene that has its partitions just reads. -/
theorem poll_eq (hp : x.scene.consumer.pending = false) :
    (Stage.subscription (topology.channelName tier)).poll tick x =
      match x.scene.consumer.next? x.scene.bus with
      | none => (.ok none, x)
      | some (r, c) => (.ok (some r), { x with scene := { x.scene with consumer := c } }) := by
  have h : Scene.poll x.scene = match x.scene.consumer.next? x.scene.bus with
      | none => (none, x.scene)
      | some (r, c) => (some r, { x.scene with consumer := c }) := by
    rw [Scene.poll, Consumer.poll_of_not_pending Scene.listener hp]
    cases x.scene.consumer.next? x.scene.bus <;> simp
  have hx : (Stage.subscription (topology.channelName tier)).poll tick x =
      (.ok (Scene.poll x.scene).1, { x with scene := (Scene.poll x.scene).2 }) := rfl
  rw [hx, h]
  cases x.scene.consumer.next? x.scene.bus <;> rfl

theorem stopRequested_eq (mode : Mode) (hs : x.scene.stopAsked = false) :
    (k.worker topology tier mode tick).stopRequested x = (false, x) := by
  obtain ⟨⟨bus, sweep, consumer, stopAsked, now, entries⟩, memory, deeds⟩ := x
  subst hs
  rfl

/-- A worker without a sweep takes up the next record. -/
theorem select_feed_of_some {r : ConsumedRecord} {c : Consumer} (s : Worker.State)
    (hs : x.scene.stopAsked = false) (hp : x.scene.consumer.pending = false)
    (hn : x.scene.consumer.next? x.scene.bus = some (r, c)) :
    (k.worker topology tier .feed tick).select s x =
      ((s, .record r), { x with scene := { x.scene with consumer := c } }) := by
  have hpoll := poll_eq topology tier tick hp
  rw [hn] at hpoll
  exact Worker.select_of_no_sweep rfl (stopRequested_eq k topology tier tick .feed hs) hpoll

theorem select_feed_of_none (s : Worker.State) (hs : x.scene.stopAsked = false)
    (hp : x.scene.consumer.pending = false) (hn : x.scene.consumer.next? x.scene.bus = none) :
    (k.worker topology tier .feed tick).select s x = ((s, .nothing), x) := by
  have hpoll := poll_eq topology tier tick hp
  rw [hn] at hpoll
  exact Worker.select_of_no_sweep rfl (stopRequested_eq k topology tier tick .feed hs) hpoll

end Selecting

/-! ### Handling -/

section Processing

variable {r : ConsumedRecord}

theorem evaluate_of_error {err : CodecError} (h : k.codec.decode r.payload = .error err) :
    (k.processor topology tier).evaluate r x = ((none, .failure .permanent err.message), x) := by
  have h' : (k.processor topology tier).codec.decode r.payload = .error err := h
  simp only [Processor.evaluate, h']
  rfl

/-- The handler changes its own state and the entries alone. -/
theorem handle_eq (e : OrderReceived) : (k.processor topology tier).handle e x =
    ((k.handle e x.memory).1.1,
      { x with
        scene := { x.scene with entries := x.scene.entries ++ (k.handle e x.memory).1.2 }
        memory := (k.handle e x.memory).2 }) := by
  have h : (k.processor topology tier).handle e x =
      ((k.handle e x.memory).1.1,
        ((k.handle e x.memory).1.2.forM Stage.report { x with memory := (k.handle e x.memory).2 }).2) := rfl
  rw [h, forM_report]

/-- The handler sees the event, and changes its own state and the entries alone. -/
theorem evaluate_of_ok {e : OrderReceived} (h : k.codec.decode r.payload = .ok e) :
    (k.processor topology tier).evaluate r x =
      ((some e, (k.processor topology tier).outcomeOf (k.handle e x.memory).1.1),
        { x with
          scene := { x.scene with entries :=
            x.scene.entries ++ [(k.processor topology tier).receivedEntry r e] ++
              (k.handle e x.memory).1.2 }
          memory := (k.handle e x.memory).2 }) := by
  have h' : (k.processor topology tier).codec.decode r.payload = .ok e := h
  have hh (y : Stage η) : (k.processor topology tier).handle e y =
      ((k.handle e y.memory).1.1,
        ((k.handle e y.memory).1.2.forM Stage.report { y with memory := (k.handle e y.memory).2 }).2) :=
    rfl
  have hr : (k.processor topology tier).report = Stage.report := rfl
  simp only [Processor.evaluate, h', bind, StateT.bind, hr, report_eq, hh, forM_report]
  rfl

theorem exists_evaluate (r : ConsumedRecord) : ∃ event outcome memory entries,
    (k.processor topology tier).evaluate r x =
      ((event, outcome), { x with scene := { x.scene with entries }, memory }) := by
  cases h : k.codec.decode r.payload with
  | error err => exact ⟨_, _, _, _, evaluate_of_error k topology tier x h⟩
  | ok e => exact ⟨_, _, _, _, evaluate_of_ok k topology tier x h⟩

/-- Storing an envelope changes the bus and the deeds, and nothing if it fails. -/
theorem publish_eq (e : Envelope) :
    Stage.publish e x = match x.scene.bus.publish e with
      | .ok (position, bus) => (.ok position,
          { x with scene := { x.scene with bus }, deeds := x.deeds ++ [.stored e position] })
      | .error err => (.error err, x) := by
  simp only [Stage.publish, Stage.onScene, Scene.publish, bind, StateT.bind]
  cases x.scene.bus.publish e <;> rfl

theorem carryOut_finish (resolution : Resolution) :
    (k.processor topology tier).carryOut (.finish resolution) x = (resolution, x) := rfl

section Escalating

variable {x} {next : Tier} {key : String} {payload : List UInt8}

theorem carryOut_escalate :
    (k.processor topology tier).carryOut (.escalate next key payload) x =
      let answer := Stage.publish ⟨key, payload, topology.channelName next, x.scene.now⟩ x
      (Processor.resolutionOf next answer.1, answer.2) := rfl

/-- A copy is stored. -/
theorem carryOut_of_published {position : Position} {bus : Bus}
    (h : x.scene.bus.publish ⟨key, payload, topology.channelName next, x.scene.now⟩ =
      .ok (position, bus)) :
    (k.processor topology tier).carryOut (.escalate next key payload) x =
      (.republished next position,
        { x with
          scene := { x.scene with bus }
          deeds := x.deeds ++
            [.stored ⟨key, payload, topology.channelName next, x.scene.now⟩ position] }) := by
  rw [carryOut_escalate, publish_eq, h]
  rfl

/-- No copy could be stored, and nothing changes. -/
theorem carryOut_of_not_published {err : PublishError}
    (h : x.scene.bus.publish ⟨key, payload, topology.channelName next, x.scene.now⟩ = .error err) :
    (k.processor topology tier).carryOut (.escalate next key payload) x =
      (.redeliver err.message, x) := by
  rw [carryOut_escalate, publish_eq, h]
  rfl

end Escalating

section Settling

variable {resolution : Resolution}

/-- A record that is done with is committed. -/
theorem settle_of_settled (h : resolution.isSettled = true) :
    (k.processor topology tier).settle (Stage.subscription (topology.channelName tier)) r resolution x =
      ((), { x with
        scene := { x.scene with bus := x.scene.consumer.committedBy x.scene.bus r }
        deeds := x.deeds ++ [.committed r] }) := by
  simp only [Processor.settle, h]
  rfl

/-- Any other record is read again. -/
theorem settle_of_unsettled (h : resolution.isSettled = false) :
    (k.processor topology tier).settle (Stage.subscription (topology.channelName tier)) r resolution x =
      ((), { x with
        scene := { x.scene with consumer := x.scene.consumer.rewind r }
        deeds := x.deeds ++ [.rewound r] }) := by
  simp only [Processor.settle, h]
  rfl

end Settling

end Processing

end Handling

end OrderRelay
