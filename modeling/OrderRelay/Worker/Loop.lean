import OrderRelay.Processing.Processor
import OrderRelay.Recovery.Sweep
import OrderRelay.Worker.Stats

/-!
# The loop of a worker

A worker polls the channel of its tier and has every record processed. With a sweep, it processes only
what is in the windows of the sweep, stops reading drained partitions, and ends with the sweep.

* `Cell`, a place in the state that is shared with others;
* `Worker`, what it works with, and `Worker.State`, what it keeps for itself;
* `pauseDrained`, `checkRetention`, `takeUp`, `process`: the parts of a round;
* `select`, which finds out what is to be done in a round (`Finding`), `iterate`, one round, and `run`, a
  bounded number of them.
-/

namespace OrderRelay

open Log

/-- A place in a state that holds an `α`. -/
structure Cell (σ α : Type) where
  get : σ → α
  set : α → σ → σ

namespace Cell

variable {σ α β : Type}

/-- Read the place. -/
def read (c : Cell σ α) : StateM σ α := fun s => (c.get s, s)

/-- Apply a function to what the place holds, and keep the second part of its value. -/
def update (c : Cell σ α) (f : α → β × α) : StateM σ β := fun s =>
  let r := f (c.get s)
  (r.1, c.set r.2 s)

end Cell

/-- What a worker works with. -/
structure Worker (σ ε : Type) where
  name : String
  processor : Processor σ ε
  consumer : Subscription σ
  recovery : Option (Cell σ Sweep)
  tick : Text.Duration
  /-- Someone asked the worker to stop; each request counts once. -/
  stopRequested : StateM σ Bool

/-- What a worker keeps for itself: the partitions it has stopped reading, and its counters. -/
structure Worker.State where
  paused : PartitionSet
  stats : Stats

/-- Why a worker left its loop. -/
inductive Stop where
  | requested
  | sweepComplete
  | disconnected
deriving DecidableEq, Repr

/-- What a worker finds to do in a round. -/
inductive Finding where
  /-- Leave the loop. -/
  | stop (why : Stop)
  /-- Nothing, before the next round. -/
  | nothing
  /-- Process a record. -/
  | record (r : ConsumedRecord)
deriving DecidableEq, Repr

namespace Worker

variable {σ ε : Type} (w : Worker σ ε)

/-- The state of a worker that has yet to start. -/
def start : State := ⟨.empty, .start w.processor.tier w.consumer.channel⟩

/-! ## What is reported -/

/-- A value that names the worker. -/
def nameField : String × Value := ("worker", .text w.name)

/-- Reported when the worker starts. -/
def startedEntry : Entry :=
  info .worker "tier worker started"
    [w.nameField, ("channel", .text w.consumer.channel), ("tier", .text w.processor.tier.name),
      ("recovery", .flag w.recovery.isSome)]

/-- Reported when the worker has stopped. -/
def stoppedEntry : Entry := info .worker "tier worker stopped" [w.nameField]

/-- The fields that name a record and what is done with it. -/
def recordFields (r : ConsumedRecord) (outcome : String) : List (String × Value) :=
  w.nameField :: Processor.recordFields r ((w.processor.referenceOf r).getD "") ++
    [("outcome", .text outcome)]

/-! ## The parts of a round -/

/-- Stop reading a partition, unless that was done before. -/
def pause (s : State) (p : Int) : StateM σ State := do
  if s.paused.contains p then return s
  match ← w.consumer.pause p with
  | .ok () => pure ()
  | .error err =>
    w.processor.report (warn .worker "failed to pause partition"
      [w.nameField, ("partition", .number p), ("error", .text err.message)])
  return { s with paused := s.paused.add p }

/-- Stop reading the partitions that are drained, and forget about those that no longer are. The answer is
whether the sweep is complete. -/
def pauseDrained (s : State) : StateM σ (State × Bool) :=
  match w.recovery with
  | none => return (s, false)
  | some cell => do
    let sweep ← cell.read
    let drained := sweep.drained
    let s ← drained.foldlM w.pause { s with paused := s.paused.filter fun p _ => drained.contains p }
    return (s, sweep.isComplete)

/-- Look whether retention has removed what was left of a window. -/
def observe (cell : Cell σ Sweep) (p : Int) : StateM σ Unit := do
  match ← w.consumer.watermarks p with
  | .ok marks =>
    let entries ← cell.update fun sweep =>
      (sweep.observeLowEntries p marks.low, (sweep.observeLow p marks.low).2)
    entries.forM w.processor.report
  | .error err =>
    w.processor.report (debug .worker "watermark query failed"
      [w.nameField, ("partition", .number p), ("error", .text err.message)])

/-- Look at all partitions that have something left to do. -/
def checkRetention : StateM σ Unit :=
  match w.recovery with
  | none => return
  | some cell => do
    let sweep ← cell.read
    sweep.pending.forM (w.observe cell)

/-- Leave a record unprocessed: it will be read again. -/
def holdBack (s : State) (r : ConsumedRecord) : StateM σ State := do
  w.processor.report (debug .worker "record outside recovery window; not processed"
    (w.recordFields r "held_back"))
  match ← w.consumer.rewind r with
  | .ok () => pure ()
  | .error err =>
    w.processor.report (warn .worker "failed to rewind held-back record"
      [w.nameField, ("error", .text err.message)])
  return { s with stats := s.stats.countHeldBack }

/-- Reported when processing a record drains its partition. -/
def drainedEntry (r : ConsumedRecord) : Entry :=
  info .worker "recovery reached snapshot; partition drained" (w.recordFields r "drained")

/-- Count a processed record; one that is done with may drain its partition in the sweep. -/
def conclude (s : State) (r : ConsumedRecord) (resolution : Resolution) : StateM σ State := do
  match w.recovery with
  | none => pure ()
  | some cell =>
    if resolution.isSettled then
      if ← cell.update (·.settle r.partition r.offset) then
        w.processor.report (w.drainedEntry r)
  return { s with stats := s.stats.count resolution }

/-- Process a record from beginning to end. -/
def process (s : State) (r : ConsumedRecord) : StateM σ State := do
  w.conclude s r (← w.processor.handleRecord w.consumer r)

/-- Take a record up for processing, or hold it back if it is outside the windows of the sweep. -/
def takeUp (s : State) (r : ConsumedRecord) : StateM σ (State × Finding) :=
  match w.recovery with
  | none => return (s, .record r)
  | some cell => do
    let (admission, entries) ← cell.update fun sweep =>
      let verdict := sweep.judge r.partition r.offset
      ((verdict.1, sweep.judgeEntries r.partition r.offset), verdict.2)
    entries.forM w.processor.report
    match admission with
    | .process => return (s, .record r)
    | .drained => do
      let s ← w.holdBack s r
      return (← w.pause s r.partition, .nothing)
    | .unassigned => return (← w.holdBack s r, .nothing)

/-! ## Rounds -/

/-- Look for a reason to stop, else poll once and see what the answer asks for. -/
def select (s : State) : StateM σ (State × Finding) := do
  if ← w.stopRequested then return (s, .stop .requested)
  let (s, complete) ← w.pauseDrained s
  if complete then
    w.processor.report (info .worker "recovery sweep complete; stopping" [w.nameField])
    return (s, .stop .sweepComplete)
  match ← w.consumer.poll w.tick with
  | .ok (some r) => w.takeUp s r
  | .ok none =>
    w.checkRetention
    return (s, .nothing)
  | .error .disconnected =>
    w.processor.report (warn .worker "subscription disconnected; stopping" [w.nameField])
    return (s, .stop .disconnected)
  | .error err =>
    w.processor.report (warn .worker "poll failed" [w.nameField, ("error", .text err.message)])
    return (s, .nothing)

/-- One round: find out what is to be done, and do it. -/
def iterate (s : State) : StateM σ (State × Option Stop) := do
  match ← w.select s with
  | (s, .stop why) => return (s, some why)
  | (s, .nothing) => return (s, none)
  | (s, .record r) => return (← w.process s r, none)

/-- At most `n` rounds. The answer tells why the worker left its loop, if it did. -/
def loop : (n : Nat) → State → StateM σ (State × Option Stop)
  | 0, s => return (s, none)
  | n + 1, s => do
    match ← w.iterate s with
    | (s, some stop) => return (s, some stop)
    | (s, none) => loop n s

/-- What the worker does on its way out. -/
def finish (s : State) : StateM σ State := do
  w.processor.report w.stoppedEntry
  return { s with stats := s.stats.finish }

/-- Start, go at most `n` rounds, and finish if a reason to stop was found. -/
def run (n : Nat) : StateM σ State := do
  w.processor.report w.startedEntry
  match ← w.loop n w.start with
  | (s, some _) => w.finish s
  | (s, none) => return s

end Worker

end OrderRelay
