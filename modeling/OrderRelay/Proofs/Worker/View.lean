import OrderRelay.Proofs.Worker.Effect

/-!
# What a worker sees of the bus

A worker reads its own channel, and of the channel of the next tier it learns where a copy was stored. On two
buses that agree in this, and with a handler whose answers depend on the event alone, it goes through the same
rounds, whatever the clock shows.

* `Consumer.SameSight`, two buses that agree in what a consumer sees; `Consumer.poll_congr`;
* `SameView`, two buses that agree in what a worker sees; `SameView.commit`, `SameView.applied`: they still do
  when the same is done on both;
* `Handling.Steady`, a handler whose answers depend on the event alone;
* **`Handling.worksAlike_of_view`**: on buses that agree, a worker acts alike.
-/

namespace OrderRelay

/-! ## Consumers -/

namespace Consumer

/-- Two buses agree in all that a consumer of the channel sees. -/
structure SameSight (channel : Channel) (b b' : Bus) : Prop where
  partitions : b.partitions = b'.partitions
  log : ∀ p, b.log channel.name p = b'.log channel.name p
  committed : ∀ p, b.committed channel.name channel.group p = b'.committed channel.name channel.group p
  failing : b.failing channel.name = b'.failing channel.name

variable {ℓ : Type} (listener : Listener ℓ) {b b' : Bus}

namespace SameSight

variable {channel : Channel} (h : SameSight channel b b')

include h

theorem watermarks (p : Int) : b.watermarks channel.name p = b'.watermarks channel.name p := by
  unfold Bus.watermarks
  rw [h.failing, h.log]

theorem control : b.control channel.name = b'.control channel.name := by
  unfold Bus.control
  simp only [h.watermarks]

theorem partitionList : b.partitionList = b'.partitionList := by
  unfold Bus.partitionList
  rw [h.partitions]

theorem starts : starts b channel = Consumer.starts b' channel := by
  unfold Consumer.starts startOf
  simp only [h.partitionList, h.log, h.committed]

end SameSight

variable {c : Consumer} (h : SameSight c.channel b b')

include h

theorem assign_congr (s : ℓ) : c.assign listener b s = c.assign listener b' s := by
  unfold assign
  rw [h.control, h.partitionList, h.starts]

theorem next?_congr : next? b c = next? b' c := by
  unfold next? candidate?
  simp only [h.log]

/-- A poll sees nothing else of the bus. -/
theorem poll_congr (s : ℓ) : c.poll listener b s = c.poll listener b' s := by
  have harrived : arrived listener b c s = arrived listener b' c s := by
    unfold arrived
    rw [assign_congr listener h]
  have hsight : SameSight (arrived listener b' c s).consumer.channel b b' := by
    rw [channel_arrived]
    exact h
  rw [poll_eq, poll_eq, harrived, next?_congr hsight]

end Consumer

/-! ## Workers -/

/-- Two buses agree in all that the worker of a tier sees. -/
structure SameView (topology : Topology) (tier : Tier) (b b' : Bus) : Prop
    extends Consumer.SameSight (topology.channel tier) b b' where
  unavailable : ∀ next, tier.next = some next →
    b.unavailable (topology.channelName next) = b'.unavailable (topology.channelName next)
  high : ∀ next, tier.next = some next →
    ∀ p, b.high (topology.channelName next) p = b'.high (topology.channelName next) p

/-- No tier stores copies on its own channel. -/
theorem Topology.channelName_ne_next (topology : Topology) {tier next : Tier} (h : tier.next = some next) :
    topology.channelName tier ≠ topology.channelName next := by
  intro heq
  obtain rfl := topology.channelName_inj.mp heq
  cases tier <;> exact nomatch h

/-- The positions at which an envelope is stored do not depend on its time. -/
theorem Bus.publish_congr {b b' : Bus} (key : String) (payload : List UInt8) (n n' : Int) {destination : String}
    (hu : b.unavailable destination = b'.unavailable destination) (hp : b.partitions = b'.partitions)
    (hh : ∀ p, b.high destination p = b'.high destination p) :
    (b.publish ⟨key, payload, destination, n⟩).map Prod.fst =
      (b'.publish ⟨key, payload, destination, n'⟩).map Prod.fst := by
  have hkey : b.partitionOf key = b'.partitionOf key := by
    unfold Bus.partitionOf
    rw [hp]
  have hpartition : b.hasPartition (b'.partitionOf key) = b'.hasPartition (b'.partitionOf key) := by
    unfold Bus.hasPartition
    rw [hp]
  have hhigh := hh (b'.partitionOf key)
  unfold Bus.high at hhigh
  simp only [Bus.publish, Bus.publishTo, hkey, hu, hpartition, hhigh]
  cases b'.unavailable destination <;> cases b'.hasPartition (b'.partitionOf key) <;> rfl

/-- Storing an envelope succeeds on both buses or on neither, if the positions are the same. -/
theorem both_of_map_fst_eq {x y : Except PublishError (Position × Bus)} (h : x.map Prod.fst = y.map Prod.fst) :
    (∃ err, x = .error err ∧ y = .error err) ∨ ∃ stored stored', x = .ok stored ∧ y = .ok stored' := by
  cases x with
  | error err =>
    cases y with
    | error err' =>
      obtain rfl : err = err' := Except.error.inj h
      exact .inl ⟨err, rfl, rfl⟩
    | ok stored' => exact nomatch h
  | ok stored =>
    cases y with
    | error err' => exact nomatch h
    | ok stored' => exact .inr ⟨stored, stored', rfl, rfl⟩

namespace SameView

variable {topology : Topology} {tier : Tier} {b b' : Bus} (h : SameView topology tier b b')

include h

theorem commit (channel : Channel) (p o : Int) :
    SameView topology tier (b.commit channel p o) (b'.commit channel p o) where
  partitions := h.partitions
  log := h.log
  committed q := by
    rw [Bus.committed_commit, Bus.committed_commit, h.committed]
  failing := h.failing
  unavailable := h.unavailable
  high := h.high

/-- They still agree when the same plan was carried out on both, at whatever times, and the same came of it. -/
theorem applied {plan : Plan}
    (hplan : ∀ next key payload, plan = .escalate next key payload → tier.next = some next) (n n' : Int) :
    SameView topology tier (plan.applied topology n b) (plan.applied topology n' b') ∧
      plan.resolution topology n b = plan.resolution topology n' b' := by
  cases plan with
  | finish resolution => exact ⟨h, rfl⟩
  | escalate next key payload =>
    have hnext := hplan next key payload rfl
    have hpositions := Bus.publish_congr key payload n n' (h.unavailable next hnext) h.partitions
      (h.high next hnext)
    have hresolution : (Plan.escalate next key payload).resolution topology n b =
        (Plan.escalate next key payload).resolution topology n' b' :=
      congrArg (Processor.resolutionOf next) hpositions
    refine ⟨?_, hresolution⟩
    rcases both_of_map_fst_eq hpositions with ⟨err, hb, hb'⟩ | ⟨stored, stored', hb, hb'⟩
    · rw [(Plan.carried_of_error hb).1, (Plan.carried_of_error hb').1]
      exact h
    · rw [(Plan.carried_of_ok hb).1, (Plan.carried_of_ok hb').1]
      have hown := topology.channelName_ne_next hnext
      have hkey : b.partitionOf key = b'.partitionOf key := by
        unfold Bus.partitionOf
        rw [h.partitions]
      obtain ⟨hpartitions, hunavailable, hfailing⟩ := Bus.settings_publishTo hb
      obtain ⟨hpartitions', hunavailable', hfailing'⟩ := Bus.settings_publishTo hb'
      constructor
      case unavailable =>
        intro u hu
        rw [hunavailable, hunavailable', h.unavailable u hu]
      case high =>
        intro u hu p
        rw [Bus.high_publishTo hb, Bus.high_publishTo hb', h.high u hu, hkey]
      case toSameSight =>
        constructor
        case partitions => rw [hpartitions, hpartitions', h.partitions]
        case failing => rw [hfailing, hfailing', h.failing]
        case committed =>
          intro p
          rw [Bus.committed_publishTo hb, Bus.committed_publishTo hb', h.committed]
        case log =>
          intro p
          rw [Bus.log_publishTo hb, if_neg fun hp => hown hp.1, Bus.log_publishTo hb',
            if_neg fun hp => hown hp.1, h.log]

end SameView

namespace Handling

variable {η ε : Type}

/-- The answers of the handler depend on the event alone. -/
def Steady (k : Handling η ε) : Prop :=
  ∀ e memory memory', (k.handle e memory).1.1 = (k.handle e memory').1.1

/-- Two stages agree in all that the worker of a tier sees, apart from the clock. -/
structure SameStage (topology : Topology) (tier : Tier) (x y : Stage η) : Prop where
  consumer : x.scene.consumer = y.scene.consumer
  channel : y.scene.consumer.channel = topology.channel tier
  sweep : x.scene.sweep = y.scene.sweep
  stopAsked : x.scene.stopAsked = y.scene.stopAsked
  bus : SameView topology tier x.scene.bus y.scene.bus

variable (k : Handling η ε) (topology : Topology) (tier : Tier) (mode : Mode) (tick : Text.Duration)

/-- **A worker acts alike** on stages that agree in all that it sees. -/
theorem worksAlike_of_view (hk : k.Steady) :
    Worker.WorksAlike (SameStage topology tier : Stage η → Stage η → Prop)
      (k.worker topology tier mode tick) (k.worker topology tier mode tick) where
  name := rfl
  codec := rfl
  tier := rfl
  republishKey := rfl
  recovery := by
    cases mode with
    | feed => exact .none
    | recovery =>
      refine .some ⟨fun h => ?_, fun sweep h => ?_⟩
      · exact congrArg (Option.getD · _) h.sweep
      · exact { h with sweep := rfl }
  stopRequested x y h := ⟨h.stopAsked, { h with stopAsked := rfl }⟩
  poll x y h := by
    have hpoll : x.scene.consumer.poll Scene.listener x.scene.bus x.scene.sweep =
        y.scene.consumer.poll Scene.listener y.scene.bus y.scene.sweep := by
      rw [h.consumer, h.sweep]
      refine Consumer.poll_congr Scene.listener ?_ _
      rw [h.channel]
      exact h.bus.toSameSight
    have hanswer := congrArg Prod.fst hpoll
    have hassigned := congrArg Prod.snd hpoll
    refine ⟨congrArg Except.ok hanswer, ?_⟩
    exact { h with
      consumer := congrArg Assigned.consumer hassigned
      channel := (Consumer.channel_poll ..).trans h.channel
      sweep := congrArg Assigned.state hassigned }
  pause p x y h := ⟨rfl, { h with consumer := congrArg (Consumer.pause · p) h.consumer }⟩
  rewind r x y h := ⟨rfl, { h with
    consumer := congrArg (Consumer.rewind · r) h.consumer
    channel := (Consumer.channel_rewind ..).trans h.channel }⟩
  watermarks p x y h := ⟨h.bus.watermarks p, h⟩
  report e x y h := ⟨rfl, { h with }⟩
  evaluate r x y h := by
    have hevaluate (x : Stage η) : (k.worker topology tier mode tick).processor.evaluate r x =
        (k.processor topology tier).evaluate r x := rfl
    rw [hevaluate, hevaluate]
    cases hd : k.codec.decode r.payload with
    | error err =>
      rw [evaluate_of_error k topology tier x hd, evaluate_of_error k topology tier y hd]
      exact ⟨rfl, h⟩
    | ok e =>
      rw [evaluate_of_ok k topology tier x hd, evaluate_of_ok k topology tier y hd, hk e x.memory y.memory]
      exact ⟨rfl, { h with }⟩
  carryOut r answer x y h := by
    have hcarryOut (x : Stage η) : (k.worker topology tier mode tick).processor.carryOut
        ((k.worker topology tier mode tick).processor.plan r answer) x =
          (k.processor topology tier).carryOut ((k.processor topology tier).plan r answer) x := rfl
    obtain ⟨stored, -, hx⟩ := exists_carryOut k topology tier x ((k.processor topology tier).plan r answer)
    obtain ⟨stored', -, hy⟩ := exists_carryOut k topology tier y ((k.processor topology tier).plan r answer)
    have hplan (next : Tier) (key : String) (payload : List UInt8)
        (hp : (k.processor topology tier).plan r answer = .escalate next key payload) : tier.next = some next :=
      (Processor.plan_eq_escalate hp).1
    obtain ⟨hbus, hresolution⟩ := h.bus.applied hplan x.scene.now y.scene.now
    rw [hcarryOut, hcarryOut, hx, hy]
    exact ⟨hresolution, { h with bus := hbus }⟩
  commit r x y h := by
    refine ⟨rfl, { h with bus := ?_ }⟩
    show SameView topology tier (x.scene.bus.commit x.scene.consumer.channel _ _)
      (y.scene.bus.commit y.scene.consumer.channel _ _)
    rw [h.consumer]
    exact h.bus.commit _ _ _

end Handling

end OrderRelay
