import OrderRelay.Proofs.Consumer.Delivery
import OrderRelay.Proofs.Processing.Plan
import OrderRelay.Proofs.Worker.Alike
import OrderRelay.Proofs.Worker.Stage

/-!
# What a round does to the bus

Whatever the handler, the codec and the keys, a round changes the bus in two places at most: a copy of the record
is stored on the next tier, and the record is committed. The account of the round tells which of these were done.

* `Plan.applied`, `Plan.resolution`: carrying out a plan on a bus; `Account.applied`: and then committing the
  record;
* `Handling.selectsAlike_at`: looking for something to do changes nothing on the bus;
* `Handling.Accounted`, what is known of a round with its account;
* **`Handling.accounted_iterateTold`**: it holds of every round.
-/

namespace OrderRelay

namespace Plan

section Carried

variable (topology : Topology) (now : Int) (b : Bus)

/-- The bus after a plan was carried out. -/
def applied : Plan → Bus
  | finish _ => b
  | escalate next key payload =>
    match b.publish ⟨key, payload, topology.channelName next, now⟩ with
    | .ok (_, stored) => stored
    | .error _ => b

/-- What becomes of a record when its plan is carried out. -/
def resolution : Plan → Resolution
  | finish resolution => resolution
  | escalate next key payload =>
    Processor.resolutionOf next ((b.publish ⟨key, payload, topology.channelName next, now⟩).map Prod.fst)

end Carried

variable {topology : Topology} {now : Int} {b : Bus} {next : Tier} {key : String} {payload : List UInt8}

/-- The copy is stored. -/
theorem carried_of_ok {stored : Position × Bus}
    (h : b.publish ⟨key, payload, topology.channelName next, now⟩ = .ok stored) :
    (escalate next key payload).applied topology now b = stored.2 ∧
      (escalate next key payload).resolution topology now b = .republished next stored.1 := by
  constructor
  · rw [applied, h]
  · rw [resolution, h]
    rfl

/-- The copy could not be stored, and nothing changes. -/
theorem carried_of_error {err : PublishError}
    (h : b.publish ⟨key, payload, topology.channelName next, now⟩ = .error err) :
    (escalate next key payload).applied topology now b = b ∧
      (escalate next key payload).resolution topology now b = .redeliver err.message := by
  constructor
  · rw [applied, h]
  · rw [resolution, h]
    rfl

/-- A plan leaves the bus as it is, or a copy is stored on it. -/
theorem applied_cases (plan : Plan) (topology : Topology) (now : Int) (b : Bus) :
    plan.applied topology now b = b ∨ ∃ next key payload position, plan = escalate next key payload ∧
      b.publish ⟨key, payload, topology.channelName next, now⟩ = .ok (position, plan.applied topology now b) := by
  cases plan with
  | finish resolution => exact .inl rfl
  | escalate next key payload =>
    cases h : b.publish ⟨key, payload, topology.channelName next, now⟩ with
    | ok stored =>
      rw [(carried_of_ok h).1]
      exact .inr ⟨next, key, payload, stored.1, rfl, h⟩
    | error err => exact .inl (carried_of_error h).1

end Plan

namespace Account

/-- The bus after the plan was carried out and the record committed, if it is done with. -/
def applied (a : Account) (topology : Topology) (channel : Channel) (now : Int) (b : Bus) : Bus :=
  let stored := a.plan.applied topology now b
  if a.resolution.isSettled then stored.commit channel a.record.partition (a.record.offset + 1) else stored

/-- The bus after a round. -/
def appliedTo (topology : Topology) (channel : Channel) (now : Int) (b : Bus) : Option Account → Bus
  | none => b
  | some a => a.applied topology channel now b

/-- A record that does not move on is committed, if it is done with. -/
theorem applied_of_finish {a : Account} {resolution : Resolution} (h : a.plan = .finish resolution)
    (topology : Topology) (channel : Channel) (now : Int) (b : Bus) :
    a.applied topology channel now b =
      if a.resolution.isSettled then b.commit channel a.record.partition (a.record.offset + 1) else b := by
  unfold applied
  rw [h]
  rfl

end Account

namespace Consumer

theorem channel_poll {ℓ : Type} (listener : Listener ℓ) (b : Bus) (c : Consumer) (s : ℓ) :
    (c.poll listener b s).2.consumer.channel = c.channel := by
  cases h : (c.poll listener b s).1 with
  | none => rw [poll_of_none h, channel_arrived]
  | some r => rw [(delivery_of_poll h).1.rest.1, channel_arrived]

end Consumer

namespace Handling

variable {η ε : Type} (k : Handling η ε) (topology : Topology) (tier : Tier) (mode : Mode) (tick : Text.Duration)

/-! ## Looking for something to do -/

/-- The stage is on that bus, with a consumer of that channel, at that time. -/
def At (b : Bus) (channel : Channel) (now : Int) (x : Stage η) : Prop :=
  x.scene.bus = b ∧ x.scene.consumer.channel = channel ∧ x.scene.now = now

/-- **Looking for something to do changes nothing on the bus**, nor does counting what was done. -/
theorem selectsAlike_at (b : Bus) (channel : Channel) (now : Int) :
    Worker.SelectsAlike (fun x y : Stage η => x = y ∧ At b channel now x)
      (k.worker topology tier mode tick) (k.worker topology tier mode tick) where
  name := rfl
  codec := rfl
  recovery := by
    cases mode with
    | feed => exact .none
    | recovery =>
      refine .some ⟨fun h => ?_, fun sweep h => ?_⟩
      · rw [h.1]
      · obtain ⟨rfl, h⟩ := h
        exact ⟨rfl, h⟩
  stopRequested := .of_keeps fun x h => h
  poll := .of_keeps fun x h => ⟨h.1, (Consumer.channel_poll ..).trans h.2.1, h.2.2⟩
  rewind r := .of_keeps fun x h => ⟨h.1, (Consumer.channel_rewind ..).trans h.2.1, h.2.2⟩
  pause p := .of_keeps fun x h => h
  watermarks p := .of_keeps fun x h => h
  report e := .of_keeps fun x h => h

variable {k topology tier mode tick} {x : Stage η}

/-- A record that is taken up comes from the channel of the consumer. -/
theorem record_of_select {s s' : Worker.State} {r : ConsumedRecord} {y : Stage η}
    (h : (k.worker topology tier mode tick).select s x = ((s', .record r), y)) :
    r.channel = x.scene.consumer.channel.name ∧ r.group = x.scene.consumer.channel.group := by
  have halike := k.selectsAlike_at topology tier mode tick x.scene.bus x.scene.consumer.channel x.scene.now
  have hx : At x.scene.bus x.scene.consumer.channel x.scene.now x := ⟨rfl, rfl, rfl⟩
  obtain ⟨-, -, hasked⟩ := halike.stopRequested x x ⟨rfl, hx⟩
  obtain ⟨-, -, hpaused⟩ := halike.pauseDrained s _ _ ⟨rfl, hasked⟩
  generalize hz : ((k.worker topology tier mode tick).pauseDrained s
    ((k.worker topology tier mode tick).stopRequested x).2).2 = z at hpaused
  have hpoll := Worker.poll_of_select _ h
  rw [hz] at hpoll
  have hread : (z.scene.consumer.poll Scene.listener z.scene.bus z.scene.sweep).1 = some r :=
    Except.ok.inj hpoll
  obtain ⟨hdelivered, -⟩ := Consumer.delivery_of_poll hread
  rw [← hpaused.2.1, hdelivered.channel_eq, hdelivered.group_eq, Consumer.channel_arrived]
  exact ⟨rfl, rfl⟩

/-! ## Carrying out -/

variable (k topology tier x) in
/-- Carrying out a plan changes the bus alone, and a deed is noted if a copy is stored on it. -/
theorem exists_carryOut (plan : Plan) : ∃ stored, (∀ d ∈ stored, ∃ e position, d = .stored e position) ∧
    (k.processor topology tier).carryOut plan x =
      (plan.resolution topology x.scene.now x.scene.bus,
        { x with
          scene := { x.scene with bus := plan.applied topology x.scene.now x.scene.bus }
          deeds := x.deeds ++ stored }) := by
  cases plan with
  | finish resolution =>
    refine ⟨[], by simp, ?_⟩
    rw [carryOut_finish, List.append_nil]
    rfl
  | escalate next key payload =>
    cases h : x.scene.bus.publish ⟨key, payload, topology.channelName next, x.scene.now⟩ with
    | ok stored =>
      rw [(Plan.carried_of_ok h).1, (Plan.carried_of_ok h).2]
      exact ⟨_, fun d hd => ⟨_, _, List.mem_singleton.mp hd⟩, carryOut_of_published k topology tier h⟩
    | error err =>
      rw [(Plan.carried_of_error h).1, (Plan.carried_of_error h).2]
      refine ⟨[], by simp, ?_⟩
      rw [List.append_nil]
      exact carryOut_of_not_published k topology tier h

variable {b : Bus} {channel : Channel} {now : Int} (hx : At b channel now x)

include hx

variable (k topology tier) in
theorem carryOut_at (plan : Plan) : ∃ y, At (plan.applied topology now b) channel now y ∧
    (k.processor topology tier).carryOut plan x = (plan.resolution topology now b, y) := by
  obtain ⟨rfl, rfl, rfl⟩ := hx
  obtain ⟨stored, -, hc⟩ := exists_carryOut k topology tier x plan
  refine ⟨_, ?_, hc⟩
  exact ⟨rfl, rfl, rfl⟩

variable (k topology tier) in
/-- A record is committed if it is done with, and is read again otherwise. -/
theorem settle_at (r : ConsumedRecord) (resolution : Resolution) :
    At (if resolution.isSettled then b.commit channel r.partition (r.offset + 1) else b) channel now
      ((k.processor topology tier).settle (Stage.subscription (topology.channelName tier)) r resolution x).2 := by
  obtain ⟨rfl, rfl, rfl⟩ := hx
  cases h : resolution.isSettled with
  | true =>
    rw [settle_of_settled k topology tier x h]
    exact ⟨rfl, rfl, rfl⟩
  | false =>
    rw [settle_of_unsettled k topology tier x h]
    exact ⟨rfl, Consumer.channel_rewind .., rfl⟩

omit hx

/-! ## Rounds -/

variable (k topology tier) in
/-- What is known of a round from `x` to `y` with its account. -/
structure Accounted (x y : Stage η) (told : Option Account) : Prop where
  bus_eq : y.scene.bus = Account.appliedTo topology x.scene.consumer.channel x.scene.now x.scene.bus told
  channel_eq : y.scene.consumer.channel = x.scene.consumer.channel
  /-- The record was read from the channel. -/
  read : ∀ a, told = some a →
    a.record.channel = x.scene.consumer.channel.name ∧ a.record.group = x.scene.consumer.channel.group
  /-- It was decided on from what came of handling it. -/
  decided : ∀ a, told = some a → ∃ z, a.plan =
    (k.processor topology tier).plan a.record ((k.processor topology tier).evaluate a.record z).1
  resolved : ∀ a, told = some a → a.resolution = a.plan.resolution topology x.scene.now x.scene.bus

variable (k topology tier mode tick) in
/-- **A round does what its account tells.** -/
theorem accounted_iterateTold (s : Worker.State) (x : Stage η) :
    Accounted k topology tier x ((k.worker topology tier mode tick).iterateTold s x).2
      ((k.worker topology tier mode tick).iterateTold s x).1.2 := by
  have halike := k.selectsAlike_at topology tier mode tick
  obtain ⟨s₁, found, x₁, hs⟩ : ∃ s₁ found x₁,
    (k.worker topology tier mode tick).select s x = ((s₁, found), x₁) := ⟨_, _, _, rfl⟩
  have hx₁ : At x.scene.bus x.scene.consumer.channel x.scene.now x₁ := by
    have hselected := (halike _ _ _).select s x x ⟨rfl, rfl, rfl, rfl⟩
    rw [hs] at hselected
    exact hselected.2.2
  have idle {why : Option Stop}
      (h : (k.worker topology tier mode tick).iterateTold s x = (((s₁, why), none), x₁)) :
      Accounted k topology tier x ((k.worker topology tier mode tick).iterateTold s x).2
        ((k.worker topology tier mode tick).iterateTold s x).1.2 := by
    rw [h]
    constructor
    case bus_eq => exact hx₁.1
    case channel_eq => exact hx₁.2.1
    all_goals exact fun _ h => nomatch h
  cases found with
  | stop why => exact idle (Worker.iterateTold_of_stop hs)
  | nothing => exact idle (Worker.iterateTold_of_nothing hs)
  | record r =>
    obtain ⟨event, outcome, memory, entries, he⟩ := exists_evaluate k topology tier x₁ r
    generalize hx₂ : ({ x₁ with scene := { x₁.scene with entries }, memory } : Stage η) = x₂ at he
    have hx₂' : At x.scene.bus x.scene.consumer.channel x.scene.now x₂ := hx₂ ▸ hx₁
    generalize hplan : (k.processor topology tier).plan r (event, outcome) = plan
    obtain ⟨x₃, hx₃, hc⟩ := carryOut_at k topology tier hx₂' plan
    rw [Worker.iterateTold_of_record hs he hplan hc rfl rfl rfl]
    obtain ⟨-, -, hx₄⟩ := (halike _ _ _).report _ x₃ x₃ ⟨rfl, hx₃⟩
    have hx₅ := settle_at k topology tier hx₄ r (plan.resolution topology x.scene.now x.scene.bus)
    obtain ⟨-, -, hx₆⟩ := (halike _ _ _).conclude s₁ r _ _ _ ⟨rfl, hx₅⟩
    constructor
    case bus_eq => exact hx₆.1
    case channel_eq => exact hx₆.2.1
    all_goals
      intro a ha
      obtain rfl := Option.some.inj ha
    case read => exact record_of_select hs
    case decided => exact ⟨x₁, by rw [he, hplan]⟩
    case resolved => rfl

end Handling

end OrderRelay
