import OrderRelay.Proofs.Worker.Effect

/-!
# The turns of a process

A worker of a process handles events in the ordinary way: what it cannot handle it gives up for good. So it
stores no copies, and a turn commits one record at most.

* `Handling.ordinary`, the way in which a process handles events, and **`Config.worksAlike_ordinary`**: its
  workers act like any workers with that handling;
* `Resolution.ForGood`; `Handling.exists_plan_ordinary`: every record is handled or given up for good;
* `Services.told`, the account of a turn, and `Turned`, what a turn comes to;
* `Services.Manned`: the workers are on the tiers of the mode, and read their channels;
* **`Services.Manned.turned`**: every turn is such, and leaves the services manned.
-/

namespace OrderRelay

/-! ## The ordinary handling -/

/-- What the handler of a process answers, and what it reports. -/
def OrderHandler.answer (e : OrderReceived) : Except HandlingError Unit × List Log.Entry :=
  match accept e with
  | .ok r => (.ok (), [acceptedEntry e r])
  | .error err => (.error err, [])

namespace Handling

/-- The way in which a process handles events. The handler remembers nothing. -/
def ordinary (topology : Topology) : Handling Unit HandlingError where
  codec := .wire
  handle e := pure (OrderHandler.answer e)
  classify e := .ofRetryable e.isRetryable
  describe := HandlingError.message
  republishKey := .retryChannel topology

end Handling

/-- The scene of a stage. -/
def OnStage (s : Scene) (x : Stage Unit) : Prop := s = x.scene

theorem Stage.alike_onScene {α : Type} (m : StateM Scene α) : Alike OnStage m (onScene m) := by
  rintro s x rfl
  exact ⟨rfl, rfl⟩

theorem Stage.alike_noted {α : Type} (d : Deed) (m : StateM Scene α) :
    Alike OnStage m (note d >>= fun _ => onScene m) := by
  rintro s x rfl
  exact ⟨rfl, rfl⟩

theorem Stage.alike_publish (e : Envelope) : Alike OnStage (Scene.publish e) (Stage.publish e) := by
  rintro s x rfl
  rw [Handling.publish_eq, Scene.publish]
  cases x.scene.bus.publish e <;> exact ⟨rfl, rfl⟩

theorem Handling.handle_ordinary (topology : Topology) (tier : Tier) (e : OrderReceived) :
    Alike OnStage (OrderHandler.handle Scene.report e)
      (((ordinary topology).processor topology tier).handle e) := by
  intro s x h
  obtain rfl := h
  have hanswer : (ordinary topology).handle e x.memory = (OrderHandler.answer e, x.memory) := rfl
  rw [handle_eq, hanswer]
  unfold OrderHandler.answer OrderHandler.handle
  cases OrderHandler.accept e with
  | ok r => exact ⟨rfl, rfl⟩
  | error err =>
    refine ⟨rfl, ?_⟩
    show x.scene = { x.scene with entries := x.scene.entries ++ [] }
    rw [List.append_nil]

/-- **The workers of a process act like any workers** with the ordinary handling. -/
theorem Config.worksAlike_ordinary (c : Config) (tier : Tier) :
    Worker.WorksAlike OnStage (c.worker tier)
      ((Handling.ordinary c.topology).worker c.topology tier c.mode c.pollInterval) where
  name := rfl
  codec := rfl
  tier := rfl
  republishKey := rfl
  recovery := by
    unfold Config.worker Handling.worker
    cases c.mode with
    | feed => exact .none
    | recovery =>
      refine .some ⟨fun h => ?_, fun sweep h => ?_⟩
      · rw [h]
        rfl
      · rw [h]
        rfl
  stopRequested := Stage.alike_onScene _
  poll := Stage.alike_onScene _
  rewind r := Stage.alike_noted (.rewound r) _
  pause _ := Stage.alike_onScene _
  watermarks _ := Stage.alike_onScene _
  report _ := Stage.alike_onScene _
  commit r := Stage.alike_noted (.committed r) _
  evaluate := by
    refine .evaluate rfl rfl rfl rfl (fun _ => Stage.alike_onScene _) fun e => ?_
    have hhandle : (c.worker tier).processor.handle = OrderHandler.handle Scene.report := by
      simp only [Config.worker, Scene.processor]
    have halike := Handling.handle_ordinary c.topology tier e
    rw [← hhandle] at halike
    exact halike
  carryOut r answer := by
    apply Alike.carryOut
    case htopology => rfl
    case hclock => exact Stage.alike_onScene _
    case hpublish => exact Stage.alike_publish

/-! ## What becomes of a record -/

/-- The record was handled, or given up for good. -/
def Resolution.ForGood (resolution : Resolution) : Prop :=
  resolution = .completed ∨ ∃ cause, resolution = .dropped .permanent cause

theorem Resolution.ForGood.isSettled {resolution : Resolution} (h : resolution.ForGood) :
    resolution.isSettled = true := by
  rcases h with rfl | ⟨cause, rfl⟩ <;> rfl

theorem Processor.plan_of_permanent {σ ε : Type} (p : Processor σ ε) (r : ConsumedRecord)
    (event : Option OrderReceived) (cause : String) :
    p.plan r (event, .failure .permanent cause) = .finish (.dropped .permanent cause) := by
  cases event <;> rfl

/-- **Every record is handled or given up for good**, whatever is in it. -/
theorem Handling.exists_plan_ordinary (topology : Topology) (tier : Tier) (r : ConsumedRecord) (x : Stage Unit) :
    ∃ resolution, resolution.ForGood ∧ ((ordinary topology).processor topology tier).plan r
      (((ordinary topology).processor topology tier).evaluate r x).1 = .finish resolution := by
  cases hd : (ordinary topology).codec.decode r.payload with
  | error err =>
    rw [evaluate_of_error _ _ _ _ hd, Processor.plan_of_permanent]
    exact ⟨_, .inr ⟨_, rfl⟩, rfl⟩
  | ok e =>
    have hanswer : (ordinary topology).handle e x.memory = (OrderHandler.answer e, x.memory) := rfl
    rw [evaluate_of_ok _ _ _ _ hd, hanswer]
    cases ha : (OrderHandler.answer e).1 with
    | ok => exact ⟨.completed, .inl rfl, rfl⟩
    | error err =>
      -- No error of the handler may be retried.
      have hclassify : (ordinary topology).classify err = .permanent := by
        cases err
        rfl
      have houtcome : ((ordinary topology).processor topology tier).outcomeOf (.error err) =
          .failure .permanent err.message := congrArg (Outcome.failure · err.message) hclassify
      rw [houtcome, Processor.plan_of_permanent]
      exact ⟨_, .inr ⟨_, rfl⟩, rfl⟩

/-! ## Turns -/

/-- What a turn comes to on the bus of a process: nothing, or a record of one of its tiers is committed. -/
inductive Turned (c : Config) (b : Bus) : Option Account → Bus → Prop where
  | idle : Turned c b none b
  | settled (a : Account) (tier : Tier) (htier : tier ∈ c.mode.tiers)
      (hchannel : a.record.channel = c.topology.channelName tier) (hresolution : a.resolution.ForGood) :
      Turned c b (some a) (b.commit (c.topology.channel tier) a.record.partition (a.record.offset + 1))

namespace Turned

variable {c : Config} {b b' : Bus} {told : Option Account} (h : Turned c b told b')

include h

theorem logs_eq : b'.logs = b.logs := by
  cases h <;> rfl

theorem committed_eq {tier : Tier} (ht : tier ∉ c.mode.tiers) (group : String) (p : Int) :
    b'.committed (c.topology.channelName tier) group p = b.committed (c.topology.channelName tier) group p := by
  cases h with
  | idle => rfl
  | settled a t htier =>
    rw [Bus.committed_commit, if_neg]
    intro heq
    exact ht (c.topology.channelName_inj.mp heq.1 ▸ htier)

theorem account {a : Account} (ha : told = some a) :
    (∃ tier ∈ c.mode.tiers, a.record.channel = c.topology.channelName tier) ∧ a.resolution.ForGood := by
  cases h with
  | idle => exact nomatch ha
  | settled a' tier htier hchannel hresolution =>
    obtain rfl := Option.some.inj ha
    exact ⟨⟨tier, htier, hchannel⟩, hresolution⟩

end Turned

namespace Services

/-- The account of the round that the worker at a place has in a turn. -/
def told (now : Int) (s : Services) (i : Nat) : Option Account :=
  match s.posts[i]? with
  | none => none
  | some p =>
    if p.state.stats.finished then none
    else ((s.config.worker p.tier).iterateTold p.state (s.sceneOf p now)).1.2

/-- The workers are on tiers of the mode, and read the channels of their tiers. -/
structure Manned (c : Config) (s : Services) : Prop where
  config : s.config = c
  posts : ∀ p ∈ s.posts, p.tier ∈ c.mode.tiers ∧ p.consumer.channel = c.topology.channel p.tier

variable {c : Config} {s : Services}

/-- What a worker does on its way out changes neither the bus nor the consumer. -/
theorem round_eq (tier : Tier) (state : Worker.State) (scene : Scene) :
    (round (c.worker tier) state scene).2.bus = ((c.worker tier).iterateTold state scene).2.bus ∧
      (round (c.worker tier) state scene).2.consumer = ((c.worker tier).iterateTold state scene).2.consumer := by
  simp only [round, bind, StateT.bind, Worker.iterate_eq_iterateTold]
  rcases (c.worker tier).iterateTold state scene with ⟨⟨⟨state', stop⟩, told⟩, scene'⟩
  cases stop <;> exact ⟨rfl, rfl⟩

theorem turned_iterateTold {tier : Tier} (htier : tier ∈ c.mode.tiers) (state : Worker.State) (scene : Scene)
    (hchannel : scene.consumer.channel = c.topology.channel tier) :
    Turned c scene.bus ((c.worker tier).iterateTold state scene).1.2
        ((c.worker tier).iterateTold state scene).2.bus ∧
      ((c.worker tier).iterateTold state scene).2.consumer.channel = c.topology.channel tier := by
  have haccounted := (Handling.ordinary c.topology).accounted_iterateTold c.topology tier c.mode c.pollInterval
    state ⟨scene, (), []⟩
  obtain ⟨htold, hscene⟩ := (c.worksAlike_ordinary tier).iterateTold state scene ⟨scene, (), []⟩ rfl
  rw [← htold] at haccounted
  have hchannel' : (⟨scene, (), []⟩ : Stage Unit).scene.consumer.channel = c.topology.channel tier := hchannel
  have hbus := haccounted.bus_eq
  have hconsumer := haccounted.channel_eq
  rw [hchannel'] at hbus hconsumer
  rw [hscene, hbus]
  refine ⟨?_, hconsumer⟩
  cases ha : ((c.worker tier).iterateTold state scene).1.2 with
  | none => exact .idle
  | some a =>
    obtain ⟨z, hz⟩ := haccounted.decided a ha
    obtain ⟨resolution, hgood, hplan⟩ := Handling.exists_plan_ordinary c.topology tier a.record z
    rw [hplan] at hz
    have hresolution : a.resolution = resolution := by
      rw [haccounted.resolved a ha, hz]
      rfl
    have happlied : Account.appliedTo c.topology (c.topology.channel tier) scene.now scene.bus (some a) =
        scene.bus.commit (c.topology.channel tier) a.record.partition (a.record.offset + 1) := by
      refine (Account.applied_of_finish hz ..).trans (if_pos ?_)
      rw [hresolution]
      exact hgood.isSettled
    have hread := (haccounted.read a ha).1
    rw [hchannel'] at hread
    show Turned c scene.bus (some a)
      (Account.appliedTo c.topology (c.topology.channel tier) scene.now scene.bus (some a))
    rw [happlied]
    exact .settled a tier htier hread (hresolution ▸ hgood)

theorem Manned.turned (h : Manned c s) (now : Int) (i : Nat) :
    Turned c s.bus (told now s i) (turn now s i).bus ∧ Manned c (turn now s i) := by
  unfold told turn
  cases hp : s.posts[i]? with
  | none => exact ⟨.idle, h⟩
  | some p =>
    dsimp only
    split
    · exact ⟨.idle, h⟩
    · obtain ⟨hconfig, hposts⟩ := h
      subst hconfig
      obtain ⟨htier, hchannel⟩ := hposts p (List.mem_of_getElem? hp)
      obtain ⟨hbus, hconsumer⟩ := round_eq (c := s.config) p.tier p.state (s.sceneOf p now)
      obtain ⟨hturned, hchannel'⟩ := turned_iterateTold htier p.state (s.sceneOf p now) hchannel
      rw [← hbus] at hturned
      rw [← hconsumer] at hchannel'
      refine ⟨hturned, rfl, fun q hq => ?_⟩
      rcases List.mem_or_eq_of_mem_set hq with hq | rfl
      · exact hposts q hq
      · exact ⟨htier, hchannel'⟩

end Services

end OrderRelay
