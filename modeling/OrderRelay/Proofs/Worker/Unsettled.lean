import OrderRelay.Proofs.Bus.Outside
import OrderRelay.Proofs.Consumer.Fairness
import OrderRelay.Proofs.Recovery.Parts
import OrderRelay.Proofs.Worker.Effect

/-!
# Records that are left unsettled

A round can leave the record that it has read undone: the next tier does not take it, or the sweep does not admit it.
By then the consumer has moved on, past the record and past what retention had removed before it. The round undoes
that by sending the consumer back to the record, and nothing else is left to undo.

* `Worker.read?`, the record that a round reads, and `exists_takeUp_of_read?`: what comes before it is taken up;
* `exists_takeUp_of_admitted`, `exists_takeUp_of_refused`: it is taken up, or it is held back;
* `Consumer.ReadsNext`, a record that is the next one of its partition;
* **`Handling.undone_round`**: a round that leaves its record unsettled leaves it the next one of its partition, and
  all other read positions and the bus as they were.
-/

namespace OrderRelay

/-! ## What a round reads -/

namespace Worker

variable {σ ε : Type} {w : Worker σ ε} {s : State} {x : σ} {r : ConsumedRecord}

variable (w s x) in
/-- The record that a round reads. There is none if it finds a reason to stop before. -/
def read? : Option ConsumedRecord :=
  let asked := w.stopRequested x
  let paused := w.pauseDrained s asked.2
  if asked.1 || paused.1.2 then none
  else match (w.consumer.poll w.tick paused.2).1 with
    | .ok answer => answer
    | .error _ => none

/-- A record that is read is taken up next. -/
theorem select_of_read? (h : w.read? s x = some r) : ∃ x₁ s₁ x₂ x₃, w.stopRequested x = (false, x₁) ∧
    w.pauseDrained s x₁ = ((s₁, false), x₂) ∧ w.consumer.poll w.tick x₂ = (.ok (some r), x₃) ∧
    w.select s x = w.takeUp s₁ r x₃ := by
  obtain ⟨asked, x₁, hs⟩ : ∃ asked x₁, w.stopRequested x = (asked, x₁) := ⟨_, _, rfl⟩
  obtain ⟨s₁, complete, x₂, hd⟩ : ∃ s₁ complete x₂, w.pauseDrained s x₁ = ((s₁, complete), x₂) :=
    ⟨_, _, _, rfl⟩
  obtain ⟨answer, x₃, hp⟩ : ∃ answer x₃, w.consumer.poll w.tick x₂ = (answer, x₃) := ⟨_, _, rfl⟩
  simp only [read?, hs, hd, hp] at h
  cases asked <;> cases complete
  case false.false =>
    rcases answer with err | answer
    · exact nomatch h
    · obtain rfl : answer = some r := h
      exact ⟨x₁, s₁, x₂, x₃, hs, hd, hp, select_of_some hs hd hp rfl⟩
  all_goals exact nomatch h

/-- A record that is not done with is counted, and the sweep does not hear of it. -/
theorem conclude_of_unsettled {resolution : Resolution} (h : resolution.isSettled = false) (s : State)
    (r : ConsumedRecord) :
    w.conclude s r resolution = pure { s with stats := s.stats.count resolution } := by
  unfold conclude
  rw [h]
  cases w.recovery <;> rfl

end Worker

/-! ## Nothing is stored if nothing can be -/

/-- A plan that the next tier does not take leaves the bus as it is. -/
theorem Plan.applied_of_redeliver {plan : Plan} {topology : Topology} {now : Int} {b : Bus} {cause : String}
    (h : plan.resolution topology now b = .redeliver cause) : plan.applied topology now b = b := by
  rcases plan.applied_cases topology now b with heq | ⟨next, key, payload, position, rfl, hstored⟩
  · exact heq
  · rw [(Plan.carried_of_ok hstored).2] at h
    exact nomatch h

theorem Account.appliedTo_of_redeliver {a : Account} {topology : Topology} {channel : Channel} {now : Int} {b : Bus}
    {cause : String} (h : a.resolution = .redeliver cause)
    (hplan : a.resolution = a.plan.resolution topology now b) :
    Account.appliedTo topology channel now b (some a) = b := by
  have hstored : a.plan.applied topology now b = b := Plan.applied_of_redeliver (hplan.symm.trans h)
  rw [appliedTo, applied, hstored, h]
  rfl

/-! ## The next record of a partition -/

/-- The record is the next one that the consumer reads from its partition, and there it is for the consumer unless the
partition is paused. -/
structure Consumer.ReadsNext (b : Bus) (c : Consumer) (r : ConsumedRecord) : Prop where
  given : c.pending = false
  next : ∀ r' c', next? b c = some (r', c') → r'.partition = r.partition → r' = r
  offers : c.isPaused r.partition = false → Offers b c r.partition

namespace Consumer

variable {b b' : Bus} {c c₁ c₂ : Consumer} {r : ConsumedRecord}

theorem Delivery.record_eq {stored : StoredRecord} (h : Delivery b c₁ r c₂)
    (hstored : (b.log c₁.channel.name r.partition).get? r.offset = some stored) :
    r = ⟨c₁.channel.name, c₁.channel.group, r.partition, r.offset, some stored.key, stored.payload,
      some stored.timestamp⟩ := by
  obtain ⟨-, stored', -, -, hstored', -, hkey, hpayload, htimestamp⟩ := h.first
  obtain rfl := Option.some.inj (hstored.symm.trans hstored')
  rw [← h.channel_eq, ← h.group_eq, ← hkey, ← hpayload, ← htimestamp]

/-- A consumer that is sent back to a record reads it next, as long as the record is retained. -/
theorem Delivery.readsNext (h : Delivery b c₁ r c₂) (hc : c = { c₂.rewind r with paused := c.paused })
    (hb : (b'.log r.channel r.partition).get? r.offset = (b.log r.channel r.partition).get? r.offset) :
    c.ReadsNext b' r := by
  obtain ⟨-, stored, -, -, hstored, -⟩ := h.first
  have hchannel : c.channel = c₁.channel := by
    rw [hc]
    exact (channel_rewind c₂ r).trans h.rest.1
  have hgiven : c.pending = false := by
    rw [hc]
    exact (pending_rewind c₂ r).trans (h.rest.2.2.2.trans h.given)
  have hposition : c.positions.get? r.partition = some r.offset := by
    rw [hc]
    refine (get?_rewind c₂ r r.partition).trans ((if_pos rfl).trans ?_)
    rw [h.positions, if_pos rfl]
    rfl
  have hretained : (b'.log c.channel.name r.partition).get? r.offset = some stored := by
    rw [hchannel, ← h.channel_eq, hb, h.channel_eq, hstored]
  refine ⟨hgiven, fun r' c' hn hp => ?_, fun hpaused => ?_⟩
  · have h' := delivery_of_next? hgiven hn
    obtain ⟨position', stored', hposition', hle, hstored', hbetween, -⟩ := h'.first
    rw [hp] at hposition' hbetween
    obtain rfl := Option.some.inj (hposition.symm.trans hposition')
    -- The record itself is retained, so nothing after it can come first.
    have hoffset : r'.offset = r.offset := by
      refine Int.le_antisymm (Int.not_lt.mp fun hlt => ?_) hle
      exact nomatch (hbetween r.offset (Int.le_refl _) hlt).symm.trans hretained
    rw [← hp, ← hoffset] at hretained
    rw [h'.record_eq hretained, hchannel, hp, hoffset]
    exact (h.record_eq hstored).symm
  · exact ⟨hpaused, r.offset, r.offset, hposition, Int.le_refl _, by rw [hretained]; rfl⟩

end Consumer

namespace Handling

variable {η ε : Type} (k : Handling η ε) (topology : Topology) (tier : Tier) (mode : Mode) (tick : Text.Duration)

/-! ## The parts of such a round -/

section Parts

variable {s : Worker.State} {x : Stage η} {r : ConsumedRecord}

variable (s x) in
theorem exists_pauseDrained_of_mode : ∃ own c complete,
    (k.worker topology tier mode tick).pauseDrained s x =
      (({ s with paused := own }, complete), { x with scene := { x.scene with consumer := c } }) ∧
    c = { x.scene.consumer with paused := c.paused } := by
  cases mode with
  | feed => exact ⟨s.paused, x.scene.consumer, false, rfl, rfl⟩
  | recovery =>
    let sweep := x.scene.sweep.getD (.start (topology.channelName tier))
    obtain ⟨own, c, h, hh⟩ := exists_foldlM_pause_halted k topology tier tick .recovery
      { s with paused := stillDrained sweep s.paused } x sweep.drained
    refine ⟨own, c, sweep.isComplete, ?_, hh.eq_but_paused⟩
    exact congrArg (fun z : Worker.State × Stage η => ((z.1, sweep.isComplete), z.2)) h

/-- What comes before a record is taken up: the consumer has stopped reading some partitions, and has read it. -/
theorem exists_takeUp_of_read? (hgiven : x.scene.consumer.pending = false)
    (hr : (k.worker topology tier mode tick).read? s x = some r) : ∃ own, ∃ c₁ c₂ : Consumer,
    c₁ = { x.scene.consumer with paused := c₁.paused } ∧ c₁.next? x.scene.bus = some (r, c₂) ∧
      (k.worker topology tier mode tick).select s x =
        (k.worker topology tier mode tick).takeUp { s with paused := own } r
          { x with scene := { x.scene with stopAsked := false, consumer := c₂ } } := by
  obtain ⟨x₁, s₁, x₂, x₃, hs, hd, hp, hselect⟩ := Worker.select_of_read? hr
  obtain rfl : { x with scene := { x.scene with stopAsked := false } } = x₁ := congrArg Prod.snd hs
  obtain ⟨own, c, complete, hpaused, hc⟩ := exists_pauseDrained_of_mode k topology tier mode tick s
    { x with scene := { x.scene with stopAsked := false } }
  obtain ⟨hs₁, rfl⟩ := Prod.mk.inj (hpaused.symm.trans hd)
  obtain ⟨rfl, -⟩ := Prod.mk.inj hs₁
  have hgiven' : c.pending = false := by
    rw [hc]
    exact hgiven
  have hpoll := poll_eq topology tier tick
    (x := { x with scene := { x.scene with stopAsked := false, consumer := c } }) hgiven'
  cases hn : c.next? x.scene.bus with
  | none =>
    rw [hn] at hpoll
    exact nomatch (Prod.mk.inj (hpoll.symm.trans hp)).1
  | some e =>
    rw [hn] at hpoll
    obtain ⟨hanswer, rfl⟩ := Prod.mk.inj (hpoll.symm.trans hp)
    obtain rfl := Option.some.inj (Except.ok.inj hanswer)
    exact ⟨own, c, e.2, hc, hn, hselect⟩

/-- The worker has a sweep, and it does not admit the record. -/
def Refused (x : Stage η) (r : ConsumedRecord) : Prop :=
  mode = .recovery ∧
    ((x.scene.sweep.getD (.start (topology.channelName tier))).judge r.partition r.offset).1 ≠ .process

/-- The place of the sweep holds one that has yet to start, if there is none. -/
theorem update_place {α : Type} (f : Sweep → α × Sweep) :
    (Stage.sweepCell (topology.channelName tier)).update f x =
      ((f (x.scene.sweep.getD (.start (topology.channelName tier)))).1, { x with scene := { x.scene with
        sweep := some (f (x.scene.sweep.getD (.start (topology.channelName tier)))).2 } }) := rfl

/-- A record that is admitted is taken up. -/
theorem exists_takeUp_of_admitted (h : ¬ Refused topology tier mode x r) : ∃ y,
    (k.worker topology tier mode tick).takeUp s r x = ((s, .record r), y) ∧
      y.scene.consumer = x.scene.consumer := by
  cases mode with
  | feed => exact ⟨x, rfl, rfl⟩
  | recovery =>
    have hjudge : ((x.scene.sweep.getD (.start (topology.channelName tier))).judge r.partition r.offset).1 =
        .process := not_not.mp fun hne => h ⟨rfl, hne⟩
    have hreport : (k.worker topology tier .recovery tick).processor.report = Stage.report := rfl
    simp only [Worker.takeUp, recovery_eq, bind, StateT.bind, update_place, hreport, forM_report, hjudge]
    exact ⟨_, rfl, rfl⟩

/-- A record that is not admitted is held back. -/
theorem exists_takeUp_of_refused (h : Refused topology tier mode x r) : ∃ own y,
    (k.worker topology tier mode tick).takeUp s r x = ((⟨own, s.stats.countHeldBack⟩, .nothing), y) ∧
      y.scene.consumer = { x.scene.consumer.rewind r with paused := y.scene.consumer.paused } := by
  obtain ⟨rfl, hjudge⟩ := h
  have hreport : (k.worker topology tier .recovery tick).processor.report = Stage.report := rfl
  let sweep := x.scene.sweep.getD (.start (topology.channelName tier))
  let y : Stage η := { x with scene := { x.scene with
    sweep := some (sweep.judge r.partition r.offset).2
    entries := x.scene.entries ++ sweep.judgeEntries r.partition r.offset } }
  obtain ⟨z, hhold, hz⟩ : ∃ z, (k.worker topology tier .recovery tick).holdBack s r y =
      ({ s with stats := s.stats.countHeldBack }, z) ∧ z.scene.consumer = x.scene.consumer.rewind r := by
    obtain ⟨entries, hhold⟩ := holdBack_eq k topology tier tick s y r
    exact ⟨_, hhold, rfl⟩
  simp only [Worker.takeUp, recovery_eq, bind, StateT.bind, update_place, hreport, forM_report]
  cases ha : (sweep.judge r.partition r.offset).1 with
  | process => exact absurd ha hjudge
  | unassigned =>
    refine ⟨s.paused, z, ?_, by rw [hz]⟩
    exact congrArg (fun u : Worker.State × Stage η => ((u.1, Finding.nothing), u.2)) hhold
  | drained =>
    obtain ⟨own, c, hpause, hh⟩ := exists_pause_halted k topology tier tick .recovery
      ⟨s.paused, s.stats.countHeldBack⟩ z r.partition
    refine ⟨own, { z with scene := { z.scene with consumer := c } }, ?_, ?_⟩
    · exact (congrArg (fun u => (fun v => ((v.1, Finding.nothing), v.2))
        ((k.worker topology tier .recovery tick).pause u.1 r.partition u.2)) hhold).trans
          (congrArg (fun v => ((v.1, Finding.nothing), v.2)) hpause)
    · rw [← hz]
      exact hh.eq_but_paused

/-- A record that is taken up is counted, and unless it is done with the consumer is sent back to it. -/
theorem exists_round_of_record {s₁ : Worker.State} {x₁ : Stage η}
    (hs : (k.worker topology tier mode tick).select s x = ((s₁, .record r), x₁)) : ∃ s₂ plan resolution y,
    (k.worker topology tier mode tick).iterateTold s x = (((s₂, none), some ⟨r, plan, resolution⟩), y) ∧
      (resolution.isSettled = false →
        s₂ = { s₁ with stats := s₁.stats.count resolution } ∧ y.scene.consumer = x₁.scene.consumer.rewind r) := by
  obtain ⟨event, outcome, x₂, he, hx₂⟩ : ∃ event outcome x₂,
      (k.processor topology tier).evaluate r x₁ = ((event, outcome), x₂) ∧
        x₂.scene.consumer = x₁.scene.consumer := by
    obtain ⟨event, outcome, memory, entries, he⟩ := exists_evaluate k topology tier x₁ r
    exact ⟨event, outcome, _, he, rfl⟩
  obtain ⟨resolution, x₃, hcarried, hx₃⟩ : ∃ resolution x₃,
      (k.processor topology tier).carryOut ((k.processor topology tier).plan r (event, outcome)) x₂ =
        (resolution, x₃) ∧ x₃.scene.consumer = x₂.scene.consumer := by
    obtain ⟨stored, -, hcarried⟩ := exists_carryOut k topology tier x₂ _
    exact ⟨_, _, hcarried, rfl⟩
  obtain ⟨x₄, hreported, hx₄⟩ : ∃ x₄, (k.processor topology tier).report
      (Processor.resolvedEntry r ((event.map (·.referenceUri)).getD "") resolution) x₃ = ((), x₄) ∧
        x₄.scene.consumer = x₃.scene.consumer := ⟨_, rfl, rfl⟩
  obtain ⟨x₅, hsettled, hx₅⟩ : ∃ x₅, (k.processor topology tier).settle
      (Stage.subscription (topology.channelName tier)) r resolution x₄ = ((), x₅) ∧
        (resolution.isSettled = false → x₅.scene.consumer = x₄.scene.consumer.rewind r) := by
    refine ⟨((k.processor topology tier).settle _ r resolution x₄).2, rfl, fun h => ?_⟩
    rw [settle_of_unsettled k topology tier x₄ h]
  obtain ⟨s₂, x₆, hconcluded, hx₆⟩ : ∃ s₂ x₆,
      (k.worker topology tier mode tick).conclude s₁ r resolution x₅ = (s₂, x₆) ∧
        (resolution.isSettled = false → s₂ = { s₁ with stats := s₁.stats.count resolution } ∧ x₆ = x₅) := by
    refine ⟨((k.worker topology tier mode tick).conclude s₁ r resolution x₅).1,
      ((k.worker topology tier mode tick).conclude s₁ r resolution x₅).2, rfl, fun h => ?_⟩
    rw [Worker.conclude_of_unsettled h]
    exact ⟨rfl, rfl⟩
  refine ⟨s₂, _, resolution, x₆, Worker.iterateTold_of_record hs he rfl hcarried hreported hsettled hconcluded,
    fun h => ?_⟩
  obtain ⟨hs₂, rfl⟩ := hx₆ h
  exact ⟨hs₂, by rw [hx₅ h, hx₄, hx₃, hx₂]⟩

end Parts

/-! ## Rounds -/

variable {k topology tier mode tick} {s : Worker.State} {x y : Stage η} {r : ConsumedRecord}

/-- The round from `x` to `y` has left the record `r` undone, and nothing else. -/
structure Undone (x : Stage η) (r : ConsumedRecord) (y : Stage η) : Prop where
  bus_eq : y.scene.bus = x.scene.bus
  position_eq : y.scene.consumer.positions.get? r.partition = some r.offset
  others_eq : ∀ p, p ≠ r.partition →
    y.scene.consumer.positions.get? p = x.scene.consumer.positions.get? p
  /-- As long as the record is retained, the consumer reads it again. -/
  again : ∀ b : Bus, (b.log r.channel r.partition).get? r.offset =
    (x.scene.bus.log r.channel r.partition).get? r.offset → y.scene.consumer.ReadsNext b r

/-- Sending the consumer back to the record that it has read leaves it as it was, but for the place of the record. -/
theorem undone_of_rewind {c₁ c₂ : Consumer} (hc : c₁ = { x.scene.consumer with paused := c₁.paused })
    (hgiven : x.scene.consumer.pending = false) (hn : c₁.next? x.scene.bus = some (r, c₂))
    (hbus : y.scene.bus = x.scene.bus)
    (hy : y.scene.consumer = { c₂.rewind r with paused := y.scene.consumer.paused }) : Undone x r y where
  bus_eq := hbus
  position_eq := by
    rw [hy]
    exact ((Consumer.next?_eq_some hn).get?_rewind r.partition).trans (if_pos rfl)
  others_eq p hp := by
    rw [hy]
    exact ((Consumer.next?_eq_some hn).get?_rewind p).trans ((if_neg (Ne.symm hp)).trans (by rw [hc]))
  again b hb := by
    have hgiven' : c₁.pending = false := by
      rw [hc]
      exact hgiven
    exact (Consumer.delivery_of_next? hgiven' hn).readsNext hy hb

/-- A round that holds its record back. -/
theorem undone_of_refused (hgiven : x.scene.consumer.pending = false)
    (hr : (k.worker topology tier mode tick).read? s x = some r) (h : Refused topology tier mode x r) :
    ∃ own y, (k.worker topology tier mode tick).iterateTold s x =
      (((⟨own, s.stats.countHeldBack⟩, none), none), y) ∧ Undone x r y := by
  obtain ⟨own, c₁, c₂, hc, hn, hselect⟩ := exists_takeUp_of_read? k topology tier mode tick hgiven hr
  have h' : Refused topology tier mode
      { x with scene := { x.scene with stopAsked := false, consumer := c₂ } } r := h
  obtain ⟨own', y, htake, hy⟩ := exists_takeUp_of_refused k topology tier mode tick h'
  have hround := Worker.iterateTold_of_nothing (hselect.trans htake)
  have hbus := (accounted_iterateTold k topology tier mode tick s x).bus_eq
  rw [hround] at hbus
  exact ⟨own', y, hround, undone_of_rewind hc hgiven hn hbus hy⟩

/-- A round that processes its record, which the next tier does not take. -/
theorem undone_of_redeliver {a : Account} {cause : String} (hgiven : x.scene.consumer.pending = false)
    (hr : (k.worker topology tier mode tick).read? s x = some r)
    (ha : ((k.worker topology tier mode tick).iterateTold s x).1.2 = some a)
    (hcause : a.resolution = .redeliver cause) :
    a.record = r ∧ ∃ own y, (k.worker topology tier mode tick).iterateTold s x =
      (((⟨own, s.stats.count (.redeliver cause)⟩, none), some a), y) ∧ Undone x r y := by
  obtain ⟨own, c₁, c₂, hc, hn, hselect⟩ := exists_takeUp_of_read? k topology tier mode tick hgiven hr
  have hadmitted : ¬ Refused topology tier mode x r := fun h => by
    obtain ⟨own', y, hround, -⟩ := undone_of_refused hgiven hr h
    rw [hround] at ha
    exact nomatch ha
  obtain ⟨x₁, htake, hx₁⟩ := exists_takeUp_of_admitted k topology tier mode tick (s := { s with paused := own })
    (x := { x with scene := { x.scene with stopAsked := false, consumer := c₂ } }) hadmitted
  obtain ⟨s₂, plan, resolution, y, hround, hunsettled⟩ :=
    exists_round_of_record k topology tier mode tick (hselect.trans htake)
  have haccounted := accounted_iterateTold k topology tier mode tick s x
  have hbus := haccounted.bus_eq
  rw [ha, Account.appliedTo_of_redeliver hcause (haccounted.resolved a ha), hround] at hbus
  rw [hround] at ha
  obtain rfl := Option.some.inj ha
  obtain rfl : resolution = .redeliver cause := hcause
  obtain ⟨rfl, hy⟩ := hunsettled rfl
  refine ⟨rfl, own, y, hround, undone_of_rewind hc hgiven hn hbus ?_⟩
  rw [hy, hx₁]

variable (k topology tier mode tick s x r) in
/-- **A record that is left unsettled leaves no trace.** Whatever a worker of any tier knows, with a sweep in any state
or without one: a round that reads a record and either finds the next tier unavailable or holds the record back leaves
the bus as it was, and the record the next one of its partition. It counts the record once. -/
theorem undone_round (hgiven : x.scene.consumer.pending = false)
    (hr : (k.worker topology tier mode tick).read? s x = some r) :
    (∀ a cause, ((k.worker topology tier mode tick).iterateTold s x).1.2 = some a →
      a.resolution = .redeliver cause →
      a.record = r ∧ Undone x r ((k.worker topology tier mode tick).iterate s x).2 ∧
        ((k.worker topology tier mode tick).iterate s x).1.1.stats = { s.stats with
          processed := s.stats.processed + 1, redelivered := s.stats.redelivered + 1 }) ∧
    (Refused topology tier mode x r →
      Undone x r ((k.worker topology tier mode tick).iterate s x).2 ∧
        ((k.worker topology tier mode tick).iterate s x).1.1.stats =
          { s.stats with heldBack := s.stats.heldBack + 1 }) := by
  rw [Worker.iterate_eq_iterateTold]
  refine ⟨fun a cause ha hcause => ?_, fun h => ?_⟩
  · obtain ⟨hrecord, own, y, hround, hundone⟩ := undone_of_redeliver hgiven hr ha hcause
    rw [hround]
    exact ⟨hrecord, hundone, rfl⟩
  · obtain ⟨own, y, hround, hundone⟩ := undone_of_refused hgiven hr h
    rw [hround]
    exact ⟨hundone, rfl⟩

/-- The second partition of the main channel keeps the second of its two records, that of the error channel has one
record, and the retry channel takes none. -/
def noCopies : Bus :=
  [.publish ⟨"k", [2, 97], "order-received", 0⟩ 1, .publish ⟨"k", [2, 98], "order-received", 0⟩ 1,
    .truncate "order-received" 1 1, .publish ⟨"k", [2, 99], "order-received-error", 0⟩ 1,
    .setUnavailable "order-received-retry" true].foldl (fun b (o : Outside Unit) => o.alter b) (.ofPartitions 2)

/-- A consumer that has joined before, with a sweep that never was assigned a partition. -/
def stranded (tier : Tier) : Stage Unit :=
  ⟨⟨noCopies, some (.start "order-received-error"),
    (Consumer.join Scene.listener (.ofPartitions 2) (Topology.standard.channel tier) "a" none).consumer, false, 0, []⟩,
    (), []⟩

/-- One record is read again from where retention left it, and one is held back. -/
theorem undone_round_stranded :
    ((refusing.worker .standard .main .feed ⟨0⟩).iterate (refusing.worker .standard .main .feed ⟨0⟩).start
        (stranded .main)).1.1.stats.redelivered = 1 ∧
      Undone (stranded .main)
        ⟨"order-received", "item-handler-order-received", 1, 1, some "k", [2, 98], some 0⟩
        ((refusing.worker .standard .main .feed ⟨0⟩).iterate (refusing.worker .standard .main .feed ⟨0⟩).start
          (stranded .main)).2 ∧
      Undone (stranded .error)
        ⟨"order-received-error", "item-handler-order-received-error", 1, 0, some "k", [2, 99], some 0⟩
        ((refusing.worker .standard .error .recovery ⟨0⟩).iterate
          (refusing.worker .standard .error .recovery ⟨0⟩).start (stranded .error)).2 := by
  have hmain := undone_round refusing .standard .main .feed ⟨0⟩ (refusing.worker .standard .main .feed ⟨0⟩).start
    (stranded .main) ⟨"order-received", "item-handler-order-received", 1, 1, some "k", [2, 98], some 0⟩
    (by decide +kernel) (by decide +kernel)
  have herror := undone_round refusing .standard .error .recovery ⟨0⟩
    (refusing.worker .standard .error .recovery ⟨0⟩).start (stranded .error)
    ⟨"order-received-error", "item-handler-order-received-error", 1, 0, some "k", [2, 99], some 0⟩
    (by decide +kernel) (by decide +kernel)
  obtain ⟨-, hundone, -⟩ := hmain.1 ⟨⟨"order-received", "item-handler-order-received", 1, 1, some "k", [2, 98], some 0⟩,
    .escalate .retry "order-received-retry" [2, 98],
    .redeliver "order-received-retry unavailable: channel marked unavailable"⟩ _ (by decide +kernel) rfl
  exact ⟨by decide +kernel, hundone, (herror.2 ⟨rfl, by decide +kernel⟩).1⟩

end Handling

end OrderRelay
