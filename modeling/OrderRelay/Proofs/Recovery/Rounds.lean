import OrderRelay.Proofs.Processing.Plan
import OrderRelay.Proofs.Recovery.Parts
import OrderRelay.Proofs.Worker.Alike

/-!
# Rounds of a sweep

What a round of the worker that sweeps the last tier does to the bus, the sweep and the consumer, and which
account it gives of itself.

* `Rig`, the part of the state on which a sweep depends, with what the worker did so far;
* `exists_checkRetention`, `exists_iterateTold_of_record`: looking at retention, and processing;
* `Round`, the five ways a round can go, and **`round_iterateTold`**: there are no others.
-/

namespace OrderRelay

open Log

/-- The part of the state on which a sweep depends. -/
structure Rig where
  bus : Bus
  sweep : Sweep
  consumer : Consumer
  /-- The partitions that the worker remembers to have stopped reading. -/
  paused : PartitionSet
  deeds : List Deed

/-- What is left once the worker has stopped reading all that is drained. -/
def Rig.Halts (g : Rig) (own : PartitionSet) (c : Consumer) : Prop :=
  Halted g.sweep.drained (Handling.stillDrained g.sweep g.paused) g.consumer own c

/-- What a round can make of the rig, with the account of the record that was handed over and the reason to
stop. In all but the first case the worker has stopped reading what is drained. -/
inductive Round (channel : String) (g : Rig) : Rig → Option Account → Option Stop → Prop where
  | asked : Round channel g g none (some .requested)
  | ended {own : PartitionSet} {c : Consumer} (halts : g.Halts own c)
      (complete : g.sweep.isComplete = true) :
      Round channel g { g with consumer := c, paused := own } none (some .sweepComplete)
  /-- There is nothing to read, and the worker has looked at retention. -/
  | idle {own : PartitionSet} {c : Consumer} {ns : List Note} (halts : g.Halts own c)
      (heard : ∀ n ∈ ns, ∃ p, n = .observed p (g.bus.low channel p)) :
      Round channel g { g with sweep := g.sweep.hearAll ns, consumer := c, paused := own } none none
  /-- A record outside the windows is held back, and its partition may not be read any more. -/
  | held {own own' : PartitionSet} {c c₁ c₂ : Consumer} {r : ConsumedRecord} {ps : List Int}
      (halts : g.Halts own c) (read : Consumer.Read g.bus c r c₁)
      (outside : ∀ w, g.sweep.windows.get? r.partition = some w → w.drained = true ∨ w.last < r.offset)
      (halted : Halted ps own (c₁.rewind r) own' c₂) :
      Round channel g
        { g with
          sweep := g.sweep.hear (.judged r.partition r.offset)
          consumer := c₂
          paused := own'
          deeds := g.deeds ++ [.rewound r] }
        none none
  /-- A record inside the windows is handed over and settled. -/
  | handed {own : PartitionSet} {c c₁ : Consumer} {w : Window} {a : Account}
      (halts : g.Halts own c) (read : Consumer.Read g.bus c a.record c₁)
      (window : g.sweep.windows.get? a.record.partition = some w) (undrained : w.drained = false)
      (inside : a.record.offset ≤ w.last) (settled : a.resolution.isSettled = true) :
      Round channel g
        ⟨c₁.committedBy g.bus a.record, g.sweep.hear (.settled a.record.partition a.record.offset), c₁, own,
          g.deeds ++ [.committed a.record]⟩
        (some a) none

namespace Handling

variable {η ε : Type} (k : Handling η ε) (topology : Topology) (tick : Text.Duration)

/-- The worker that sweeps the last tier. -/
def sweeper : Worker (Stage η) ε := k.worker topology .error .recovery tick

/-! ## Looking at retention -/

section Looking

variable {x : Stage η} {sweep : Sweep}

theorem exists_forM_look (ps : List Int) (hx : x.scene.sweep = some sweep) : ∃ ns entries,
    ps.forM (k.sweeper topology tick).look x =
      ((), { x with scene := { x.scene with sweep := some (sweep.hearAll ns), entries } }) ∧
    ∀ n ∈ ns, ∃ p, n = .observed p (x.scene.bus.low (topology.channelName .error) p) := by
  induction ps generalizing x sweep with
  | nil =>
    refine ⟨[], x.scene.entries, ?_, by simp⟩
    rw [Sweep.hearAll_nil, ← hx]
    rfl
  | cons p ps ih =>
    obtain ⟨entries, h⟩ := exists_look k topology .error tick hx p
    let low := x.scene.bus.low (topology.channelName .error) p
    let heard : List Note :=
      if x.scene.bus.failing (topology.channelName .error) then [] else [.observed p low]
    have hheard : (if x.scene.bus.failing (topology.channelName .error) then sweep
        else sweep.hear (.observed p low)) = sweep.hearAll heard := by
      simp only [heard]
      split <;> rfl
    rw [hheard] at h
    obtain ⟨ns, entries', h', hn⟩ := ih
      (x := { x with scene := { x.scene with sweep := some (sweep.hearAll heard), entries } }) rfl
    refine ⟨heard ++ ns, entries', ?_, fun n hm => ?_⟩
    · have hcons : (p :: ps).forM (k.sweeper topology tick).look x =
          ps.forM (k.sweeper topology tick).look ((k.sweeper topology tick).look p x).2 := rfl
      rw [hcons, show (k.sweeper topology tick).look p x = _ from h, h', Sweep.hearAll_append]
    · rcases List.mem_append.mp hm with hm | hm
      · simp only [heard] at hm
        split at hm
        · exact absurd hm List.not_mem_nil
        · exact ⟨p, List.mem_singleton.mp hm⟩
      · exact hn n hm

theorem exists_checkRetention (hx : x.scene.sweep = some sweep) : ∃ ns entries,
    (k.sweeper topology tick).checkRetention x =
      ((), { x with scene := { x.scene with sweep := some (sweep.hearAll ns), entries } }) ∧
    ∀ n ∈ ns, ∃ p, n = .observed p (x.scene.bus.low (topology.channelName .error) p) := by
  obtain ⟨ns, entries, h, hn⟩ := exists_forM_look k topology tick sweep.pending hx
  have hunread : (k.sweeper topology tick).unread x = (sweep.pending, x) := by
    simp only [sweeper, Worker.unread, recovery_eq, bind, StateT.bind, read_sweepCell topology .error hx]
    rfl
  refine ⟨ns, entries, ?_, hn⟩
  rw [Worker.checkRetention_eq, hunread, h]

end Looking

/-! ## Processing -/

/-- A record that is processed is settled: it is committed, and the sweep hears of it. -/
theorem exists_iterateTold_of_record {s s₁ : Worker.State} {x y : Stage η} {sweep : Sweep}
    {r : ConsumedRecord} (h : (k.sweeper topology tick).select s x = ((s₁, .record r), y))
    (hy : y.scene.sweep = some sweep) : ∃ stats memory entries a,
    (k.sweeper topology tick).iterateTold s x =
      ((({ s₁ with stats }, none), some a), { y with
        scene := { y.scene with
          bus := y.scene.consumer.committedBy y.scene.bus r
          sweep := some (sweep.hear (.settled r.partition r.offset))
          entries }
        memory
        deeds := y.deeds ++ [.committed r] }) ∧
    a.record = r ∧ a.resolution.isSettled = true := by
  obtain ⟨event, outcome, memory, entries, he⟩ := exists_evaluate k topology .error y r
  obtain ⟨resolution, hplan, hres⟩ := Processor.exists_plan_of_last
    (p := k.processor topology .error) rfl r event outcome
  let z : Stage η := { y with
    scene := { y.scene with entries := entries ++
      [Processor.resolvedEntry r ((event.map (·.referenceUri)).getD "") resolution] }
    memory }
  have hsettle := settle_of_settled k topology .error z (r := r) hres
  obtain ⟨stats, entries', hconclude⟩ := exists_conclude_of_sweep k topology .error tick s₁
    (x := { z with
      scene := { z.scene with bus := z.scene.consumer.committedBy z.scene.bus r }
      deeds := z.deeds ++ [.committed r] }) hy r resolution
  rw [hres, if_pos rfl] at hconclude
  exact ⟨stats, memory, entries', _,
    Worker.iterateTold_of_record h he hplan rfl rfl hsettle hconclude, rfl, hres⟩

/-! ## Rounds -/

/-- The rig of a worker, with its sweep. -/
def rig (s : Worker.State) (x : Stage η) (sweep : Sweep) : Rig :=
  ⟨x.scene.bus, sweep, x.scene.consumer, s.paused, x.deeds⟩

/-- A round, in terms of what a sweep depends on. -/
def Goes (channel : String) (g : Rig) (e : ((Worker.State × Option Stop) × Option Account) × Stage η) :
    Prop :=
  ∃ sweep, e.2.scene.sweep = some sweep ∧ Round channel g (rig e.1.1.1 e.2 sweep) e.1.2 e.1.1.2

variable {s : Worker.State} {x : Stage η} {sweep : Sweep}

/-- The ways a round can go with a record that was read. -/
theorem goes_of_read {s₁ : Worker.State} {c c₁ : Consumer} {r : ConsumedRecord}
    (hx : x.scene.sweep = some sweep) (hp : c.pending = false)
    (hs : (k.sweeper topology tick).stopRequested x = (false, x))
    (hd : (k.sweeper topology tick).pauseDrained s x =
      ((s₁, false), { x with scene := { x.scene with consumer := c } }))
    (halts : (rig s x sweep).Halts s₁.paused c) (hn : c.next? x.scene.bus = some (r, c₁)) :
    Goes (topology.channelName .error) (rig s x sweep) ((k.sweeper topology tick).iterateTold s x) := by
  let y : Stage η := { x with scene := { x.scene with consumer := c } }
  let z : Stage η := { x with scene := { x.scene with consumer := c₁ } }
  have hpoll := poll_eq topology .error tick (x := y) hp
  rw [show y.scene.consumer.next? y.scene.bus = some (r, c₁) from hn] at hpoll
  have hread := Consumer.next?_eq_some hn
  cases hw : sweep.windows.get? r.partition with
  | none =>
    obtain ⟨stats, entries, ht⟩ := takeUp_unassigned k topology .error tick (s := s₁) (x := z) hx hw
    have heard : sweep.hear (.judged r.partition r.offset) = sweep := by
      simp only [Sweep.hear, Sweep.judge, hw]
    rw [Worker.iterateTold_of_nothing (Worker.select_of_some hs hd hpoll ht)]
    refine ⟨sweep, hx, ?_⟩
    have hround : Round (topology.channelName .error) (rig s x sweep) _ _ _ :=
      .held halts hread (fun w h => absurd hw (h ▸ Option.some_ne_none w)) (.nil s₁.paused (c₁.rewind r))
    rw [show (rig s x sweep).sweep.hear _ = sweep from heard] at hround
    exact hround
  | some w =>
    by_cases hin : w.drained = false ∧ r.offset ≤ w.last
    · have ht := takeUp_process k topology .error tick (s := s₁) (x := z) hx hw hin.1 hin.2
      obtain ⟨stats, memory, entries, a, ha, rfl, hsettled⟩ :=
        exists_iterateTold_of_record k topology tick (Worker.select_of_some hs hd hpoll ht) hx
      rw [ha]
      exact ⟨_, rfl, .handed halts hread hw hin.1 hin.2 hsettled⟩
    · have hpast : w.drained = true ∨ w.last < r.offset := by
        cases hdrained : w.drained with
        | true => exact .inl rfl
        | false => exact .inr (Int.not_le.mp fun hle => hin ⟨hdrained, hle⟩)
      obtain ⟨s₂, own, c₂, entries, ht, rfl, halted⟩ :=
        exists_takeUp_drained k topology .error tick (s := s₁) (x := z) hx hw hpast
      rw [Worker.iterateTold_of_nothing (Worker.select_of_some hs hd hpoll ht)]
      refine ⟨_, rfl, .held halts hread (fun w' hw' => ?_) halted⟩
      obtain rfl := Option.some.inj (hw.symm.trans hw')
      exact hpast

/-- **The ways a round can go.** -/
theorem round_iterateTold (hx : x.scene.sweep = some sweep) (hp : x.scene.consumer.pending = false) :
    Goes (topology.channelName .error) (rig s x sweep) ((k.sweeper topology tick).iterateTold s x) := by
  cases hstop : x.scene.stopAsked with
  | true =>
    have hs : (k.sweeper topology tick).stopRequested x =
        (true, { x with scene := { x.scene with stopAsked := false } }) := by
      obtain ⟨⟨bus, sweep, consumer, stopAsked, now, entries⟩, memory, deeds⟩ := x
      subst hstop
      rfl
    rw [Worker.iterateTold_of_stop (Worker.select_of_asked hs)]
    exact ⟨sweep, hx, .asked⟩
  | false =>
    have hs : (k.sweeper topology tick).stopRequested x = (false, x) :=
      stopRequested_eq k topology .error tick .recovery hstop
    obtain ⟨own, c, hd, halts⟩ := exists_pauseDrained_halted k topology .error tick s hx
    cases hcomplete : sweep.isComplete with
    | true =>
      rw [hcomplete] at hd
      rw [Worker.iterateTold_of_stop (Worker.select_of_complete hs hd rfl)]
      exact ⟨sweep, hx, .ended halts hcomplete⟩
    | false =>
      rw [hcomplete] at hd
      let y : Stage η := { x with scene := { x.scene with consumer := c } }
      have hy : y.scene.consumer.pending = false := halts.pending_eq.trans hp
      cases hn : c.next? x.scene.bus with
      | none =>
        have hpoll := poll_eq topology .error tick hy
        rw [show y.scene.consumer.next? y.scene.bus = none from hn] at hpoll
        obtain ⟨ns, entries, hcheck, hheard⟩ := exists_checkRetention k topology tick (x := y) hx
        rw [Worker.iterateTold_of_nothing (Worker.select_of_none hs hd hpoll hcheck)]
        exact ⟨_, rfl, .idle halts hheard⟩
      | some e =>
        obtain ⟨r, c₁⟩ := e
        exact goes_of_read k topology tick hx hy hs hd halts hn

end Handling

end OrderRelay
