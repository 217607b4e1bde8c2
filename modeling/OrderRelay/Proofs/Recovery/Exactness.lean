import OrderRelay.Proofs.Bus.Outside
import OrderRelay.Proofs.Recovery.Joining
import OrderRelay.Proofs.Recovery.Rounds

/-!
# Exactness of a sweep

A sweep hands over the records that its partitions retained as it began, each at most once and in order, and
nothing that came later. It commits what it handed over, and nothing else. Once it is complete, it has left
out only what retention had removed. This holds for any number of partitions, any handler, and any order of
rounds, publishes, truncations and outages.

* `SweepRun`, a worker that sweeps, with an account of all that it handed over, `SweepAct` and
  `Handling.sweepRun`;
* `Sweeping`, the invariant for one partition: what lies below the read position was handed over or removed,
  and so was all of a drained window;
* `Sweeping.round`, every round keeps it;
* **`exact_sweepRun`**: exactness at any time of a run.
-/

namespace OrderRelay

open Log

/-- The offsets of the records of one partition. -/
def offsetsIn (p : Int) (rs : List ConsumedRecord) : List Int :=
  (rs.filter fun r => r.partition = p).map (·.offset)

theorem offsetsIn_append (p : Int) (rs rs' : List ConsumedRecord) :
    offsetsIn p (rs ++ rs') = offsetsIn p rs ++ offsetsIn p rs' := by
  rw [offsetsIn, List.filter_append, List.map_append]
  rfl

theorem offsetsIn_singleton (p : Int) (r : ConsumedRecord) :
    offsetsIn p [r] = if r.partition = p then [r.offset] else [] := by
  by_cases h : r.partition = p <;> simp [offsetsIn, h]

/-- The record that was committed. -/
def Deed.committed? : Deed → Option ConsumedRecord
  | committed r => some r
  | _ => none

/-- A worker that sweeps the last tier, with an account of each record that it has handed over. -/
structure SweepRun (η : Type) where
  stage : Stage η
  state : Worker.State
  stopped : Option Stop
  accounts : List Account
  history : List Event

/-- The records handed over for processing, in order. -/
def SweepRun.handed {η : Type} (f : SweepRun η) : List ConsumedRecord := f.accounts.map (·.record)

/-- What can happen next in a sweep. -/
inductive SweepAct (η : Type) where
  | round
  | outside (o : Outside η)
  | askStop

namespace Handling

variable {η ε : Type} (k : Handling η ε) (topology : Topology) (tick : Text.Duration)

/-- A sweep that is about to begin: the consumer has just joined, and the sweep `prior` listens to it. -/
def sweepOpening (b : Bus) (name : String) (prior : Sweep) (memory : η) (now : Int) : SweepRun η :=
  let a := Consumer.join Scene.listener b (topology.channel .error) name (some prior)
  ⟨⟨⟨b, a.state, a.consumer, false, now, a.entries⟩, memory, []⟩, (k.sweeper topology tick).start, none,
    [], []⟩

/-- The sweep after something has happened. Nothing more happens in it once the worker has stopped. -/
def sweepPerform (f : SweepRun η) (a : SweepAct η) : SweepRun η :=
  match f.stopped, a with
  | some _, _ => f
  | none, .round =>
    let (((state, stopped), account), stage) := (k.sweeper topology tick).iterateTold f.state f.stage
    { f with stage, state, stopped, accounts := f.accounts ++ account.toList }
  | none, .outside o =>
    { f with
      stage := { f.stage with
        scene := { f.stage.scene with
          bus := o.alter f.stage.scene.bus, now := o.time f.stage.scene.now }
        memory := o.mind f.stage.memory }
      history := f.history ++ o.events f.stage.scene.bus }
  | none, .askStop =>
    { f with stage := { f.stage with scene := { f.stage.scene with stopAsked := true } } }

/-- The sweep after several things have happened, one after the other. -/
def sweepRun (f : SweepRun η) (acts : List (SweepAct η)) : SweepRun η :=
  acts.foldl (k.sweepPerform topology tick) f

end Handling

/-! ## The invariant -/

/-- What holds of a partition during a sweep that began with the bus `start`, when the offsets `os` of it have
been handed over. The window ends with the offset `last`. -/
structure Sweeping (channel : Channel) (start : Bus) (p last : Int) (g : Rig) (os : List Int) : Prop where
  channel_eq : g.consumer.channel = channel
  pending_eq : g.consumer.pending = false
  /-- Below the read position, everything was handed over or is no longer retained. -/
  exists_position : ∃ position, g.consumer.positions.get? p = some position ∧
    start.low channel.name p ≤ position ∧ (∀ o ∈ os, o < position) ∧
    ∀ o, start.low channel.name p ≤ o → o < position → o ∈ os ∨ o < g.bus.low channel.name p
  /-- So was everything in the window, if it is drained. It is, once its last record was handed over. -/
  exists_window : ∃ w, g.sweep.windows.get? p = some w ∧ w.last = last ∧ (last ∈ os → w.drained = true) ∧
    (w.drained = true →
      ∀ o, start.low channel.name p ≤ o → o ≤ last → o ∈ os ∨ o < g.bus.low channel.name p)
  bounded : ∀ o ∈ os, start.low channel.name p ≤ o ∧ o ≤ last
  increasing : os.Pairwise (· < ·)
  committed_eq : g.bus.committed channel.name channel.group p =
    os.getLast?.elim (start.committed channel.name channel.group p) (some <| · + 1)

section Invariant

variable {channel : Channel} {start : Bus} {p last : Int} {g g' : Rig} {os : List Int}

/-- Retention can only help, and so can a consumer that reads less. -/
theorem Sweeping.mono (h : Sweeping channel start p last g os)
    (hlow : g.bus.low channel.name p ≤ g'.bus.low channel.name p)
    (hcommitted : g'.bus.committed = g.bus.committed)
    (hsweep : g'.sweep = g.sweep) {own own' : PartitionSet} {ps : List Int}
    (halted : Halted ps own g.consumer own' g'.consumer) :
    Sweeping channel start p last g' os := by
  obtain ⟨position, hpos, hstart, hlt, hbelow⟩ := h.exists_position
  obtain ⟨w, hw, hl, hmem, hdrained⟩ := h.exists_window
  exact {
    channel_eq := halted.channel_eq.trans h.channel_eq
    pending_eq := halted.pending_eq.trans h.pending_eq
    exists_position := by
      rw [halted.positions_eq]
      exact ⟨position, hpos, hstart, hlt, fun o ho ho' => (hbelow o ho ho').imp_right (by omega)⟩
    exists_window := by
      rw [hsweep]
      exact ⟨w, hw, hl, hmem, fun hd o ho ho' => (hdrained hd o ho ho').imp_right (by omega)⟩
    bounded := h.bounded
    increasing := h.increasing
    committed_eq := by
      rw [hcommitted]
      exact h.committed_eq }

/-- The window after the sweep has heard of something, and `os'` have been handed over: if it is drained now,
it was drained before, or what was heard reaches its end. -/
theorem Sweeping.exists_window_hearAll (h : Sweeping channel start p last g os) (ns : List Note)
    {os' : List Int} (hos : ∀ o ∈ os, o ∈ os') (hlast : last ∈ os' → last ∈ os ∨ .settled p last ∈ ns)
    (hns : ∀ n ∈ ns, n.partition = p → n.reaches last = true →
      ∀ o, start.low channel.name p ≤ o → o ≤ last → o ∈ os' ∨ o < g.bus.low channel.name p) :
    ∃ w, (g.sweep.hearAll ns).windows.get? p = some w ∧ w.last = last ∧ (last ∈ os' → w.drained = true) ∧
      (w.drained = true →
        ∀ o, start.low channel.name p ≤ o → o ≤ last → o ∈ os' ∨ o < g.bus.low channel.name p) := by
  obtain ⟨w, hw, hl, hmem, hdrained⟩ := h.exists_window
  obtain ⟨w', hw', hl', hkept⟩ := Sweep.exists_get?_hearAll hw ns
  refine ⟨w', hw', hl'.trans hl, fun hm => ?_, fun hd o ho ho' => ?_⟩
  · rcases hlast hm with hm | hn
    · exact hkept (hmem hm)
    · obtain ⟨w'', hw'', hd⟩ := Sweep.drained_hearAll_of_mem hw (hl.symm ▸ hn)
      obtain rfl := Option.some.inj (hw'.symm.trans hw'')
      exact hd
  · rcases Sweep.exists_reaches hw hw' hd with hd | ⟨n, hn, hp, hr⟩
    · exact (hdrained hd o ho ho').imp_left (hos o)
    · exact hns n hn hp (hl ▸ hr) o ho ho'

/-- Whatever lies below a record that was just read was handed over or is no longer retained. -/
theorem Sweeping.below_read (h : Sweeping channel start p last g os) {own : PartitionSet} {c c₁ : Consumer}
    (halts : g.Halts own c) {r : ConsumedRecord} (read : Consumer.Read g.bus c r c₁)
    (hp : r.partition = p) :
    start.low channel.name p ≤ r.offset ∧ (∀ o ∈ os, o < r.offset) ∧
      ∀ o, start.low channel.name p ≤ o → o < r.offset → o ∈ os ∨ o < g.bus.low channel.name p := by
  obtain ⟨position, hpos, hstart, hlt, hbelow⟩ := h.exists_position
  obtain ⟨position', stored, hpos', ho, -⟩ := read.exists_position
  have hc : c.channel = channel := halts.channel_eq.trans h.channel_eq
  rw [halts.positions_eq, hp] at hpos'
  obtain rfl := Option.some.inj (hpos.symm.trans hpos')
  rw [hp, hc] at ho
  refine ⟨by omega, fun o hm => ?_, fun o hs hlt' => ?_⟩
  · have := hlt o hm
    omega
  · by_cases hb : o < position
    · exact hbelow o hs hb
    · exact .inr (by omega)

theorem Sweeping.held (h : Sweeping channel start p last g os) {own own' : PartitionSet}
    {c c₁ c₂ : Consumer} {r : ConsumedRecord} {ps : List Int} (halts : g.Halts own c)
    (read : Consumer.Read g.bus c r c₁) (halted : Halted ps own (c₁.rewind r) own' c₂) (ds : List Deed) :
    Sweeping channel start p last
      ⟨g.bus, g.sweep.hear (.judged r.partition r.offset), c₂, own', ds⟩ os where
  channel_eq := halted.channel_eq.trans ((Consumer.channel_rewind c₁ r).trans
    (read.channel_eq.trans (halts.channel_eq.trans h.channel_eq)))
  pending_eq := halted.pending_eq.trans ((Consumer.pending_rewind c₁ r).trans
    (read.pending_eq.trans (halts.pending_eq.trans h.pending_eq)))
  exists_position := by
    rw [halted.positions_eq, read.get?_rewind, halts.positions_eq]
    split
    · rename_i hp
      exact ⟨r.offset, rfl, h.below_read halts read hp⟩
    · exact h.exists_position
  exists_window := h.exists_window_hearAll [.judged r.partition r.offset] (fun _ => id) .inl
    fun n hn hp hr => by
      obtain rfl := List.mem_singleton.mp hn
      have hlt : last < r.offset := by simpa [Note.reaches] using hr
      exact fun o ho ho' => (h.below_read halts read hp).2.2 o ho (by omega)
  bounded := h.bounded
  increasing := h.increasing
  committed_eq := h.committed_eq

theorem Sweeping.idle (h : Sweeping channel start p last g os) {own : PartitionSet} {c : Consumer}
    {ns : List Note} (halts : g.Halts own c)
    (hns : ∀ n ∈ ns, ∃ q, n = .observed q (g.bus.low channel.name q)) :
    Sweeping channel start p last { g with sweep := g.sweep.hearAll ns, consumer := c, paused := own } os where
  channel_eq := halts.channel_eq.trans h.channel_eq
  pending_eq := halts.pending_eq.trans h.pending_eq
  exists_position := by
    rw [halts.positions_eq]
    exact h.exists_position
  exists_window := h.exists_window_hearAll ns (fun _ => id) .inl fun n hn hp hr => by
    obtain ⟨q, rfl⟩ := hns n hn
    obtain rfl : q = p := hp
    have hlt : last < g.bus.low channel.name q := by simpa [Note.reaches] using hr
    exact fun o _ ho => .inr (by omega)
  bounded := h.bounded
  increasing := h.increasing
  committed_eq := h.committed_eq

section Handed

variable {own : PartitionSet} {c c₁ : Consumer} {r : ConsumedRecord}

/-- A record of another partition was handed over. -/
theorem Sweeping.handed_elsewhere (h : Sweeping channel start p last g os) (halts : g.Halts own c)
    (read : Consumer.Read g.bus c r c₁) (hp : r.partition ≠ p) (ds : List Deed) :
    Sweeping channel start p last
      ⟨c₁.committedBy g.bus r, g.sweep.hear (.settled r.partition r.offset), c₁, own, ds⟩ os where
  channel_eq := read.channel_eq.trans (halts.channel_eq.trans h.channel_eq)
  pending_eq := read.pending_eq.trans (halts.pending_eq.trans h.pending_eq)
  exists_position := by
    rw [read.get?_positions, if_neg hp, halts.positions_eq]
    exact h.exists_position
  exists_window := h.exists_window_hearAll [.settled r.partition r.offset] (fun _ => id) .inl
    fun n hn hp' => by
      obtain rfl := List.mem_singleton.mp hn
      exact absurd hp' hp
  bounded := h.bounded
  increasing := h.increasing
  committed_eq := by
    rw [Consumer.committedBy, Bus.committed_commit, if_neg fun hh => hp hh.2.2.symm]
    exact h.committed_eq

/-- A record of the partition was handed over, which lies in the window. -/
theorem Sweeping.handed_here (h : Sweeping channel start p last g os) (halts : g.Halts own c)
    (read : Consumer.Read g.bus c r c₁) (hp : r.partition = p) (hlast : r.offset ≤ last) (ds : List Deed) :
    Sweeping channel start p last
      ⟨c₁.committedBy g.bus r, g.sweep.hear (.settled r.partition r.offset), c₁, own, ds⟩
      (os ++ [r.offset]) := by
  obtain ⟨hstart, hlt, hbelow⟩ := h.below_read halts read hp
  have hc : c₁.channel = channel :=
    read.channel_eq.trans (halts.channel_eq.trans h.channel_eq)
  have hupto (o : Int) (ho : start.low channel.name p ≤ o) (ho' : o ≤ r.offset) :
      o ∈ os ++ [r.offset] ∨ o < g.bus.low channel.name p := by
    by_cases heq : o = r.offset
    · exact .inl (List.mem_append_right os (List.mem_singleton.mpr heq))
    · exact (hbelow o ho (by omega)).imp_left (List.mem_append_left _)
  exact {
    channel_eq := hc
    pending_eq := read.pending_eq.trans (halts.pending_eq.trans h.pending_eq)
    exists_position := by
      refine ⟨r.offset + 1, by rw [read.get?_positions, if_pos hp], by omega, fun o ho => ?_,
        fun o ho ho' => hupto o ho (by omega)⟩
      rcases List.mem_append.mp ho with ho | ho
      · have := hlt o ho
        omega
      · have := List.mem_singleton.mp ho
        omega
    exists_window := h.exists_window_hearAll [.settled r.partition r.offset]
      (fun o ho => List.mem_append_left _ ho)
      (fun hm => (List.mem_append.mp hm).imp_right fun hm => by
        rw [hp, List.mem_singleton.mp hm]
        exact List.mem_cons_self)
      fun n hn _ hr o ho ho' => by
        obtain rfl := List.mem_singleton.mp hn
        have hle : last ≤ r.offset := by simpa [Note.reaches] using hr
        exact hupto o ho (by omega)
    bounded := fun o ho => by
      rcases List.mem_append.mp ho with ho | ho
      · exact h.bounded o ho
      · have := List.mem_singleton.mp ho
        omega
    increasing := List.pairwise_append.mpr ⟨h.increasing, List.pairwise_singleton _ _,
      fun o ho o' ho' => List.mem_singleton.mp ho' ▸ hlt o ho⟩
    committed_eq := by
      rw [List.getLast?_concat, Consumer.committedBy, Bus.committed_commit, hc, if_pos ⟨rfl, rfl, hp.symm⟩]
      rfl }

theorem Sweeping.handed (h : Sweeping channel start p last g os) {w : Window} (halts : g.Halts own c)
    (read : Consumer.Read g.bus c r c₁) (window : g.sweep.windows.get? r.partition = some w)
    (inside : r.offset ≤ w.last) (ds : List Deed) :
    Sweeping channel start p last
      ⟨c₁.committedBy g.bus r, g.sweep.hear (.settled r.partition r.offset), c₁, own, ds⟩
      (os ++ offsetsIn p [r]) := by
  rw [offsetsIn_singleton]
  by_cases hp : r.partition = p
  · obtain ⟨w', hw', hl, -⟩ := h.exists_window
    obtain rfl := Option.some.inj ((hp ▸ window).symm.trans hw')
    rw [if_pos hp]
    exact h.handed_here halts read hp (hl ▸ inside) ds
  · rw [if_neg hp, List.append_nil]
    exact h.handed_elsewhere halts read hp ds

end Handed

/-- **Every round keeps the invariant.** -/
theorem Sweeping.round (h : Sweeping channel start p last g os) {account : Option Account}
    {stop : Option Stop} (hr : Round channel.name g g' account stop) :
    Sweeping channel start p last g' (os ++ offsetsIn p (account.toList.map (·.record))) := by
  cases hr with
  | asked => exact (List.append_nil os).symm ▸ h
  | ended halts => exact (List.append_nil os).symm ▸ h.mono (Int.le_refl _) rfl rfl halts
  | idle halts heard => exact (List.append_nil os).symm ▸ h.idle halts heard
  | held halts read _ halted => exact (List.append_nil os).symm ▸ h.held halts read halted _
  | handed halts read window _ inside => exact h.handed halts read window inside _

end Invariant

/-! ## Runs -/

variable {η : Type}

/-- What is to hold of a partition at any time of a sweep that began with the bus `start`, if the window of
the partition ends with the offset `last`. -/
structure Exact (channel : Channel) (start : Bus) (p last : Int) (f : SweepRun η) : Prop where
  /-- Records are handed over in order, none of them twice. -/
  increasing : (offsetsIn p f.handed).Pairwise (· < ·)
  /-- Only what the partition held in the beginning is handed over. -/
  bounded : ∀ o ∈ offsetsIn p f.handed, start.low channel.name p ≤ o ∧ o ≤ last
  /-- Every record handed over is done with. -/
  settled : ∀ a ∈ f.accounts, a.resolution.isSettled = true
  /-- The records committed are those handed over, in the same order. -/
  commits : f.stage.deeds.filterMap Deed.committed? = f.handed
  committed_eq : f.stage.scene.bus.committed channel.name channel.group p =
    (offsetsIn p f.handed).getLast?.elim (start.committed channel.name channel.group p) (some <| · + 1)
  /-- No commit goes beyond the window. -/
  committed : f.stage.scene.bus.committed channel.name channel.group p =
      start.committed channel.name channel.group p ∨
    ∃ next, f.stage.scene.bus.committed channel.name channel.group p = some next ∧ next ≤ last + 1
  /-- The sweep has heard of the last record of the window, if it was handed over. -/
  drained : last ∈ offsetsIn p f.handed → ∃ sweep, f.stage.scene.sweep = some sweep ∧ p ∈ sweep.drained
  /-- When the sweep is complete, what was not handed over had been removed. -/
  complete : f.stopped = some .sweepComplete → ∀ o, start.low channel.name p ≤ o → o ≤ last →
    o ∈ offsetsIn p f.handed ∨ ∃ e ∈ f.history, e.Removes channel.name p o
  /-- If nothing was removed, the sweep handed over exactly what there was in the beginning. -/
  exact : f.stopped = some .sweepComplete → (∀ e ∈ f.history, ∀ o, ¬ e.Removes channel.name p o) →
    ∀ o, o ∈ offsetsIn p f.handed ↔ ((start.log channel.name p).get? o).isSome = true

/-- What holds at any time of a run. -/
structure Underway (channel : Channel) (start : Bus) (p last : Int) (f : SweepRun η) : Prop where
  exists_sweep : ∃ sweep, f.stage.scene.sweep = some sweep ∧
    Sweeping channel start p last (Handling.rig f.state f.stage sweep) (offsetsIn p f.handed)
  settled : ∀ a ∈ f.accounts, a.resolution.isSettled = true
  commits : f.stage.deeds.filterMap Deed.committed? = f.handed
  removed : ∀ o, o < f.stage.scene.bus.low channel.name p →
    o < start.low channel.name p ∨ ∃ e ∈ f.history, e.Removes channel.name p o
  complete : f.stopped = some .sweepComplete → ∀ o, start.low channel.name p ≤ o → o ≤ last →
    o ∈ offsetsIn p f.handed ∨ o < f.stage.scene.bus.low channel.name p

section Rounds

variable {channel : Channel} {start : Bus} {p last : Int} {g g' : Rig} {os : List Int}
  {account : Option Account} {stop : Option Stop}

theorem Round.low_eq {c : String} (hr : Round c g g' account stop) (d : String) (q : Int) :
    g'.bus.low d q = g.bus.low d q := by
  cases hr <;> rfl

theorem Round.settled {c : String} (hr : Round c g g' account stop) {a : Account}
    (ha : a ∈ account.toList) : a.resolution.isSettled = true := by
  cases hr with
  | handed _ _ _ _ _ settled =>
    obtain rfl := List.mem_singleton.mp ha
    exact settled
  | _ => exact absurd ha List.not_mem_nil

/-- What is committed in a round is what was handed over in it. -/
theorem Round.commits {c : String} (hr : Round c g g' account stop) :
    g'.deeds.filterMap Deed.committed? =
      g.deeds.filterMap Deed.committed? ++ account.toList.map (·.record) := by
  cases hr with
  | held => exact List.filterMap_append
  | handed => exact List.filterMap_append
  | _ => exact (List.append_nil _).symm

/-- A sweep that is complete has gone through the window of every partition. -/
theorem Sweeping.complete (h : Sweeping channel start p last g os)
    (hr : Round channel.name g g' account (some .sweepComplete)) (o : Int)
    (ho : start.low channel.name p ≤ o) (ho' : o ≤ last) :
    o ∈ os ++ offsetsIn p (account.toList.map (·.record)) ∨ o < g'.bus.low channel.name p := by
  cases hr with
  | ended halts complete =>
    obtain ⟨w, hw, -, -, hdrained⟩ := h.exists_window
    have hall := ((Sweep.isComplete_iff g.sweep).mp complete).2 p w hw
    exact (hdrained hall o ho ho').imp_left (List.mem_append_left _)

end Rounds

section Runs

variable {ε : Type} {k : Handling η ε} {topology : Topology} {tick : Text.Duration} {start : Bus}
  {p last : Int} {f : SweepRun η}

/-- The window of a partition ends with what the partition retained at the join. -/
theorem high_eq_of_joined {b : Bus} {channel : Channel} {name : String} {prior : Sweep}
    (hj : (Consumer.join Scene.listener b channel name (some prior)).consumer.pending = false)
    (hp : p ∈ b.partitionList)
    (hlast : (Consumer.join Scene.listener b channel name (some prior)).state.bind (·.snapshot? p) =
      some last) : b.high channel.name p = last + 1 := by
  obtain ⟨sweep, hstate, -, hall⟩ := exists_joined hj
  rw [hstate, Option.bind_some, Sweep.snapshot?, (hall p hp).1, Option.map_some,
    Option.some.injEq] at hlast
  have hhigh : (Sweep.windowOf (b.log channel.name p).watermarks).last = b.high channel.name p - 1 := rfl
  omega

/-- A consumer that has just joined begins with the windows of its partitions, and has handed over nothing. -/
theorem underway_opening {b : Bus} {name : String} {prior : Sweep} {memory : η} {now : Int}
    (hj : (Consumer.join Scene.listener b (topology.channel .error) name (some prior)).consumer.pending =
      false) (hp : p ∈ b.partitionList)
    (hlast : (Consumer.join Scene.listener b (topology.channel .error) name (some prior)).state.bind
      (·.snapshot? p) = some last) :
    Underway (topology.channel .error) b p last
      (k.sweepOpening topology tick b name prior memory now) := by
  obtain ⟨sweep, hstate, hchannel, hall⟩ := exists_joined hj
  obtain ⟨hwindow, hposition⟩ := hall p hp
  have hhigh := high_eq_of_joined hj hp hlast
  have hsweeping : Sweeping (topology.channel .error) b p last
      ⟨b, sweep, (Consumer.join Scene.listener b (topology.channel .error) name (some prior)).consumer,
        .empty, []⟩ [] := {
    channel_eq := hchannel
    pending_eq := hj
    exists_position := ⟨_, hposition, Int.le_refl _, by simp, fun o ho ho' => by omega⟩
    exists_window := by
      refine ⟨_, hwindow, ?_, by simp, fun hd o ho ho' => ?_⟩
      · have hl : (Sweep.windowOf (b.log (topology.channel .error).name p).watermarks).last =
          b.high (topology.channel .error).name p - 1 := rfl
        omega
      · have hempty : b.high (topology.channel .error).name p ≤ b.low (topology.channel .error).name p :=
          (Sweep.windowOf_drained _).mp hd
        omega
    bounded := by simp
    increasing := .nil
    committed_eq := rfl }
  exact {
    exists_sweep := ⟨sweep, hstate, hsweeping⟩
    settled := fun a ha => absurd ha List.not_mem_nil
    commits := rfl
    removed := fun o ho => .inl ho
    complete := fun h => nomatch h }

theorem Underway.round (h : Underway (topology.channel .error) start p last f) (hf : f.stopped = none) :
    Underway (topology.channel .error) start p last (k.sweepPerform topology tick f .round) := by
  obtain ⟨sweep, hsweep, hs⟩ := h.exists_sweep
  obtain ⟨sweep', hsweep', hr⟩ := Handling.round_iterateTold k topology tick (s := f.state) hsweep hs.pending_eq
  let told := (k.sweeper topology tick).iterateTold f.state f.stage
  have heq : k.sweepPerform topology tick f .round =
      ⟨told.2, told.1.1.1, told.1.1.2, f.accounts ++ told.1.2.toList, f.history⟩ := by
    simp only [Handling.sweepPerform, hf]
    rfl
  rw [heq]
  have hhanded : (f.accounts ++ told.1.2.toList).map (·.record) =
      f.handed ++ told.1.2.toList.map (·.record) := List.map_append
  exact {
    exists_sweep := ⟨sweep', hsweep', by
      rw [SweepRun.handed, hhanded, offsetsIn_append]
      exact hs.round hr⟩
    settled := fun a ha => (List.mem_append.mp ha).elim (h.settled a) hr.settled
    commits := by
      rw [SweepRun.handed, hhanded, ← h.commits]
      exact hr.commits
    removed := fun o ho => h.removed o (by
      rw [← show told.2.scene.bus.low _ p = f.stage.scene.bus.low _ p from hr.low_eq _ p]
      exact ho)
    complete := fun hstop o ho ho' => by
      have hstop : told.1.1.2 = some .sweepComplete := hstop
      rw [show ((k.sweeper topology tick).iterateTold f.state f.stage).1.1.2 = _ from hstop] at hr
      rw [SweepRun.handed, hhanded, offsetsIn_append]
      exact hs.complete hr o ho ho' }

theorem Underway.perform (h : Underway (topology.channel .error) start p last f) (a : SweepAct η) :
    Underway (topology.channel .error) start p last (k.sweepPerform topology tick f a) := by
  cases hf : f.stopped with
  | some why =>
    have heq : k.sweepPerform topology tick f a = f := by simp only [Handling.sweepPerform, hf]
    rwa [heq]
  | none =>
    cases a with
    | round => exact h.round hf
    | askStop =>
      have heq : k.sweepPerform topology tick f .askStop =
          { f with stage := { f.stage with scene := { f.stage.scene with stopAsked := true } } } := by
        simp only [Handling.sweepPerform, hf]
      rw [heq]
      exact ⟨h.exists_sweep, h.settled, h.commits, h.removed, h.complete⟩
    | outside o =>
      have heq : k.sweepPerform topology tick f (.outside o) =
          { f with
            stage := { f.stage with
              scene := { f.stage.scene with
                bus := o.alter f.stage.scene.bus, now := o.time f.stage.scene.now }
              memory := o.mind f.stage.memory }
            history := f.history ++ o.events f.stage.scene.bus } := by
        simp only [Handling.sweepPerform, hf]
      obtain ⟨sweep, hsweep, hs⟩ := h.exists_sweep
      rw [heq]
      exact {
        exists_sweep := ⟨sweep, hsweep,
          hs.mono (o.low_le_low_alter _ _ _) (o.committed_alter _) rfl (.nil f.state.paused _)⟩
        settled := h.settled
        commits := h.commits
        removed := fun i hi => by
          rcases Outside.lt_low_alter hi with hi | ⟨e, he, hr⟩
          · exact (h.removed i hi).imp_right fun ⟨e, he, hr⟩ => ⟨e, List.mem_append_left _ he, hr⟩
          · exact .inr ⟨e, List.mem_append_right _ he, hr⟩
        complete := fun hstop => nomatch hf.symm.trans hstop }

theorem Underway.run (h : Underway (topology.channel .error) start p last f) (acts : List (SweepAct η)) :
    Underway (topology.channel .error) start p last (k.sweepRun topology tick f acts) := by
  induction acts generalizing f with
  | nil => exact h
  | cons a as ih => exact ih (h.perform a)

end Runs

/-- The invariant has all that is to hold. -/
theorem Underway.exact {channel : Channel} {start : Bus} {p last : Int} {f : SweepRun η}
    (h : Underway channel start p last f) (hlast : start.high channel.name p = last + 1) :
    Exact channel start p last f := by
  obtain ⟨sweep, hsweep, hs⟩ := h.exists_sweep
  have hcomplete (hstop : f.stopped = some .sweepComplete) (o : Int)
      (ho : start.low channel.name p ≤ o) (ho' : o ≤ last) :
      o ∈ offsetsIn p f.handed ∨ ∃ e ∈ f.history, e.Removes channel.name p o := by
    rcases h.complete hstop o ho ho' with hm | hl
    · exact .inl hm
    · rcases h.removed o hl with hl | hr
      · omega
      · exact .inr hr
  exact {
    increasing := hs.increasing
    bounded := hs.bounded
    settled := h.settled
    commits := h.commits
    committed_eq := hs.committed_eq
    committed := by
      rw [show f.stage.scene.bus.committed _ _ p = _ from hs.committed_eq]
      cases hm : (offsetsIn p f.handed).getLast? with
      | none => exact .inl rfl
      | some o =>
        have := hs.bounded o (List.mem_of_getLast? hm)
        exact .inr ⟨o + 1, rfl, by omega⟩
    drained := fun hm => by
      obtain ⟨w, hw, -, hdrained, -⟩ := hs.exists_window
      exact ⟨sweep, hsweep, Sweep.mem_drained_iff.mpr ⟨w, hw, hdrained hm⟩⟩
    complete := hcomplete
    exact := fun hstop hno o => by
      rw [PartitionLog.isSome_get?_iff]
      constructor
      · intro hm
        have := hs.bounded o hm
        exact ⟨this.1, show o < start.high channel.name p by omega⟩
      · rintro ⟨hlow, hhigh⟩
        have hhigh : o < start.high channel.name p := hhigh
        refine (hcomplete hstop o hlow (by omega)).resolve_right ?_
        rintro ⟨e, he, hr⟩
        exact hno e he o hr }

/-- **Exactness.** Let a consumer of the last tier have joined with a sweep, on any bus, wherever its group
left off. At any time of a run of its worker, and for each partition, the records handed over are some of those
in the window, in order. They are the ones that are done with and committed, so no commit goes beyond the
window. When the sweep is complete, only what had been removed is left out. -/
theorem exact_sweepRun {ε : Type} (k : Handling η ε) (topology : Topology) (tick : Text.Duration) (b : Bus)
    (name : String) (prior : Sweep) (memory : η) (now : Int) (acts : List (SweepAct η)) (p last : Int)
    (hj : (Consumer.join Scene.listener b (topology.channel .error) name (some prior)).consumer.pending =
      false) (hp : p ∈ b.partitionList)
    (hlast : (Consumer.join Scene.listener b (topology.channel .error) name (some prior)).state.bind
      (·.snapshot? p) = some last) :
    Exact (topology.channel .error) b p last
      (k.sweepRun topology tick (k.sweepOpening topology tick b name prior memory now) acts) :=
  ((underway_opening hj hp hlast).run acts).exact (high_eq_of_joined hj hp hlast)

/-- A bus with three records on the second partition of the last tier, the first of which was removed. -/
def threeFailed : Bus :=
  [.publish ⟨"k", [2, 97], "order-received-error", 0⟩ 1, .publish ⟨"k", [], "order-received-error", 0⟩ 1,
    .publish ⟨"k", [2, 98], "order-received-error", 0⟩ 1, .truncate "order-received-error" 1 1].foldl
      (fun b (o : Outside Unit) => o.alter b) (.ofPartitions 2)

/-- More comes in while the sweep goes on. -/
def busySweep : List (SweepAct Unit) :=
  [.round, .outside (.publish ⟨"k", [2, 99], "order-received-error", 0⟩ 1), .round,
    .outside (.publish ⟨"k", [2, 99], "order-received-error", 0⟩ 0), .round, .round]

theorem exact_busySweep :
    (Handling.accepting.sweepRun .standard ⟨0⟩
        (Handling.accepting.sweepOpening .standard ⟨0⟩ threeFailed "a" (.start "order-received-error") () 0)
        busySweep).stopped = some .sweepComplete ∧
      offsetsIn 1 (Handling.accepting.sweepRun .standard ⟨0⟩
        (Handling.accepting.sweepOpening .standard ⟨0⟩ threeFailed "a" (.start "order-received-error") () 0)
        busySweep).handed = [1, 2] ∧
      Exact (Topology.standard.channel .error) threeFailed 1 2 (Handling.accepting.sweepRun .standard ⟨0⟩
        (Handling.accepting.sweepOpening .standard ⟨0⟩ threeFailed "a" (.start "order-received-error") () 0)
        busySweep) :=
  ⟨by decide +kernel, by decide +kernel,
    exact_sweepRun .accepting .standard ⟨0⟩ threeFailed "a" (.start "order-received-error") () 0 busySweep
      1 2 (by decide +kernel) (by decide +kernel) (by decide +kernel)⟩

end OrderRelay
