import OrderRelay.Proofs.Recovery.Windows
import OrderRelay.Proofs.Worker.Moves
import OrderRelay.Proofs.Worker.Stage

/-!
# The parts of a round, exactly

What each part of a round does to the sweep, the consumer and the partitions that the worker remembers to have
stopped reading, for the worker of any tier. Nothing is assumed of these three. In particular the worker may
remember a partition that its consumer hands out again.

* `Halted`, what has changed after the worker has stopped reading some partitions;
* `exists_pauseDrained_halted`, `takeUp_process`, `exists_takeUp_drained`, `takeUp_unassigned`,
  `exists_look`, `exists_conclude_of_sweep`: the parts.
-/

namespace OrderRelay

open Log

/-- The partitions `ps` are not read any more. The consumer hears of those that the worker did not remember to
have stopped reading. -/
structure Halted (ps : List Int) (own : PartitionSet) (c : Consumer) (own' : PartitionSet) (c' : Consumer) :
    Prop where
  eq_but_paused : c' = { c with paused := c'.paused }
  own_iff : ∀ q, own'.contains q = true ↔ own.contains q = true ∨ q ∈ ps
  paused_iff : ∀ q, c'.isPaused q = true ↔ c.isPaused q = true ∨ q ∈ ps ∧ own.contains q = false

namespace Halted

variable {ps qs : List Int} {own own₁ own₂ : PartitionSet} {c c₁ c₂ : Consumer}

theorem nil (own : PartitionSet) (c : Consumer) : Halted [] own c own c where
  eq_but_paused := rfl
  own_iff q := by simp
  paused_iff q := by simp

theorem contains_add (own : PartitionSet) (p q : Int) :
    (own.add p).contains q = true ↔ own.contains q = true ∨ q = p := by
  unfold PartitionSet.add PartitionMap.contains
  rw [PartitionMap.get?_insert]
  by_cases h : p = q
  · simp [h]
  · have h' : q ≠ p := fun e => h e.symm
    simp [h, h']

theorem one (own : PartitionSet) (c : Consumer) (p : Int) :
    Halted [p] own c (if own.contains p then own else own.add p) (if own.contains p then c else c.pause p) := by
  cases hp : own.contains p with
  | true =>
    refine ⟨rfl, fun q => ?_, fun q => ?_⟩
    · simp only [if_true, List.mem_singleton, iff_self_or]
      rintro rfl
      exact hp
    · simp only [if_true, List.mem_singleton, iff_self_or]
      rintro ⟨rfl, hq⟩
      cases hp.symm.trans hq
  | false =>
    refine ⟨rfl, fun q => ?_, fun q => ?_⟩
    · simp only [Bool.false_eq_true, if_false, List.mem_singleton]
      exact contains_add own p q
    · simp only [Bool.false_eq_true, if_false, List.mem_singleton, Consumer.isPaused_pause, Bool.or_eq_true,
        decide_eq_true_eq]
      constructor
      · rintro (rfl | hq)
        · exact .inr ⟨rfl, hp⟩
        · exact .inl hq
      · rintro (hq | ⟨rfl, -⟩)
        · exact .inr hq
        · exact .inl rfl

theorem trans (h : Halted ps own c own₁ c₁) (h' : Halted qs own₁ c₁ own₂ c₂) :
    Halted (ps ++ qs) own c own₂ c₂ where
  eq_but_paused := by rw [h'.eq_but_paused, h.eq_but_paused]
  own_iff q := by
    rw [h'.own_iff, h.own_iff, List.mem_append, or_assoc]
  paused_iff q := by
    have hown := h.own_iff q
    rw [h'.paused_iff, h.paused_iff, List.mem_append]
    cases ho : own.contains q with
    | true =>
      have : own₁.contains q = true := hown.mpr (.inl ho)
      simp [this]
    | false =>
      by_cases hq : q ∈ ps
      · simp [hq]
      · have : own₁.contains q = false := by
          rw [Bool.eq_false_iff, ne_eq, hown, ho]
          simp [hq]
        simp [hq, this]

theorem channel_eq (h : Halted ps own c own₁ c₁) : c₁.channel = c.channel := by rw [h.eq_but_paused]

theorem pending_eq (h : Halted ps own c own₁ c₁) : c₁.pending = c.pending := by rw [h.eq_but_paused]

theorem positions_eq (h : Halted ps own c own₁ c₁) : c₁.positions = c.positions := by rw [h.eq_but_paused]

end Halted

namespace Handling

variable {η ε : Type} (k : Handling η ε) (topology : Topology) (tier : Tier) (tick : Text.Duration)

section Place

variable {x : Stage η} {sweep : Sweep}

theorem read_sweepCell (hx : x.scene.sweep = some sweep) :
    (Stage.sweepCell (topology.channelName tier)).read x = (sweep, x) := by
  simp only [Cell.read, Stage.sweepCell, Scene.sweepCell, hx, Option.getD_some]

theorem update_sweepCell {α : Type} (hx : x.scene.sweep = some sweep) (f : Sweep → α × Sweep) :
    (Stage.sweepCell (topology.channelName tier)).update f x =
      ((f sweep).1, { x with scene := { x.scene with sweep := some (f sweep).2 } }) := by
  simp only [Cell.update, Stage.sweepCell, Scene.sweepCell, hx, Option.getD_some]

theorem recovery_eq : (k.worker topology tier .recovery tick).recovery =
    some (Stage.sweepCell (topology.channelName tier)) := rfl

end Place

/-! ## Pausing -/

section Pausing

variable (mode : Mode) (s : Worker.State) (x : Stage η)

theorem exists_pause_halted (p : Int) : ∃ own c,
    (k.worker topology tier mode tick).pause s p x =
      ({ s with paused := own }, { x with scene := { x.scene with consumer := c } }) ∧
    Halted [p] s.paused x.scene.consumer own c := by
  refine ⟨_, _, ?_, .one s.paused x.scene.consumer p⟩
  unfold Worker.pause
  split <;> rfl

theorem exists_foldlM_pause_halted (ps : List Int) : ∃ own c,
    ps.foldlM (k.worker topology tier mode tick).pause s x =
      ({ s with paused := own }, { x with scene := { x.scene with consumer := c } }) ∧
    Halted ps s.paused x.scene.consumer own c := by
  induction ps generalizing s x with
  | nil => exact ⟨s.paused, x.scene.consumer, rfl, .nil _ _⟩
  | cons p ps ih =>
    obtain ⟨own₁, c₁, h₁, hh₁⟩ := exists_pause_halted k topology tier tick mode s x p
    obtain ⟨own₂, c₂, h₂, hh₂⟩ := ih { s with paused := own₁ }
      { x with scene := { x.scene with consumer := c₁ } }
    refine ⟨own₂, c₂, ?_, hh₁.trans hh₂⟩
    rw [List.foldlM_cons]
    simp only [bind, StateT.bind, h₁, h₂]

variable {x} {sweep : Sweep}

/-- What the worker remembers of the partitions that are still drained. -/
def stillDrained (sweep : Sweep) (own : PartitionSet) : PartitionSet :=
  own.filter fun p _ => sweep.drained.contains p

theorem contains_stillDrained (sweep : Sweep) (own : PartitionSet) (q : Int) :
    (stillDrained sweep own).contains q = true ↔ own.contains q = true ∧ q ∈ sweep.drained := by
  rw [PartitionMap.contains, ← PartitionMap.mem_keys_iff, stillDrained, PartitionMap.mem_keys_filter_iff,
    PartitionMap.contains, Option.isSome_iff_exists]
  simp

/-- The worker forgets about partitions that are not drained, and stops reading those that are. -/
theorem exists_pauseDrained_halted (hx : x.scene.sweep = some sweep) : ∃ own c,
    (k.worker topology tier .recovery tick).pauseDrained s x =
      (({ s with paused := own }, sweep.isComplete),
        { x with scene := { x.scene with consumer := c } }) ∧
    Halted sweep.drained (stillDrained sweep s.paused) x.scene.consumer own c := by
  obtain ⟨own, c, h, hh⟩ := exists_foldlM_pause_halted k topology tier tick .recovery
    { s with paused := stillDrained sweep s.paused } x sweep.drained
  refine ⟨own, c, ?_, hh⟩
  unfold stillDrained at h
  simp only [Worker.pauseDrained, recovery_eq, bind, StateT.bind, read_sweepCell topology tier hx, h]
  rfl

end Pausing

/-! ## Taking a record up -/

section TakingUp

variable {s : Worker.State} {x : Stage η} {sweep : Sweep} {r : ConsumedRecord}

/-- A record inside the windows is processed. -/
theorem takeUp_process {w : Window} (hx : x.scene.sweep = some sweep)
    (hw : sweep.windows.get? r.partition = some w) (hd : w.drained = false) (ho : r.offset ≤ w.last) :
    (k.worker topology tier .recovery tick).takeUp s r x = ((s, .record r), x) := by
  have hj : sweep.judge r.partition r.offset = (.process, sweep) := by
    simp [Sweep.judge, hw, hd, ho]
  have he : sweep.judgeEntries r.partition r.offset = [] := by
    simp [Sweep.judgeEntries, hw, ho]
  simp only [Worker.takeUp, recovery_eq, bind, StateT.bind, update_sweepCell topology tier hx, hj, he]
  rw [← hx]
  rfl

/-- A record that is held back is counted, and read again. -/
theorem holdBack_eq (s : Worker.State) (x : Stage η) (r : ConsumedRecord) : ∃ entries,
    (k.worker topology tier .recovery tick).holdBack s r x =
      ({ s with stats := s.stats.countHeldBack }, { x with
        scene := { x.scene with consumer := x.scene.consumer.rewind r, entries }
        deeds := x.deeds ++ [.rewound r] }) :=
  ⟨_, rfl⟩

/-- A record past the window, or of a drained partition, is held back. -/
theorem exists_takeUp_drained {w : Window} (hx : x.scene.sweep = some sweep)
    (hw : sweep.windows.get? r.partition = some w) (hpast : w.drained = true ∨ w.last < r.offset) :
    ∃ s' own c entries, (k.worker topology tier .recovery tick).takeUp s r x =
      ((s', .nothing), { x with
        scene := { x.scene with
          sweep := some (sweep.hear (.judged r.partition r.offset)), consumer := c, entries }
        deeds := x.deeds ++ [.rewound r] }) ∧
      s'.paused = own ∧ Halted [r.partition] s.paused (x.scene.consumer.rewind r) own c := by
  have hj : (sweep.judge r.partition r.offset).1 = .drained := by
    rcases hpast with hd | ho
    · simp [Sweep.judge, hw, hd]
    · cases hd : w.drained with
      | true => simp [Sweep.judge, hw, hd]
      | false => simp [Sweep.judge, hw, hd, Int.not_le.mpr ho]
  have hreport : (k.worker topology tier .recovery tick).processor.report = Stage.report := rfl
  let y : Stage η := { x with scene := { x.scene with
    sweep := some (sweep.hear (.judged r.partition r.offset))
    entries := x.scene.entries ++ sweep.judgeEntries r.partition r.offset } }
  obtain ⟨entries, hhold⟩ := holdBack_eq k topology tier tick s y r
  let z : Stage η := { y with
    scene := { y.scene with consumer := y.scene.consumer.rewind r, entries }
    deeds := y.deeds ++ [.rewound r] }
  obtain ⟨own, c, hpause, hh⟩ := exists_pause_halted k topology tier tick .recovery
    { s with stats := s.stats.countHeldBack } z r.partition
  refine ⟨⟨own, s.stats.countHeldBack⟩, own, c, entries, ?_, rfl, hh⟩
  simp only [Worker.takeUp, recovery_eq, bind, StateT.bind, update_sweepCell topology tier hx, hreport,
    forM_report, hj]
  exact (congrArg (fun u => (fun v => ((v.1, Finding.nothing), v.2))
    ((k.worker topology tier .recovery tick).pause u.1 r.partition u.2)) hhold).trans
      (congrArg (fun v => ((v.1, Finding.nothing), v.2)) hpause)

/-- So is a record of a partition without a window. -/
theorem takeUp_unassigned (hx : x.scene.sweep = some sweep) (hw : sweep.windows.get? r.partition = none) :
    ∃ stats entries, (k.worker topology tier .recovery tick).takeUp s r x =
      (({ s with stats }, .nothing), { x with
        scene := { x.scene with consumer := x.scene.consumer.rewind r, entries }
        deeds := x.deeds ++ [.rewound r] }) := by
  have hj : sweep.judge r.partition r.offset = (.unassigned, sweep) := by simp [Sweep.judge, hw]
  have he : sweep.judgeEntries r.partition r.offset = [] := by simp [Sweep.judgeEntries, hw]
  obtain ⟨entries, hhold⟩ := holdBack_eq k topology tier tick s x r
  refine ⟨s.stats.countHeldBack, entries, ?_⟩
  simp only [Worker.takeUp, recovery_eq, bind, StateT.bind, update_sweepCell topology tier hx, hj, he]
  rw [← hx]
  exact congrArg (fun u => ((u.1, Finding.nothing), u.2)) hhold

end TakingUp

/-! ## Looking at retention -/

section Looking

variable {x : Stage η} {sweep : Sweep}

/-- The sweep hears of the low end of a partition, if the channel can be asked. -/
theorem exists_look (hx : x.scene.sweep = some sweep) (p : Int) : ∃ entries,
    (k.worker topology tier .recovery tick).look p x = ((), { x with scene := { x.scene with
      sweep := some (if x.scene.bus.failing (topology.channelName tier) then sweep
        else sweep.hear (.observed p (x.scene.bus.low (topology.channelName tier) p)))
      entries } }) := by
  have hmarks : (k.worker topology tier .recovery tick).consumer.watermarks p x =
      (x.scene.bus.watermarks (topology.channelName tier) p, x) := rfl
  have hreport : (k.worker topology tier .recovery tick).processor.report = Stage.report := rfl
  refine ⟨((k.worker topology tier .recovery tick).look p x).2.scene.entries, ?_⟩
  cases hf : x.scene.bus.failing (topology.channelName tier) with
  | true =>
    have hw : x.scene.bus.watermarks (topology.channelName tier) p =
        .error ⟨topology.channelName tier, p, "broker unreachable"⟩ := by
      rw [Bus.watermarks, hf, if_pos rfl]
    simp only [Worker.look, recovery_eq, Worker.observe, bind, StateT.bind, hmarks, hw, hreport, report_eq,
      if_true, ← hx]
  | false =>
    have hw : x.scene.bus.watermarks (topology.channelName tier) p =
        .ok (x.scene.bus.log (topology.channelName tier) p).watermarks := by
      rw [Bus.watermarks, hf]
      rfl
    simp only [Worker.look, recovery_eq, Worker.observe, bind, StateT.bind, hmarks, hw, hreport,
      update_sweepCell topology tier hx, forM_report, Bool.false_eq_true, if_false]
    rfl

end Looking

/-! ## Concluding -/

/-- The sweep hears of a record that is done with, and of no other. -/
theorem exists_conclude_of_sweep (s : Worker.State) {x : Stage η} {sweep : Sweep}
    (hx : x.scene.sweep = some sweep) (r : ConsumedRecord) (resolution : Resolution) :
    ∃ stats entries, (k.worker topology tier .recovery tick).conclude s r resolution x =
      ({ s with stats }, { x with scene := { x.scene with
        sweep := some (if resolution.isSettled then sweep.hear (.settled r.partition r.offset) else sweep)
        entries } }) := by
  have hreport : (k.worker topology tier .recovery tick).processor.report = Stage.report := rfl
  refine ⟨s.stats.count resolution,
    ((k.worker topology tier .recovery tick).conclude s r resolution x).2.scene.entries, ?_⟩
  cases hres : resolution.isSettled with
  | false =>
    simp only [Worker.conclude, recovery_eq, hres, Bool.false_eq_true, if_false, ← hx]
    rfl
  | true =>
    cases hd : (sweep.settle r.partition r.offset).1 with
    | true =>
      simp only [Worker.conclude, recovery_eq, hres, if_true, bind, StateT.bind,
        update_sweepCell topology tier hx, hd, hreport, report_eq]
      rfl
    | false =>
      simp only [Worker.conclude, recovery_eq, hres, if_true, bind, StateT.bind,
        update_sweepCell topology tier hx, hd]
      rfl

end Handling

end OrderRelay
