import OrderRelay.Proofs.Processing.Plan
import OrderRelay.Proofs.Recovery.Pausing

/-!
# The course of a sweep

What holds at every move of the worker of the last tier that sweeps, as long as its consumer is not given its
partitions anew. Until the consumer has its partitions, nothing is known of any of them.

* `Given`, what is known of windows and read positions once the consumer has its partitions;
* `Course`, the invariant: what is skipped is drained, every record is done with at once, and a read position
  is past its window only while the record before it is in hand;
* `course_opening`, how it begins, and **`Course.moved`**, `Course.around`, how it goes on.
-/

namespace OrderRelay

/-! ## Windows that a note leaves open -/

namespace Sweep

theorem snapshot?_hear (s : Sweep) (n : Note) (p : Int) : (s.hear n).snapshot? p = s.snapshot? p := by
  unfold snapshot?
  rw [get?_hear, Option.map_map]
  congr 1
  funext w
  dsimp only [Function.comp]
  split <;> rfl

/-- A window that is open after a note was there before, and the note does not reach its end. -/
theorem get?_of_hear {s : Sweep} {n : Note} {p : Int} {w : Window} (h : (s.hear n).windows.get? p = some w)
    (hd : w.drained = false) :
    s.windows.get? p = some w ∧ (n.partition = p → n.reaches w.last = false) := by
  rw [get?_hear] at h
  obtain ⟨w₀, hw₀, hw⟩ := Option.map_eq_some_iff.mp h
  by_cases hn : n.partition = p ∧ n.drains w₀ = true
  · rw [if_pos hn] at hw
    subst hw
    cases hd
  · rw [if_neg hn] at hw
    subst hw
    refine ⟨hw₀, fun hp => ?_⟩
    cases hr : n.reaches w₀.last with
    | false => rfl
    | true => exact absurd ⟨hp, by simp [Note.drains, hd, hr]⟩ hn

theorem mem_pending_of_hear {s : Sweep} {n : Note} {p : Int} (h : p ∈ (s.hear n).pending) :
    p ∈ s.pending := by
  obtain ⟨w, hw, hd⟩ := mem_pending_iff.mp h
  exact mem_pending_iff.mpr ⟨w, (get?_of_hear hw hd).1, hd⟩

/-- A sweep that is not complete has something left to do, if it has windows. -/
theorem exists_mem_pending {s : Sweep} (hw : ∃ p w, s.windows.get? p = some w) (h : s.isComplete = false) :
    ∃ p, p ∈ s.pending := by
  by_contra hnone
  rw [Bool.eq_false_iff, ne_eq, isComplete_iff] at h
  refine h ⟨hw, fun p w hp => ?_⟩
  cases hd : w.drained with
  | true => rfl
  | false => exact absurd ⟨p, mem_pending_iff.mpr ⟨w, hp, hd⟩⟩ hnone

end Sweep

/-! ## Once the consumer has its partitions -/

/-- What is known of the windows of a sweep and the read positions of the consumer that has its partitions. -/
structure Given (channel : Channel) (g : Sight) (sweep : Sweep) : Prop where
  exists_window : ∃ p w, sweep.windows.get? p = some w
  window_iff : ∀ p, (∃ w, sweep.windows.get? p = some w) ↔
    ∃ position, g.consumer.positions.get? p = some position
  last_lt : ∀ p w, sweep.windows.get? p = some w → w.last < g.bus.high channel.name p
  /-- The read position of an open window is inside it, but for the partition of the record in hand. -/
  position_le : ∀ p w position, sweep.windows.get? p = some w → w.drained = false →
    g.consumer.positions.get? p = some position → (∀ r, g.point.record? = some r → r.partition ≠ p) →
    position ≤ w.last
  in_hand : ∀ r, g.point.record? = some r → g.consumer.positions.get? r.partition = some (r.offset + 1)

namespace Given

variable {channel : Channel} {g g' : Sight} {sweep : Sweep}

theorem mono (h : Given channel g sweep) (hpositions : g'.consumer.positions = g.consumer.positions)
    (hhigh : ∀ p, g.bus.high channel.name p ≤ g'.bus.high channel.name p)
    (hrecord : g'.point.record? = g.point.record?) : Given channel g' sweep where
  exists_window := h.exists_window
  window_iff := by
    rw [hpositions]
    exact h.window_iff
  last_lt p w hw := Int.lt_of_lt_of_le (h.last_lt p w hw) (hhigh p)
  position_le := by
    rw [hpositions, hrecord]
    exact h.position_le
  in_hand := by
    rw [hpositions, hrecord]
    exact h.in_hand

theorem hear (h : Given channel g sweep) (n : Note) : Given channel g (sweep.hear n) where
  exists_window := by
    obtain ⟨p, w, hw⟩ := h.exists_window
    obtain ⟨w', hw', -⟩ := Sweep.exists_get?_hear hw n
    exact ⟨p, w', hw'⟩
  window_iff p := by
    have hiff := not_congr (Sweep.get?_hear_eq_none_iff sweep n p)
    rw [← ne_eq, ← ne_eq, Option.ne_none_iff_exists', Option.ne_none_iff_exists'] at hiff
    exact hiff.trans (h.window_iff p)
  last_lt p w' hw' := by
    cases hw : sweep.windows.get? p with
    | none => cases ((Sweep.get?_hear_eq_none_iff sweep n p).mpr hw).symm.trans hw'
    | some w =>
      obtain ⟨w'', hw'', hl, -⟩ := Sweep.exists_get?_hear hw n
      obtain rfl := Option.some.inj (hw''.symm.trans hw')
      rw [hl]
      exact h.last_lt p w hw
  position_le p w position hw hd := h.position_le p w position (Sweep.get?_of_hear hw hd).1 hd
  in_hand := h.in_hand

/-- The consumer reads on. -/
theorem read (h : Given channel g sweep) {r : ConsumedRecord} {c : Consumer}
    (hread : Consumer.Read g.bus g.consumer r c) (hrecord : g.point.record? = none) :
    Given channel { g with consumer := c, point := .judging r } sweep := by
  have hpositions (p : Int) : c.positions.get? p =
      if r.partition = p then some (r.offset + 1) else g.consumer.positions.get? p := hread.get?_positions p
  have hne (p : Int) (hp : ∀ r', (Worker.Point.judging r).record? = some r' → r'.partition ≠ p) :
      r.partition ≠ p := hp r rfl
  refine ⟨h.exists_window, fun p => ?_, h.last_lt, fun p w position hw hd hp hr => ?_, fun r' hr' => ?_⟩
  · rw [h.window_iff p]
    show _ ↔ ∃ position, c.positions.get? p = some position
    rw [hpositions]
    split
    · rename_i hp
      subst hp
      obtain ⟨position, -, hposition, -⟩ := hread.exists_position
      exact ⟨fun _ => ⟨_, rfl⟩, fun _ => ⟨position, hposition⟩⟩
    · rfl
  · have hp : c.positions.get? p = some position := hp
    rw [hpositions, if_neg (hne p hr)] at hp
    exact h.position_le p w position hw hd hp fun r' hr' => nomatch hrecord.symm.trans hr'
  · obtain rfl : r = r' := Option.some.inj hr'
    exact (hpositions r.partition).trans (if_pos rfl)

/-- The record in hand is let go. Only the window of its partition has to be looked after. -/
theorem released (h : Given channel g sweep) {r : ConsumedRecord} (hr : g.point.record? = some r) (n : Note)
    (hrecord : g'.point.record? = none)
    (hpositions : ∀ p, r.partition ≠ p → g'.consumer.positions.get? p = g.consumer.positions.get? p)
    (hthere : ∃ position, g'.consumer.positions.get? r.partition = some position)
    (hhigh : ∀ p, g.bus.high channel.name p ≤ g'.bus.high channel.name p)
    (hdone : ∀ w position, (sweep.hear n).windows.get? r.partition = some w → w.drained = false →
      g'.consumer.positions.get? r.partition = some position → position ≤ w.last) :
    Given channel g' (sweep.hear n) where
  exists_window := (h.hear n).exists_window
  window_iff p := by
    rw [(h.hear n).window_iff p]
    by_cases hp : r.partition = p
    · subst hp
      exact ⟨fun _ => hthere, fun _ => ⟨_, h.in_hand r hr⟩⟩
    · rw [hpositions p hp]
  last_lt p w hw := Int.lt_of_lt_of_le ((h.hear n).last_lt p w hw) (hhigh p)
  position_le p w position hw hd hp _ := by
    by_cases hpr : r.partition = p
    · subst hpr
      exact hdone w position hw hd hp
    · rw [hpositions p hpr] at hp
      refine (h.hear n).position_le p w position hw hd hp fun r' hr' => ?_
      obtain rfl := Option.some.inj (hr.symm.trans hr')
      exact hpr
  in_hand r' hr' := nomatch hrecord.symm.trans hr'

end Given

/-! ## The invariant -/

/-- What holds at a point of a round. After an empty poll, what is left of the open windows is gone. -/
def Sight.Here (channel : Channel) (g : Sight) : Prop :=
  match g.point with
  | .inPhase (.resolved _ _ resolution) => resolution.isSettled = true
  | .inPhase (.stopped why) => why = .sweepComplete
  | .polling => g.consumer.pending = false → ∃ p, p ∈ pendingOf g.sweep
  | .looking _ => ∀ sweep, g.sweep = some sweep → ∀ p w, sweep.windows.get? p = some w →
      w.drained = false → w.last < g.bus.low channel.name p
  | _ => True

/-- What holds at every move. -/
structure Course (channel : Channel) (g : Sight) : Prop where
  channel_eq : g.consumer.channel = channel
  unasked : g.stopAsked = false
  paused_drained : ∀ p, g.consumer.isPaused p = true → p ∈ drainedOf g.sweep
  given : g.consumer.pending = false → ∀ sweep, g.sweep = some sweep → Given channel g sweep
  given_of_record : ∀ r, g.point.record? = some r → g.consumer.pending = false
  here : g.Here channel

section Assigned

variable {b : Bus} {c : Consumer} {prior : Sweep}

/-- An assignment that goes through gives all that has to be known, if the sweep had no windows but for the
partitions of the bus. -/
theorem exists_given (g : Sight) (hg : g.point.record? = none)
    (hprior : ∀ p w, prior.windows.get? p = some w → p ∈ g.bus.partitionList)
    (hp : (c.assign Scene.listener g.bus (some prior)).consumer.pending = false) :
    ∃ sweep, (c.assign Scene.listener g.bus (some prior)).state = some sweep ∧
      Given c.channel
        { g with consumer := (c.assign Scene.listener g.bus (some prior)).consumer, sweep := some sweep }
        sweep := by
  obtain ⟨sweep, positions, hstate, hconsumer, hin, hout⟩ := exists_assigned hp
  have hopen (p : Int) (hpl : p ∈ g.bus.partitionList) : sweep.windows.get? p =
      some ⟨g.bus.high c.channel.name p - 1, g.bus.high c.channel.name p ≤ g.bus.low c.channel.name p⟩ :=
    (hin p hpl).1
  have hclosed (p : Int) (hpl : p ∉ g.bus.partitionList) : sweep.windows.get? p = none := by
    rw [(hout p hpl).1]
    cases hw : prior.windows.get? p with
    | none => rfl
    | some w => exact absurd (hprior p w hw) hpl
  refine ⟨sweep, hstate, ?_⟩
  rw [hconsumer]
  refine ⟨?_, fun p => ?_, fun p w hw => ?_, fun p w position hw hd hposition _ => ?_,
    fun r hr => nomatch hg.symm.trans hr⟩
  · have hzero : (0 : Int) ∈ g.bus.partitionList :=
      List.mem_map.mpr ⟨0, List.mem_range.mpr g.bus.partitions_pos, rfl⟩
    exact ⟨0, _, hopen 0 hzero⟩
  · show _ ↔ ∃ position, positions.get? p = some position
    by_cases hpl : p ∈ g.bus.partitionList
    · exact ⟨fun _ => ⟨_, (hin p hpl).2⟩, fun _ => ⟨_, hopen p hpl⟩⟩
    · rw [hclosed p hpl, (hout p hpl).2]
      constructor <;> exact fun ⟨_, h⟩ => nomatch h
  · by_cases hpl : p ∈ g.bus.partitionList
    · obtain rfl := Option.some.inj ((hopen p hpl).symm.trans hw)
      exact Int.sub_lt_self _ Int.one_pos
    · cases (hclosed p hpl).symm.trans hw
  · have hposition : positions.get? p = some position := hposition
    by_cases hpl : p ∈ g.bus.partitionList
    · obtain rfl := Option.some.inj ((hopen p hpl).symm.trans hw)
      obtain rfl := Option.some.inj ((hin p hpl).2.symm.trans hposition)
      have hlt : ¬ g.bus.high c.channel.name p ≤ g.bus.low c.channel.name p := by simpa using hd
      show _ ≤ _ - 1
      omega
    · cases (hclosed p hpl).symm.trans hw

end Assigned

section Steps

variable {η ε : Type} {k : Handling η ε} {topology : Topology} {g g' : Sight} {es : List Happening}
  {sweep : Sweep}

theorem Sight.arrived_eq :
    g.arrived = { g with consumer := g.arrived.consumer, sweep := g.arrived.sweep } := by
  unfold Sight.arrived
  split <;> rfl

/-- What a poll finds. -/
theorem Course.exists_arrived {channel : Channel} (hc : Course channel g) (hs : g.sweep = some sweep)
    (hk : Known g.consumer sweep) (hpoint : g.point = .polling) :
    ∃ sweep', g.arrived.sweep = some sweep' ∧ g.arrived.consumer.channel = channel ∧
      Known g.arrived.consumer sweep' ∧
      (∀ p, g.arrived.consumer.isPaused p = true → p ∈ sweep'.drained) ∧
      (g.arrived.consumer.pending = false → Given channel g.arrived sweep') := by
  cases hpending : g.consumer.pending with
  | false =>
    rw [Sight.arrived_of_not_pending hpending]
    refine ⟨sweep, hs, hc.channel_eq, hk, fun p hp => ?_, fun _ => hc.given hpending sweep hs⟩
    have hd := hc.paused_drained p hp
    rw [hs] at hd
    exact hd
  | true =>
    have hwindowless := hk.windowless hpending
    obtain ⟨sweep', hstate, hknown, hfree⟩ := exists_assign_of_windowless g.bus g.consumer hwindowless
    have harrived : g.arrived = { g with
        consumer := (g.consumer.assign Scene.listener g.bus (some sweep)).consumer
        sweep := some sweep' } := by
      rw [← hstate, ← hs, Sight.arrived, hpending]
      rfl
    have hrecord : g.point.record? = none := by rw [hpoint]; rfl
    rw [harrived]
    refine ⟨sweep', rfl, ?_, hknown, fun p hp => ?_, fun hgiven => ?_⟩
    · rw [← hc.channel_eq]
      exact Consumer.channel_assign _ _ _ _
    · cases (hfree p).symm.trans hp
    · have hlisted (p : Int) (w : Window) (hw : sweep.windows.get? p = some w) : p ∈ g.bus.partitionList := by
        cases (hwindowless p).symm.trans hw
      obtain ⟨sweep'', hstate', hg⟩ := exists_given g hrecord hlisted hgiven
      obtain rfl := Option.some.inj (hstate.symm.trans hstate')
      rw [hc.channel_eq] at hg
      exact hg

/-- An open window that the consumer has nothing to read from is gone. -/
theorem Given.last_lt_low {channel : Channel} (h : Given channel g sweep)
    (hchannel : g.consumer.channel = channel) (hnext : g.consumer.next? g.bus = none)
    (hrecord : g.point.record? = none) {p : Int} {w : Window} (hw : sweep.windows.get? p = some w)
    (hd : w.drained = false) (hfree : g.consumer.isPaused p = false) :
    w.last < g.bus.low channel.name p := by
  obtain ⟨position, hposition⟩ := (h.window_iff p).mp ⟨w, hw⟩
  have hle : position ≤ w.last :=
    h.position_le p w position hw hd hposition fun r hr => nomatch hrecord.symm.trans hr
  have hlt := h.last_lt p w hw
  have hnone := Consumer.get?_eq_none_of_next?_eq_none hnext hposition hfree
  rw [hchannel, ← Option.not_isSome_iff_eq_none, PartitionLog.isSome_get?_iff] at hnone
  have hlow : g.bus.low channel.name p = (g.bus.log channel.name p).low := rfl
  have hhigh : g.bus.high channel.name p = (g.bus.log channel.name p).high := rfl
  omega

/-- The consumer skips more, but only what is drained. -/
theorem Course.halted {channel : Channel} (hc : Course channel g) (hs : g.sweep = some sweep)
    {own₀ own : PartitionSet} {c : Consumer} (hh : Halted sweep.drained own₀ g.consumer own c) (p : Int) :
    c.isPaused p = true → p ∈ drainedOf g.sweep := by
  rw [hh.paused_iff]
  rintro (hp | ⟨hp, -⟩)
  · exact hc.paused_drained p hp
  · rw [hs]
    exact hp

/-- Every move of the worker of the last tier keeps the course. -/
theorem Course.moved (hc : Course (topology.channel .error) g) (hs : g.sweep = some sweep)
    (hk : Known g.consumer sweep) (hm : Moved k topology .error g g' es) :
    Course (topology.channel .error) g' := by
  have hgiven (hp : g.consumer.pending = false) : Given (topology.channel .error) g sweep :=
    hc.given hp sweep hs
  -- On the last tier no record moves on.
  have hlast {r : ConsumedRecord} {event : Option OrderReceived} {outcome : Outcome} {next : Tier}
      {key : String} {payload : List UInt8}
      (h : (k.processor topology .error).plan r (event, outcome) = .escalate next key payload) : False := by
    cases (Processor.plan_eq_escalate h).1
  have hbare {P : Prop} {point : Worker.Point} (h : point.record? = none) (r : ConsumedRecord)
      (hr : point.record? = some r) : P := by
    cases h.symm.trans hr
  cases hm with
  | asked ready asked => cases hc.unasked.symm.trans asked
  | ended ready sweep_eq complete halted =>
    obtain rfl := Option.some.inj (hs.symm.trans sweep_eq)
    refine ⟨halted.channel_eq.trans hc.channel_eq, hc.unasked, hc.halted hs halted, fun hp s e => ?_, hbare rfl,
      rfl⟩
    obtain rfl := Option.some.inj (hs.symm.trans e)
    exact (hgiven (halted.pending_eq.symm.trans hp)).mono halted.positions_eq (fun _ => Int.le_refl _)
      (by rw [ready]; rfl)
  | entered ready sweep_eq incomplete halted =>
    obtain rfl := Option.some.inj (hs.symm.trans sweep_eq)
    refine ⟨halted.channel_eq.trans hc.channel_eq, hc.unasked, hc.halted hs halted, fun hp s e => ?_, hbare rfl,
      fun hp => ?_⟩
    · obtain rfl := Option.some.inj (hs.symm.trans e)
      exact (hgiven (halted.pending_eq.symm.trans hp)).mono halted.positions_eq (fun _ => Int.le_refl _)
        (by rw [ready]; rfl)
    · rw [hs]
      exact Sweep.exists_mem_pending (hgiven (halted.pending_eq.symm.trans hp)).exists_window incomplete
  | passed ready sweep_eq => cases hs.symm.trans sweep_eq
  | @read r c polling given read =>
    obtain ⟨sweep', hs', hchannel, -, hpaused, harrived⟩ := hc.exists_arrived hs hk polling
    have hpoint : g.arrived.point.record? = none := by rw [Sight.arrived_eq, polling]; rfl
    have hread : Consumer.Read g.arrived.bus g.arrived.consumer r c := by rw [Sight.arrived_bus]; exact read
    refine ⟨read.channel_eq.trans hchannel, ?_, fun p hp => ?_, fun _ s e => ?_, fun _ _ => ?_, trivial⟩
    · rw [Sight.arrived_eq]
      exact hc.unasked
    · rw [hs']
      exact hpaused p ((read.isPaused_eq p).symm.trans hp)
    · obtain rfl := Option.some.inj (hs'.symm.trans e)
      exact (harrived given).read hread hpoint
    · exact read.pending_eq.trans given
  | empty polling nothing =>
    obtain ⟨sweep', hs', hchannel, hknown, hpaused, harrived⟩ := hc.exists_arrived hs hk polling
    have hpoint : g.arrived.point.record? = none := by rw [Sight.arrived_eq, polling]; rfl
    refine ⟨hchannel, ?_, fun p hp => ?_, fun hp s e => ?_, hbare rfl, fun s e p w hw hd => ?_⟩
    · rw [Sight.arrived_eq]
      exact hc.unasked
    · rw [hs']
      exact hpaused p hp
    · obtain rfl := Option.some.inj (hs'.symm.trans e)
      exact (harrived hp).mono rfl (fun _ => Int.le_refl _) hpoint.symm
    · obtain rfl := Option.some.inj (hs'.symm.trans e)
      have hpending := (hknown p w hw).1
      have hnext : g.arrived.consumer.next? g.arrived.bus = none := by
        rw [Sight.arrived_bus]
        exact nothing hpending
      have hfree : g.arrived.consumer.isPaused p = false := by
        rw [Bool.eq_false_iff]
        intro hp
        exact Sweep.not_mem_drained_of_open hw hd (hpaused p hp)
      exact (harrived hpending).last_lt_low hchannel hnext hpoint hw hd hfree
  | taken judging inside =>
    refine ⟨hc.channel_eq, hc.unasked, hc.paused_drained, fun hp s e => ?_, fun r _ => ?_, trivial⟩
    · exact (hc.given hp s e).mono rfl (fun _ => Int.le_refl _) (by rw [judging]; rfl)
    · exact hc.given_of_record _ (by rw [judging]; rfl)
  | @held r _ w _ c judging sweep_eq window past halted =>
    obtain rfl := Option.some.inj (hs.symm.trans sweep_eq)
    have hrecord : g.point.record? = some r := by rw [judging]; rfl
    have hreaches : w.drained = true ∨ (Note.judged r.partition r.offset).reaches w.last = true :=
      past.imp_right fun hlt => by simpa [Note.reaches] using hlt
    have hdone : r.partition ∈ (sweep.hear (.judged r.partition r.offset)).drained :=
      mem_drained_hear_of_reaches (n := .judged r.partition r.offset) window hreaches
    have hgiven' := hgiven (hc.given_of_record r hrecord)
    refine ⟨(halted.channel_eq.trans (g.consumer.channel_rewind r)).trans hc.channel_eq, hc.unasked,
      fun p hp => ?_, fun _ s e => ?_, hbare rfl, trivial⟩
    · rcases (halted.paused_iff p).mp hp with hp | ⟨hp, -⟩
      · have hd := hc.paused_drained p ((g.consumer.isPaused_rewind r p).symm.trans hp)
        rw [hs] at hd
        exact mem_drained_hear hd _
      · rw [List.mem_singleton.mp hp]
        exact hdone
    · obtain rfl := Option.some.inj e
      have hpositions (p : Int) : c.positions.get? p =
          if r.partition = p then (g.consumer.positions.get? p).map fun _ => r.offset
          else g.consumer.positions.get? p := by
        rw [halted.positions_eq, Consumer.get?_rewind]
      refine hgiven'.released hrecord _ rfl (fun p hp => ?_) ⟨r.offset, ?_⟩ (fun _ => Int.le_refl _)
        fun w' position hw' hd' => ?_
      · exact (hpositions p).trans (if_neg hp)
      · rw [hpositions, if_pos rfl, hgiven'.in_hand r hrecord]
        rfl
      · exact absurd hdone (Sweep.not_mem_drained_of_open hw' hd')
  | @strange r _ judging sweep_eq window =>
    obtain rfl := Option.some.inj (hs.symm.trans sweep_eq)
    have hrecord : g.point.record? = some r := by rw [judging]; rfl
    have hg := hgiven (hc.given_of_record _ hrecord)
    obtain ⟨w, hw⟩ := (hg.window_iff _).mpr ⟨_, hg.in_hand _ hrecord⟩
    cases window.symm.trans hw
  | @looked p ps _ looking sweep_eq =>
    obtain rfl := Option.some.inj (hs.symm.trans sweep_eq)
    have hgone := hc.here
    rw [Sight.Here, looking] at hgone
    have hrecord : (Worker.Point.looking ps).record? = g.point.record? := by rw [looking]; rfl
    cases g.bus.failing (topology.channelName .error) with
    | true =>
      refine ⟨hc.channel_eq, hc.unasked, fun q hq => ?_, fun hp s e => ?_, hbare rfl, fun s e => hgone s ?_⟩
      · exact hs ▸ hc.paused_drained q hq
      · exact (hc.given hp s (hs.trans e)).mono rfl (fun _ => Int.le_refl _) hrecord
      · exact hs.trans e
    | false =>
      simp only [Bool.false_eq_true, if_false]
      refine ⟨hc.channel_eq, hc.unasked, fun q hq => ?_, fun hp s e => ?_, hbare rfl, fun s e q w hw hd => ?_⟩
      · have hd := hc.paused_drained q hq
        rw [hs] at hd
        exact mem_drained_hear hd _
      · obtain rfl := Option.some.inj e
        exact ((hgiven hp).hear _).mono rfl (fun _ => Int.le_refl _) hrecord
      · obtain rfl := Option.some.inj e
        exact hgone sweep hs q w (Sweep.get?_of_hear hw hd).1 hd
  | glanced looking sweep_eq => cases hs.symm.trans sweep_eq
  | turned looking =>
    refine ⟨hc.channel_eq, hc.unasked, hc.paused_drained, fun hp s e => ?_, hbare rfl, trivial⟩
    exact (hc.given hp s e).mono rfl (fun _ => Int.le_refl _) (by rw [looking]; rfl)
  | evaluated holding =>
    refine ⟨hc.channel_eq, hc.unasked, hc.paused_drained, fun hp s e => ?_, fun r _ => ?_, trivial⟩
    · exact (hc.given hp s e).mono rfl (fun _ => Int.le_refl _) (by rw [holding]; rfl)
    · exact hc.given_of_record _ (by rw [holding]; rfl)
  | finished handled plan =>
    refine ⟨hc.channel_eq, hc.unasked, hc.paused_drained, fun hp s e => ?_, fun r _ => ?_, ?_⟩
    · exact (hc.given hp s e).mono rfl (fun _ => Int.le_refl _) (by rw [handled]; rfl)
    · exact hc.given_of_record _ (by rw [handled]; rfl)
    · rcases Processor.plan_eq_finish plan with rfl | ⟨kind, cause, rfl⟩ <;> rfl
  | stored handled plan publish => exact (hlast plan).elim
  | refused handled plan => exact (hlast plan).elim
  | @committed r reference resolution resolved settled =>
    have hrecord : g.point.record? = some r := by rw [resolved]; rfl
    have hgiven' := hgiven (hc.given_of_record r hrecord)
    refine ⟨hc.channel_eq, hc.unasked, fun p hp => ?_, fun _ s e => ?_, hbare rfl, trivial⟩
    · have hd := hc.paused_drained p hp
      rw [hs] at hd ⊢
      exact mem_drained_hear hd _
    · rw [hs] at e
      obtain rfl := Option.some.inj e
      refine hgiven'.released hrecord _ rfl (fun _ _ => rfl) ⟨_, hgiven'.in_hand r hrecord⟩
        (fun _ => Int.le_refl _) fun w position hw hd hp => ?_
      -- A window that is still open goes on after the record.
      obtain rfl := Option.some.inj ((hgiven'.in_hand r hrecord).symm.trans hp)
      have hopen := (Sweep.get?_of_hear hw hd).2 rfl
      simp only [Note.reaches, decide_eq_false_iff_not, Int.not_le] at hopen
      exact hopen
  | rewound resolved unsettled =>
    have hsettled := hc.here
    rw [Sight.Here, resolved] at hsettled
    cases hsettled.symm.trans unsettled
  | stopped left => exact hc

/-- Logs only grow and are only cut off at their beginnings, which keeps the course. -/
theorem Course.around {channel : Channel} (hc : Course channel g) {b : Bus}
    (hhigh : ∀ p, g.bus.high channel.name p ≤ b.high channel.name p)
    (hlow : ∀ p, g.bus.low channel.name p ≤ b.low channel.name p) : Course channel { g with bus := b } := by
  refine ⟨hc.channel_eq, hc.unasked, hc.paused_drained, fun hp s e => ?_, hc.given_of_record, ?_⟩
  · exact (hc.given hp s e).mono rfl hhigh rfl
  · have hhere := hc.here
    unfold Sight.Here at hhere ⊢
    cases hpoint : g.point with
    | looking ps =>
      rw [hpoint] at hhere
      exact fun s e p w hw hd => Int.lt_of_lt_of_le (hhere s e p w hw hd) (hlow p)
    | inPhase phase =>
      rw [hpoint] at hhere
      cases phase <;> exact hhere
    | _ =>
      rw [hpoint] at hhere
      exact hhere

end Steps

/-- A worker begins on its course, if its sweep has windows only of what its consumer was given. -/
theorem course_opening {η ε : Type} (k : Handling η ε) {topology : Topology} {tick : Text.Duration} {b : Bus}
    {name : String} {prior : Sweep} {memory : η} {now : Int}
    (hknows : (k.soloOpening topology .error .recovery tick b name prior memory now).Knows) :
    Course (topology.channel .error)
      (k.soloOpening topology .error .recovery tick b name prior memory now).sight := by
  let c : Consumer := .fresh (topology.channel .error) name
  let g : Sight := ⟨b, some prior, c, .empty, false, .inPhase .ready⟩
  have hfree (p : Int) : (c.assign Scene.listener b (some prior)).consumer.isPaused p = false := by
    rw [(Consumer.assign_eq Scene.listener b c (some prior)).2]
    split <;> rfl
  refine ⟨Consumer.channel_assign Scene.listener b c _, rfl, fun p hp => ?_, fun hp s e => ?_, nofun, trivial⟩
  · cases (hfree p).symm.trans hp
  have hp : (c.assign Scene.listener b (some prior)).consumer.pending = false := hp
  obtain ⟨sweep, positions, hstate, hconsumer, -, hout⟩ := exists_assigned hp
  have hprior (p : Int) (w : Window) (hw : prior.windows.get? p = some w) : p ∈ b.partitionList := by
    by_contra hpl
    obtain ⟨-, position, hposition⟩ := hknows sweep hstate p w ((hout p hpl).1.trans hw)
    have hnone : (c.assign Scene.listener b (some prior)).consumer.positions.get? p = none := by
      rw [hconsumer]
      exact (hout p hpl).2
    cases hnone.symm.trans hposition
  obtain ⟨sweep', hstate', hgiven⟩ := exists_given g rfl hprior hp
  obtain rfl := Option.some.inj (hstate'.symm.trans e)
  exact hgiven.mono rfl (fun _ => Int.le_refl _) rfl

end OrderRelay
