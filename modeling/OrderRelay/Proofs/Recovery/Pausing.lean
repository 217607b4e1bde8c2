import OrderRelay.Proofs.Recovery.Exactness
import OrderRelay.Proofs.Worker.Moved

/-!
# Drained partitions at a poll

A worker stops reading what its sweep has drained. It tells its consumer once for each partition, and forgets
about a partition that is no longer drained. An assignment makes the consumer read all partitions again. So a
partition is overlooked that the worker remembers to have stopped reading, if it comes out of a new assignment
drained at once, and it is read until the next assignment.

* `Known`, what is known of the windows of a sweep and of the consumer it listens to, and
  `exists_assign_of_windowless`: an assignment brings it about;
* `Overlooked`, said of the last assignment that a history tells of;
* `Pausing`, the invariant, with `Pausing.moved` and `Pausing.reassigned`;
* **`unpaused_at_poll_iff`**: at a poll, the drained partitions are paused except for the overlooked ones, and
  `polled_again_and_again`: what becomes of a record of an overlooked one.
-/

namespace OrderRelay

open Log

/-! ## Windows and read positions -/

/-- A consumer whose sweep has a window for a partition has been given the partition. -/
def Known (c : Consumer) (sweep : Sweep) : Prop :=
  ∀ p w, sweep.windows.get? p = some w → c.pending = false ∧ ∃ position, c.positions.get? p = some position

/-- So it is with a worker's consumer and its sweep. With a new sweep it always is when the worker begins, and
with a used one if the consumer gets its partitions at once and they are all that the sweep knows. -/
def Solo.Knows {η : Type} (f : Solo η) : Prop :=
  ∀ sweep, f.scene.sweep = some sweep → Known f.scene.consumer sweep

section Windows

variable {c c' : Consumer} {sweep sweep' : Sweep}

theorem known_of_windowless (h : ∀ p, sweep.windows.get? p = none) : Known c sweep :=
  fun p _ hw => nomatch (h p).symm.trans hw

theorem Known.windowless (h : Known c sweep) (hp : c.pending = true) (p : Int) :
    sweep.windows.get? p = none := by
  cases hw : sweep.windows.get? p with
  | none => rfl
  | some w => cases hp.symm.trans (h p w hw).1

theorem Known.mono (h : Known c sweep)
    (hw : ∀ p, sweep.windows.get? p = none → sweep'.windows.get? p = none) (hp : c'.pending = c.pending)
    (hc : ∀ p position, c.positions.get? p = some position →
      ∃ position', c'.positions.get? p = some position') : Known c' sweep' := by
  intro p w' hw'
  cases hs : sweep.windows.get? p with
  | none => cases (hw p hs).symm.trans hw'
  | some w =>
    obtain ⟨hpending, position, hposition⟩ := h p w hs
    exact ⟨hp.trans hpending, hc p position hposition⟩

theorem Known.hear (h : Known c sweep) (n : Note) : Known c (sweep.hear n) :=
  h.mono (fun p => (Sweep.get?_hear_eq_none_iff sweep n p).mpr) rfl fun _ position hp => ⟨position, hp⟩

theorem Known.halted {ps : List Int} {own own' : PartitionSet} (h : Known c sweep)
    (hh : Halted ps own c own' c') : Known c' sweep :=
  h.mono (fun _ => id) hh.pending_eq fun _ position hp => ⟨position, by rw [hh.positions_eq]; exact hp⟩

theorem Known.rewind (h : Known c sweep) (r : ConsumedRecord) : Known (c.rewind r) sweep := by
  refine h.mono (fun _ => id) (Consumer.pending_rewind c r) fun p position hp => ?_
  rw [Consumer.get?_rewind, hp]
  split
  · exact ⟨r.offset, rfl⟩
  · exact ⟨position, rfl⟩

theorem Known.read (h : Known c sweep) {b : Bus} {r : ConsumedRecord} (hr : Consumer.Read b c r c') :
    Known c' sweep := by
  refine h.mono (fun _ => id) hr.pending_eq fun p position hp => ?_
  rw [hr.get?_positions, hp]
  split
  · exact ⟨r.offset + 1, rfl⟩
  · exact ⟨position, rfl⟩

/-- An assignment that fails leaves no windows, if there were none. No partition of the channel can be asked if
one cannot. -/
theorem windowless_of_failure {b : Bus} {channel : String} {e : OffsetQueryError}
    (hf : (Sweep.assigned (b.control channel) b.partitionList sweep).failure = some e)
    (h : ∀ p, sweep.windows.get? p = none) (p : Int) :
    (Sweep.assigned (b.control channel) b.partitionList sweep).state.windows.get? p = none := by
  obtain ⟨before, q, after, -, hq, hstopped⟩ := Sweep.exists_failing hf
  rw [hstopped.get?_eq]
  split
  · rfl
  · split
    · rename_i hp
      obtain ⟨m, hm⟩ := hstopped.asked p hp
      cases hfailing : b.failing channel with
      | true =>
        obtain ⟨e', he'⟩ := Sweep.track_control_failing hfailing p
        cases hm.symm.trans he'
      | false => cases hq.symm.trans (Sweep.track_control hfailing q)
    · exact h p

/-- An assignment with a sweep that has no windows gives each window a read position, or no window at all. -/
theorem exists_assign_of_windowless (b : Bus) (c : Consumer) (h : ∀ p, sweep.windows.get? p = none) :
    ∃ sweep', (c.assign Scene.listener b (some sweep)).state = some sweep' ∧
      Known (c.assign Scene.listener b (some sweep)).consumer sweep' ∧
      ∀ p, (c.assign Scene.listener b (some sweep)).consumer.isPaused p = false := by
  obtain ⟨hstate, hconsumer⟩ := Consumer.assign_eq Scene.listener b c (some sweep)
  let r := Sweep.assigned (b.control c.channel.name) b.partitionList sweep
  have hanswer : Scene.listener.assigned (b.control c.channel.name) b.partitionList (some sweep) =
      ⟨some r.state, r.seeks, r.failure, r.entries⟩ := rfl
  rw [hanswer] at hstate hconsumer
  have hfree (p : Int) : (c.assign Scene.listener b (some sweep)).consumer.isPaused p = false := by
    rw [hconsumer]
    dsimp only
    split <;> rfl
  cases hf : r.failure with
  | some e => exact ⟨r.state, hstate, known_of_windowless (windowless_of_failure hf h), hfree⟩
  | none =>
    have hgiven : (c.assign Scene.listener b (some sweep)).consumer.pending = false := by rw [hconsumer, hf]
    obtain ⟨sweep', positions, hstate', hconsumer', hin, hout⟩ := exists_assigned hgiven
    refine ⟨sweep', hstate', fun p w hw => ⟨hgiven, ?_⟩, hfree⟩
    rw [hconsumer']
    by_cases hp : p ∈ b.partitionList
    · exact ⟨_, (hin p hp).2⟩
    · cases ((hout p hp).1.trans (h p)).symm.trans hw

theorem PartitionMap.get?_foldl_erase {α : Type} (ps : List Int) (m : PartitionMap α) (p : Int) :
    (ps.foldl PartitionMap.erase m).get? p = if p ∈ ps then none else m.get? p := by
  induction ps generalizing m with
  | nil => rfl
  | cons q ps ih =>
    rw [List.foldl_cons, ih, PartitionMap.get?_erase]
    by_cases hq : q = p
    · simp [hq]
    · have hq' : p ≠ q := fun e => hq e.symm
      simp [hq, hq']

/-- A consumer that loses its partitions takes all windows away that it knows of. -/
theorem windowless_revoked (h : Known c sweep) :
    ∃ sweep', (if c.assignment.isEmpty then some sweep
      else Scene.listener.revoked c.assignment (some sweep)) = some sweep' ∧
      ∀ p, sweep'.windows.get? p = none := by
  have hknown (p : Int) (hp : p ∉ c.assignment) : sweep.windows.get? p = none := by
    cases hw : sweep.windows.get? p with
    | none => rfl
    | some w =>
      obtain ⟨-, position, hposition⟩ := h p w hw
      exact absurd (PartitionMap.mem_keys_iff.mpr (by rw [hposition]; rfl)) hp
  cases hempty : c.assignment.isEmpty with
  | true =>
    refine ⟨sweep, rfl, fun p => hknown p ?_⟩
    rw [List.isEmpty_iff.mp hempty]
    exact List.not_mem_nil
  | false =>
    refine ⟨sweep.revoked c.assignment, rfl, fun p => ?_⟩
    have hget : (sweep.revoked c.assignment).windows.get? p =
        if p ∈ c.assignment then none else sweep.windows.get? p :=
      PartitionMap.get?_foldl_erase c.assignment sweep.windows p
    rw [hget]
    split
    · rfl
    · rename_i hp
      exact hknown p hp

end Windows

theorem mem_drained_hear {sweep : Sweep} {p : Int} (h : p ∈ sweep.drained) (n : Note) :
    p ∈ (sweep.hear n).drained := by
  obtain ⟨w, hw, hd⟩ := Sweep.mem_drained_iff.mp h
  obtain ⟨w', hw', -, hd'⟩ := Sweep.exists_get?_hear hw n
  exact Sweep.mem_drained_iff.mpr ⟨w', hw', hd' hd⟩

/-- A partition whose window was drained, or is drained by the note. -/
theorem mem_drained_hear_of_reaches {sweep : Sweep} {n : Note} {w : Window}
    (hw : sweep.windows.get? n.partition = some w) (h : w.drained = true ∨ n.reaches w.last = true) :
    n.partition ∈ (sweep.hear n).drained := by
  refine Sweep.mem_drained_iff.mpr ⟨_, by rw [Sweep.get?_hear, hw]; rfl, ?_⟩
  cases hd : w.drained with
  | true => simp [Note.drains, hd]
  | false =>
    have hr : n.reaches w.last = true := h.resolve_left (by rw [hd]; exact Bool.false_ne_true)
    simp [Note.drains, Window.close_drained, hd, hr]

/-! ## What was overlooked -/

/-- The partitions remembered and the ones drained at an assignment. -/
def Happening.reassignment? : Happening → Option (PartitionSet × List Int)
  | reassigned remembered drained => some (remembered, drained)
  | _ => none

/-- The last new assignment left the partition drained, and the worker remembered to have stopped reading
it. -/
def Overlooked (h : List Happening) (p : Int) : Prop :=
  ∃ remembered drained, (h.filterMap Happening.reassignment?).getLast? = some (remembered, drained) ∧
    remembered.contains p = true ∧ p ∈ drained

section Overlooking

variable {h es : List Happening} {p : Int}

theorem not_overlooked_nil : ¬ Overlooked [] p := by
  rintro ⟨remembered, drained, hlast, -⟩
  cases hlast

theorem overlooked_append (hes : ∀ e ∈ es, e.reassignment? = none) :
    Overlooked (h ++ es) p ↔ Overlooked h p := by
  have hnil : es.filterMap Happening.reassignment? = [] := List.filterMap_eq_nil_iff.mpr hes
  unfold Overlooked
  rw [List.filterMap_append, hnil, List.append_nil]

theorem overlooked_reassigned (remembered : PartitionSet) (drained : List Int) :
    Overlooked (h ++ [.reassigned remembered drained]) p ↔ remembered.contains p = true ∧ p ∈ drained := by
  have hlast : ((h ++ [Happening.reassigned remembered drained]).filterMap
      Happening.reassignment?).getLast? = some (remembered, drained) := by
    rw [List.filterMap_append]
    exact List.getLast?_concat
  constructor
  · rintro ⟨remembered', drained', hlast', hp⟩
    obtain ⟨rfl, rfl⟩ := Prod.mk.inj (Option.some.inj (hlast.symm.trans hlast'))
    exact hp
  · intro hp
    exact ⟨remembered, drained, hlast, hp⟩

end Overlooking

/-! ## The invariant -/

namespace Worker.Point

/-- The worker is in the middle of a round. -/
def underway : Point → Bool
  | inPhase .ready => false
  | inPhase (.stopped _) => false
  | _ => true

end Worker.Point

/-- What the worker remembers to have stopped reading, and its sweep says is drained, its consumer has stopped
reading but for what was overlooked. -/
structure Pausing (g : Sight) (h : List Happening) : Prop where
  known : ∀ sweep, g.sweep = some sweep → Known g.consumer sweep
  overlooked_iff : ∀ p, (g.own.contains p = true ∧ g.consumer.isPaused p = false ∧ p ∈ drainedOf g.sweep) ↔
    Overlooked h p
  own_drained : g.point.underway = true → ∀ p, g.own.contains p = true → p ∈ drainedOf g.sweep
  drained_own : g.point = .polling → ∀ p ∈ drainedOf g.sweep, g.own.contains p = true
  polls : ∀ xs drained paused ys, h = xs ++ .polled drained paused :: ys → ∀ p ∈ drained,
    paused.contains p = false ↔ Overlooked xs p

section Steps

variable {η ε : Type} {k : Handling η ε} {topology : Topology} {tier : Tier} {g g' : Sight}
  {h es : List Happening}

theorem reassignment?_eq_none_of_moved (hm : Moved k topology tier g g' es) :
    ∀ e ∈ es, e.reassignment? = none := by
  cases hm <;> simp [Happening.reassignment?]

/-- Only a move from the point of polling asks for a record. -/
theorem polled_of_moved (hm : Moved k topology tier g g' es) {zs ys : List Happening} {drained : List Int}
    {paused : PartitionSet} (he : es = zs ++ .polled drained paused :: ys) :
    zs = [] ∧ g.point = .polling ∧ drained = drainedOf g.sweep ∧ paused = g.consumer.paused := by
  have hmem : Happening.polled drained paused ∈ es := by rw [he]; simp
  have hone (hp : g.point = .polling) (hes : es = [.polled (drainedOf g.sweep) g.consumer.paused]) :
      zs = [] ∧ g.point = .polling ∧ drained = drainedOf g.sweep ∧ paused = g.consumer.paused := by
    cases zs with
    | nil =>
      obtain ⟨hd, hps⟩ := Happening.polled.inj (List.cons.inj (hes.symm.trans he)).1
      exact ⟨rfl, hp, hd.symm, hps.symm⟩
    | cons z zs =>
      have := (List.cons.inj (hes.symm.trans he)).2
      simp at this
  cases hm with
  | read polling => exact hone polling rfl
  | empty polling => exact hone polling rfl
  | _ => simp at hmem

/-- What has to be kept from one sight to the next. -/
structure Onward (g g' : Sight) : Prop where
  known : ∀ sweep, g'.sweep = some sweep → Known g'.consumer sweep
  same : ∀ p, (g'.own.contains p = true ∧ g'.consumer.isPaused p = false ∧ p ∈ drainedOf g'.sweep) ↔
    (g.own.contains p = true ∧ g.consumer.isPaused p = false ∧ p ∈ drainedOf g.sweep)
  own_drained : g'.point.underway = true → ∀ p, g'.own.contains p = true → p ∈ drainedOf g'.sweep
  drained_own : g'.point = .polling → ∀ p ∈ drainedOf g'.sweep, g'.own.contains p = true

theorem Pausing.next (hp : Pausing g h) (hes : ∀ e ∈ es, e.reassignment? = none)
    (hpolled : ∀ zs drained paused ys, es = zs ++ .polled drained paused :: ys →
      zs = [] ∧ g.point = .polling ∧ drained = drainedOf g.sweep ∧ paused = g.consumer.paused)
    (ho : Onward g g') : Pausing g' (h ++ es) where
  known := ho.known
  overlooked_iff p := (ho.same p).trans ((hp.overlooked_iff p).trans (overlooked_append hes).symm)
  own_drained := ho.own_drained
  drained_own := ho.drained_own
  polls xs drained paused ys heq p hpd := by
    rcases eq_append_or heq with ⟨zs, hh, -⟩ | ⟨zs, rfl, he⟩
    · exact hp.polls xs drained paused zs hh p hpd
    · obtain ⟨rfl, hpoint, rfl, rfl⟩ := hpolled zs drained paused ys he
      rw [List.append_nil, ← hp.overlooked_iff]
      constructor
      · intro hpaused
        exact ⟨hp.drained_own hpoint p hpd, hpaused, hpd⟩
      · rintro ⟨-, hpaused, -⟩
        exact hpaused

theorem Pausing.still (hp : Pausing g h) (hsweep : g'.sweep = g.sweep) (hconsumer : g'.consumer = g.consumer)
    (hown : g'.own = g.own) (hpoint : g'.point.underway = true → g.point.underway = true)
    (hpolling : g'.point = .polling → g.point = .polling) : Onward g g' where
  known := by
    rw [hsweep, hconsumer]
    exact hp.known
  same := by
    rw [hsweep, hconsumer, hown]
    exact fun _ => Iff.rfl
  own_drained := by
    rw [hsweep, hown]
    exact fun hu => hp.own_drained (hpoint hu)
  drained_own := by
    rw [hsweep, hown]
    exact fun hpoll => hp.drained_own (hpolling hpoll)

/-- What the sweep hears of in a round overlooks nothing. -/
theorem Pausing.heard (hp : Pausing g h) {sweep : Sweep} (hs : g.sweep = some sweep)
    (hu : g.point.underway = true) (n : Note) (p : Int) :
    (g.own.contains p = true ∧ g.consumer.isPaused p = false ∧ p ∈ drainedOf (some (sweep.hear n))) ↔
      (g.own.contains p = true ∧ g.consumer.isPaused p = false ∧ p ∈ drainedOf g.sweep) := by
  refine and_congr_right fun hown => and_congr_right fun _ => ?_
  have hd := hp.own_drained hu p hown
  have hd' := hd
  rw [hs] at hd'
  exact ⟨fun _ => hd, fun _ => mem_drained_hear hd' n⟩

/-- A consumer that gets its partitions in a poll overlooks nothing, since the worker remembers nothing. -/
theorem Pausing.exists_arrived (hp : Pausing g h) {sweep : Sweep} (hs : g.sweep = some sweep)
    (hpoint : g.point = .polling) : ∃ sweep', g.arrived.sweep = some sweep' ∧
      Known g.arrived.consumer sweep' ∧
      (∀ p, (g.own.contains p = true ∧ g.arrived.consumer.isPaused p = false ∧
          p ∈ drainedOf g.arrived.sweep) ↔
        (g.own.contains p = true ∧ g.consumer.isPaused p = false ∧ p ∈ drainedOf g.sweep)) ∧
      ∀ p, g.own.contains p = true → p ∈ drainedOf g.arrived.sweep := by
  have hown := hp.own_drained (by rw [hpoint]; rfl)
  cases hpending : g.consumer.pending with
  | false =>
    rw [Sight.arrived_of_not_pending hpending]
    exact ⟨sweep, hs, hp.known sweep hs, fun _ => Iff.rfl, hown⟩
  | true =>
    have hwindowless := (hp.known sweep hs).windowless hpending
    have hnothing (p : Int) : g.own.contains p = false := by
      rw [Bool.eq_false_iff]
      intro ho
      have hd := hown p ho
      rw [hs] at hd
      obtain ⟨w, hw, -⟩ := Sweep.mem_drained_iff.mp hd
      cases (hwindowless p).symm.trans hw
    obtain ⟨sweep', hstate, hknown, -⟩ := exists_assign_of_windowless g.bus g.consumer hwindowless
    have harrived : g.arrived = { g with
        consumer := (g.consumer.assign Scene.listener g.bus (some sweep)).consumer
        sweep := some sweep' } := by
      rw [← hstate, ← hs, Sight.arrived, hpending]
      rfl
    rw [harrived]
    refine ⟨sweep', rfl, hknown, fun p => ?_, fun p ho => ?_⟩
    · rw [hnothing p]
      exact ⟨fun hc => absurd hc.1 Bool.false_ne_true, fun hc => absurd hc.1 Bool.false_ne_true⟩
    · cases (hnothing p).symm.trans ho

/-- At the beginning of a round the consumer is told of what is drained. -/
theorem entered_iff {sweep : Sweep} (hs : g.sweep = some sweep) {own : PartitionSet} {c : Consumer}
    (hh : Halted sweep.drained (Handling.stillDrained sweep g.own) g.consumer own c) (p : Int) :
    (own.contains p = true ↔ p ∈ drainedOf g.sweep) ∧
      ((own.contains p = true ∧ c.isPaused p = false ∧ p ∈ drainedOf g.sweep) ↔
        (g.own.contains p = true ∧ g.consumer.isPaused p = false ∧ p ∈ drainedOf g.sweep)) := by
  have hdrained : drainedOf g.sweep = sweep.drained := by rw [hs]; rfl
  rw [hdrained]
  have hown : own.contains p = true ↔ p ∈ sweep.drained := by
    rw [hh.own_iff, Handling.contains_stillDrained]
    exact ⟨fun ho => ho.elim (·.2) id, .inr⟩
  refine ⟨hown, ?_⟩
  have hpaused := hh.paused_iff p
  have hstill := Handling.contains_stillDrained sweep g.own p
  constructor
  · rintro ⟨-, hfree, hd⟩
    rw [← Bool.not_eq_true, hpaused, not_or, not_and] at hfree
    have hkept := (hstill.mp (by simpa using hfree.2 hd)).1
    exact ⟨hkept, by simpa using hfree.1, hd⟩
  · rintro ⟨hkept, hfree, hd⟩
    refine ⟨hown.mpr hd, ?_, hd⟩
    rw [← Bool.not_eq_true, hpaused]
    rintro (hc | ⟨-, hno⟩)
    · cases hfree.symm.trans hc
    · cases hno.symm.trans (hstill.mpr ⟨hkept, hd⟩)

/-- When a record is held back, its partition is drained, and the consumer is told of it unless the worker
remembers to have done so. -/
theorem Pausing.held (hp : Pausing g h) {r : ConsumedRecord} (hpoint : g.point = .judging r) {sweep : Sweep}
    (hs : g.sweep = some sweep) {w : Window} (hw : sweep.windows.get? r.partition = some w)
    (hpast : w.drained = true ∨ w.last < r.offset) {own : PartitionSet} {c : Consumer}
    (hh : Halted [r.partition] g.own (g.consumer.rewind r) own c) (p : Int) :
    (own.contains p = true ∧ c.isPaused p = false ∧
        p ∈ drainedOf (some (sweep.hear (.judged r.partition r.offset)))) ↔
      (g.own.contains p = true ∧ g.consumer.isPaused p = false ∧ p ∈ drainedOf g.sweep) := by
  have hu : g.point.underway = true := by rw [hpoint]; rfl
  have hreaches : w.drained = true ∨ (Note.judged r.partition r.offset).reaches w.last = true :=
    hpast.imp_right fun hlt => by simpa [Note.reaches] using hlt
  have hhere : r.partition ∈ drainedOf (some (sweep.hear (.judged r.partition r.offset))) :=
    mem_drained_hear_of_reaches (n := .judged r.partition r.offset) hw hreaches
  have hpaused := hh.paused_iff p
  rw [Consumer.isPaused_rewind] at hpaused
  have hown := hh.own_iff p
  by_cases hpr : p = r.partition
  · subst hpr
    constructor
    · rintro ⟨-, hfree, -⟩
      rw [← Bool.not_eq_true, hpaused, not_or, not_and] at hfree
      have hkept : g.own.contains r.partition = true := by simpa using hfree.2 (List.mem_singleton.mpr rfl)
      exact ⟨hkept, by simpa using hfree.1, hp.own_drained hu _ hkept⟩
    · rintro ⟨hkept, hfree, -⟩
      refine ⟨hown.mpr (.inl hkept), ?_, hhere⟩
      rw [← Bool.not_eq_true, hpaused]
      rintro (hc | ⟨-, hno⟩)
      · cases hfree.symm.trans hc
      · cases hno.symm.trans hkept
  · have hsame : c.isPaused p = g.consumer.isPaused p := by
      rw [Bool.eq_iff_iff, hpaused, List.mem_singleton]
      exact ⟨fun hc => hc.resolve_right fun hc => hpr hc.1, .inl⟩
    have hsame' : own.contains p = g.own.contains p := by
      rw [Bool.eq_iff_iff, hown, List.mem_singleton]
      exact ⟨fun hc => hc.resolve_right hpr, .inl⟩
    rw [hsame, hsame']
    exact hp.heard hs hu _ p

theorem Pausing.onward (hp : Pausing g h) {sweep : Sweep} (hs : g.sweep = some sweep)
    (hm : Moved k topology tier g g' es) : Onward g g' := by
  have hknown := hp.known sweep hs
  -- What a sweep hears of does not go back on the windows.
  have hheard (n : Note) (c : Consumer) (hc : Known c sweep) (s : Sweep)
      (e : some (sweep.hear n) = some s) : Known c s := Option.some.inj e ▸ hc.hear n
  cases hm with
  | asked ready asked => exact hp.still rfl rfl rfl nofun nofun
  | ended ready sweep_eq complete halted =>
    obtain rfl := Option.some.inj (hs.symm.trans sweep_eq)
    refine ⟨fun s e => ?_, fun p => (entered_iff hs halted p).2, nofun, nofun⟩
    obtain rfl := Option.some.inj (hs.symm.trans e)
    exact hknown.halted halted
  | entered ready sweep_eq incomplete halted =>
    obtain rfl := Option.some.inj (hs.symm.trans sweep_eq)
    refine ⟨fun s e => ?_, fun p => (entered_iff hs halted p).2,
      fun _ p => (entered_iff hs halted p).1.mp, fun _ p => (entered_iff hs halted p).1.mpr⟩
    obtain rfl := Option.some.inj (hs.symm.trans e)
    exact hknown.halted halted
  | passed ready sweep_eq => cases hs.symm.trans sweep_eq
  | read polling given read =>
    obtain ⟨sweep', hs', hknown', hsame, hown⟩ := hp.exists_arrived hs polling
    refine ⟨fun s e => ?_, fun p => ?_, fun _ p ho => ?_, nofun⟩
    · obtain rfl := Option.some.inj (hs'.symm.trans e)
      exact hknown'.read read
    · rw [← hsame p, read.isPaused_eq, Sight.arrived_own]
    · rw [Sight.arrived_own] at ho
      exact hown p ho
  | empty polling nothing =>
    obtain ⟨sweep', hs', hknown', hsame, hown⟩ := hp.exists_arrived hs polling
    refine ⟨fun s e => ?_, fun p => ?_, fun _ p ho => ?_, nofun⟩
    · obtain rfl := Option.some.inj (hs'.symm.trans e)
      exact hknown'
    · rw [← hsame p, Sight.arrived_own]
    · rw [Sight.arrived_own] at ho
      exact hown p ho
  | taken judging inside => exact hp.still rfl rfl rfl (fun _ => by rw [judging]; rfl) nofun
  | held judging sweep_eq window past halted =>
    obtain rfl := Option.some.inj (hs.symm.trans sweep_eq)
    exact ⟨hheard _ _ ((hknown.rewind _).halted halted), hp.held judging hs window past halted, nofun, nofun⟩
  | strange judging sweep_eq window =>
    refine ⟨fun s e => ?_, fun p => ?_, nofun, nofun⟩
    · obtain rfl := Option.some.inj (hs.symm.trans e)
      exact hknown.rewind _
    · rw [Consumer.isPaused_rewind]
  | looked looking sweep_eq =>
    obtain rfl := Option.some.inj (hs.symm.trans sweep_eq)
    have hu : g.point.underway = true := by rw [looking]; rfl
    cases g.bus.failing (topology.channelName tier) with
    | true => exact hp.still hs.symm rfl rfl (fun _ => hu) nofun
    | false =>
      simp only [Bool.false_eq_true, if_false]
      refine ⟨hheard _ _ hknown, hp.heard hs hu _, fun _ p ho => ?_, nofun⟩
      have hd := hp.own_drained hu p ho
      rw [hs] at hd
      exact mem_drained_hear hd _
  | glanced looking sweep_eq => cases hs.symm.trans sweep_eq
  | turned looking => exact hp.still rfl rfl rfl nofun nofun
  | evaluated holding => exact hp.still rfl rfl rfl (fun _ => by rw [holding]; rfl) nofun
  | finished handled plan => exact hp.still rfl rfl rfl (fun _ => by rw [handled]; rfl) nofun
  | stored handled plan publish => exact hp.still rfl rfl rfl (fun _ => by rw [handled]; rfl) nofun
  | refused handled plan => exact hp.still rfl rfl rfl (fun _ => by rw [handled]; rfl) nofun
  | @committed r _ _ resolved settled =>
    have hu : g.point.underway = true := by rw [resolved]; rfl
    refine ⟨fun s e => ?_, fun p => ?_, nofun, nofun⟩
    · rw [hs] at e
      exact hheard _ _ hknown s e
    · have hheard := hp.heard hs hu (.settled r.partition r.offset) p
      rw [hs] at hheard ⊢
      exact hheard
  | rewound resolved unsettled =>
    refine ⟨fun s e => ?_, fun p => ?_, nofun, nofun⟩
    · obtain rfl := Option.some.inj (hs.symm.trans e)
      exact hknown.rewind _
    · rw [Consumer.isPaused_rewind]
  | stopped left => exact hp.still rfl rfl rfl id id

/-- Every move of a worker with a sweep keeps the invariant. -/
theorem Pausing.moved (hp : Pausing g h) {sweep : Sweep} (hs : g.sweep = some sweep)
    (hm : Moved k topology tier g g' es) : Pausing g' (h ++ es) :=
  hp.next (reassignment?_eq_none_of_moved hm) (fun _ _ _ _ => polled_of_moved hm) (hp.onward hs hm)

/-- So does everything that only others do. -/
theorem Pausing.around (hp : Pausing g h) (b : Bus) (stopAsked : Bool) (es : List Event) :
    Pausing { g with bus := b, stopAsked } (h ++ es.map .told) := by
  have hquiet (e : Happening) (he : e ∈ es.map Happening.told) : e.reassignment? = none := by
    obtain ⟨e, -, rfl⟩ := List.mem_map.mp he
    rfl
  refine hp.next hquiet (fun zs drained paused ys heq => ?_) (hp.still rfl rfl rfl id id)
  have hmem : Happening.polled drained paused ∈ es.map Happening.told := by rw [heq]; simp
  obtain ⟨e, -, he⟩ := List.mem_map.mp hmem
  cases he

/-- A new assignment between two rounds overlooks what it leaves drained, if the worker remembers it. -/
theorem Pausing.reassigned (hp : Pausing g h) {sweep : Sweep} (hs : g.sweep = some sweep)
    (hready : g.point = .inPhase .ready) :
    let a := g.consumer.rebalance Scene.listener g.bus g.sweep
    Pausing { g with consumer := a.consumer, sweep := a.state }
      (h ++ [.reassigned g.own (drainedOf a.state)]) := by
  obtain ⟨revoked, hrevoked, hwindowless⟩ := windowless_revoked (hp.known sweep hs)
  let bare : Consumer := { g.consumer with positions := .empty }
  let a : Assigned (Option Sweep) := bare.assign Scene.listener g.bus (some revoked)
  obtain ⟨sweep', hstate, hknown, hfree⟩ := exists_assign_of_windowless g.bus bare hwindowless
  have ha : g.consumer.rebalance Scene.listener g.bus g.sweep = a := by
    rw [hs]
    show bare.assign Scene.listener g.bus _ = _
    rw [hrevoked]
  dsimp only
  rw [ha]
  refine ⟨fun s e => ?_, fun p => ?_, fun hu => ?_, fun hpoll => ?_, fun xs drained paused ys heq => ?_⟩
  · obtain rfl := Option.some.inj (hstate.symm.trans e)
    exact hknown
  · rw [overlooked_reassigned]
    exact ⟨fun ho => ⟨ho.1, ho.2.2⟩, fun ho => ⟨ho.1, hfree p, ho.2⟩⟩
  · have hu : g.point.underway = true := hu
    rw [hready] at hu
    cases hu
  · cases hready.symm.trans hpoll
  · rcases eq_append_or heq with ⟨zs, hh, -⟩ | ⟨zs, -, he⟩
    · exact hp.polls xs drained paused zs hh
    · have hmem : Happening.polled drained paused ∈ [Happening.reassigned g.own (drainedOf a.state)] := by
        rw [he]
        simp
      cases List.mem_singleton.mp hmem

end Steps

/-! ## Runs -/

namespace Handling

variable {η ε : Type} {k : Handling η ε} {topology : Topology} {tier : Tier} {tick : Text.Duration}
  {f : Solo η}

theorem pausing_soloPerform (hm : Suits .recovery f.scene.sweep) (hp : Pausing f.sight f.history)
    (a : SoloAct η) :
    Pausing (k.soloPerform topology tier .recovery tick f a).sight
      (k.soloPerform topology tier .recovery tick f a).history := by
  have hsweep := hm
  obtain ⟨sweep, hs⟩ := hsweep
  cases a with
  | move =>
    obtain ⟨es, hmoved, hes⟩ := exists_moved k topology tier tick hm
    have hmoves := hp.moved hs hmoved
    rw [← hes] at hmoves
    exact hmoves
  | outside o => exact hp.around (o.alter f.scene.bus) f.scene.stopAsked (o.events f.scene.bus)
  | askStop =>
    have ha := hp.around f.scene.bus true []
    rw [List.map_nil, List.append_nil] at ha
    exact ha
  | rebalance =>
    show Pausing f.rebalanced.sight f.rebalanced.history
    unfold Solo.rebalanced
    split
    · rename_i hready
      exact hp.reassigned hs hready
    · exact hp

theorem pausing_soloOpening (k : Handling η ε) {b : Bus} {name : String} {prior : Sweep} {memory : η}
    {now : Int} (hknows : (k.soloOpening topology tier .recovery tick b name prior memory now).Knows) :
    Pausing (k.soloOpening topology tier .recovery tick b name prior memory now).sight [] := by
  refine ⟨hknows, fun p => ?_, nofun, nofun, fun xs _ _ ys heq => ?_⟩
  · constructor
    · rintro ⟨hown, -⟩
      cases hown
    · exact fun ho => (not_overlooked_nil ho).elim
  · cases xs <;> cases heq

/-- So it is with a new sweep. -/
theorem knows_soloOpening (k : Handling η ε) (topology : Topology) (tier : Tier) (tick : Text.Duration)
    (b : Bus) (name : String) (memory : η) (now : Int) :
    (k.soloOpening topology tier .recovery tick b name (.start (topology.channelName tier)) memory
      now).Knows := by
  intro s e
  have hwindowless (p : Int) : (Sweep.start (topology.channelName tier)).windows.get? p = none := rfl
  obtain ⟨sweep, hstate, hknown, -⟩ :=
    exists_assign_of_windowless b (.fresh (topology.channel tier) name) hwindowless
  obtain rfl := Option.some.inj (hstate.symm.trans e)
  exact hknown

/-- **Drained partitions at a poll.** Whatever goes on around a worker with a sweep, and whenever its consumer
gets its partitions anew, at each poll the consumer has stopped reading a drained partition unless it was
overlooked: the last new assignment before left it drained at once, and the worker remembered to have stopped
reading it. -/
theorem unpaused_at_poll_iff (k : Handling η ε) (topology : Topology) (tier : Tier) (tick : Text.Duration)
    (b : Bus) (name : String) (prior : Sweep) (memory : η) (now : Int) (acts : List (SoloAct η))
    (xs ys : List Happening) (drained : List Int) (paused : PartitionSet) (p : Int)
    (hknows : (k.soloOpening topology tier .recovery tick b name prior memory now).Knows)
    (hpolled : (k.soloAfter topology tier .recovery tick b name prior memory now acts).history =
      xs ++ .polled drained paused :: ys)
    (hp : p ∈ drained) : paused.contains p = false ↔ Overlooked xs p := by
  let opening : Solo η := k.soloOpening topology tier .recovery tick b name prior memory now
  have hopening : Pausing opening.sight opening.history := pausing_soloOpening k hknows
  have hend : Pausing (k.soloRun topology tier .recovery tick opening acts).sight
      (k.soloRun topology tier .recovery tick opening acts).history :=
    soloRun_induction (P := fun f => Pausing f.sight f.history) acts
      (fun f a _ hm hpausing => pausing_soloPerform hm hpausing a)
      (suits_soloOpening k tick b name prior memory now) hopening
  exact hend.polls xs drained paused ys hpolled p hp

/-- After a round, the consumer gets its partitions anew. Then a record comes in on the partition that was
empty all the time. -/
def lateArrival : List (SoloAct Unit) :=
  List.replicate 6 .move ++ [.rebalance, .outside (.publish ⟨"k", [2, 99], "order-received-error", 0⟩ 0)] ++
    List.replicate 12 .move

/-- The worker of the last tier on such a run. -/
def afterLateArrival : Solo Unit :=
  accepting.soloAfter .standard .error .recovery ⟨0⟩ threeFailed "a" (.start "order-received-error") () 0
    lateArrival

/-- The partition that came out drained of the new assignment is read all the same, and its record held back,
again and again. -/
theorem polled_again_and_again :
    Happening.polled [0] .empty ∈ afterLateArrival.history ∧
      afterLateArrival.history.count (.told (.rewound .error ⟨"order-received-error",
        "item-handler-order-received-error", 0, 0, some "k", [2, 99], some 0⟩)) = 2 := by
  decide +kernel

theorem unpaused_after_lateArrival :
    afterLateArrival.history =
        afterLateArrival.history.take 6 ++ .polled [0] .empty :: afterLateArrival.history.drop 7 ∧
      ((PartitionMap.empty : PartitionSet).contains 0 = false ↔
        Overlooked (afterLateArrival.history.take 6) 0) := by
  have hpolled : afterLateArrival.history =
      afterLateArrival.history.take 6 ++ .polled [0] .empty :: afterLateArrival.history.drop 7 := by
    decide +kernel
  exact ⟨hpolled, unpaused_at_poll_iff .accepting .standard .error ⟨0⟩ threeFailed "a"
    (.start "order-received-error") () 0 lateArrival _ _ [0] .empty 0
    (knows_soloOpening .accepting .standard .error ⟨0⟩ threeFailed "a" () 0) hpolled (by decide)⟩

end Handling

end OrderRelay
