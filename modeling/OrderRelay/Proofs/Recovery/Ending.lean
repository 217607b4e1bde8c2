import Mathlib.Algebra.GroupWithZero.Nat
import Mathlib.Algebra.Order.BigOperators.Group.Finset
import OrderRelay.Proofs.Recovery.Course

/-!
# The end of a sweep

A sweep ends, whatever comes in meanwhile. Each poll reads a record of an open window, or finds that what was
left of the open windows is gone. So the offsets from the read positions to the ends of the open windows,
together with the number of these windows, become fewer with every poll.

* `Sight.backlog`, what is counted, and `Sight.movesLeft`, the moves that it bounds;
* `nearer_of_moved`: a move takes the worker nearer to its end, and a poll makes the backlog smaller;
* `Closer`, the same of a run, with `Going.closer_run`;
* **`sweep_ends`**: how many polls there are at most, and that the worker leaves its loop in the end.
-/

namespace OrderRelay

/-! ## What is left to do -/

theorem PartitionMap.nodup_keys {α : Type} (m : PartitionMap α) : m.keys.Nodup := by
  have hlt : m.keys.Pairwise (· < ·) := List.pairwise_map.mpr m.sorted
  exact hlt.imp fun h => Int.ne_of_lt h

namespace Worker.Point

/-- The partitions that are about to be looked at. -/
def looks : Point → List Int
  | looking ps => ps
  | _ => []

/-- How many moves there can be until the round is over and it is known whether another one follows. At a poll
nobody can tell. -/
def left : Point → Nat
  | inPhase .ready => 1
  | inPhase (.holding _) => 4
  | inPhase (.handled ..) => 3
  | inPhase (.resolved ..) => 2
  | inPhase (.stopped _) => 0
  | polling => 0
  | judging _ => 5
  | looking ps => ps.length + 2

end Worker.Point

namespace Sight

variable (g : Sight)

/-- How far the read position of a partition is from the end of its window. -/
def distance (p : Int) : Nat :=
  ((g.sweep.bind (·.snapshot? p)).getD (-1) + 1 - (g.consumer.positions.get? p).getD 0).toNat

/-- The partitions with something left to do, but for those that are about to be looked at. -/
def ahead : List Int := (pendingOf g.sweep).filter fun p => !g.point.looks.contains p

/-- What is left to do. -/
def backlog : Nat := (g.ahead.map fun p => g.distance p + 1).sum

/-- How many moves there can be. -/
def movesLeft : Nat := 6 * g.backlog + g.point.left

variable {g} {g' : Sight}

theorem nodup_pendingOf (sweep : Option Sweep) : (pendingOf sweep).Nodup := by
  cases sweep with
  | none => exact List.nodup_nil
  | some s => exact PartitionMap.nodup_keys _

theorem mem_ahead {p : Int} : p ∈ g.ahead ↔ p ∈ pendingOf g.sweep ∧ p ∉ g.point.looks := by
  simp [ahead]

theorem backlog_eq_sum : g.backlog = ∑ p ∈ g.ahead.toFinset, (g.distance p + 1) :=
  (List.sum_toFinset _ ((nodup_pendingOf g.sweep).filter _)).symm

/-- What is left to do of a partition. -/
def share (g : Sight) (p : Int) : Nat := if p ∈ g.ahead then g.distance p + 1 else 0

section Comparing

variable (hle : ∀ p ∈ g'.ahead, p ∈ g.ahead ∧ g'.distance p ≤ g.distance p)
include hle

theorem share_le (p : Int) : g'.share p ≤ g.share p := by
  unfold share
  by_cases hp : p ∈ g'.ahead
  · obtain ⟨hp', hd⟩ := hle p hp
    rw [if_pos hp, if_pos hp']
    omega
  · rw [if_neg hp]
    exact Nat.zero_le _

theorem backlog_eq_sum_share : g'.backlog = ∑ p ∈ g.ahead.toFinset, g'.share p := by
  have hsub : g'.ahead.toFinset ⊆ g.ahead.toFinset := fun p hp =>
    List.mem_toFinset.mpr (hle p (List.mem_toFinset.mp hp)).1
  calc g'.backlog = ∑ p ∈ g'.ahead.toFinset, (g'.distance p + 1) := backlog_eq_sum
    _ = ∑ p ∈ g'.ahead.toFinset, g'.share p :=
      Finset.sum_congr rfl fun p hp => (if_pos (List.mem_toFinset.mp hp)).symm
    _ = ∑ p ∈ g.ahead.toFinset, g'.share p :=
      Finset.sum_subset hsub fun p _ hp => if_neg fun hp' => hp (List.mem_toFinset.mpr hp')

/-- Where no more partitions are left to do, and none is farther from its end, no more is left to do. -/
theorem backlog_le : g'.backlog ≤ g.backlog := by
  rw [backlog_eq_sum_share hle, backlog_eq_sum_share fun p hp => ⟨hp, Nat.le_refl (g.distance p)⟩]
  exact Finset.sum_le_sum fun p _ => share_le hle p

/-- If one partition is nearer to its end, less is left to do. -/
theorem backlog_lt {p : Int} (hp : p ∈ g.ahead) (hlt : p ∈ g'.ahead → g'.distance p < g.distance p) :
    g'.backlog < g.backlog := by
  rw [backlog_eq_sum_share hle, backlog_eq_sum_share fun p hp => ⟨hp, Nat.le_refl (g.distance p)⟩]
  refine Finset.sum_lt_sum (fun q _ => share_le hle q) ⟨p, List.mem_toFinset.mpr hp, ?_⟩
  unfold share
  rw [if_pos hp]
  split
  · rename_i hp'
    have := hlt hp'
    omega
  · exact Nat.succ_pos _

end Comparing

theorem length_ahead_le : g.ahead.length ≤ g.backlog := by
  have h := List.length_le_sum_of_one_le (g.ahead.map fun p => g.distance p + 1) fun i hi => by
    obtain ⟨p, -, rfl⟩ := List.mem_map.mp hi
    exact Nat.le_add_left 1 _
  rwa [List.length_map] at h

theorem backlog_of_nil (h : g.ahead = []) : g.backlog = 0 := by
  rw [backlog, h]
  rfl

/-- The distance depends on the end of the window and the read position only. -/
theorem distance_congr {p : Int} (hs : g'.sweep.bind (·.snapshot? p) = g.sweep.bind (·.snapshot? p))
    (hp : g'.consumer.positions.get? p = g.consumer.positions.get? p) : g'.distance p = g.distance p := by
  rw [distance, distance, hs, hp]

theorem distance_eq {sweep : Sweep} {p position : Int} {w : Window} (hs : g.sweep = some sweep)
    (hw : sweep.windows.get? p = some w) (hp : g.consumer.positions.get? p = some position) :
    g.distance p = (w.last + 1 - position).toNat := by
  simp only [distance, hs, hp, Option.bind_some, Sweep.snapshot?, hw, Option.map_some, Option.getD_some]

end Sight

/-! ## One move -/

/-- The consumer was asked for a record. -/
def Happening.isPoll : Happening → Bool
  | polled .. => true
  | _ => false

/-- The worker is nearer to its end after a move. -/
structure Nearer (g g' : Sight) (es : List Happening) : Prop where
  polls : es.countP Happening.isPoll + g'.backlog ≤ g.backlog
  moves : g'.movesLeft < g.movesLeft

section Steps

variable {η ε : Type} {k : Handling η ε} {topology : Topology} {g g' : Sight} {es : List Happening}
  {sweep : Sweep}

/-- A move that is no poll leaves no more to do, and takes the worker on in its round. -/
theorem nearer_of_le (hpolls : es.countP Happening.isPoll = 0) (hb : g'.backlog ≤ g.backlog)
    (hleft : g'.point.left < g.point.left) : Nearer g g' es where
  polls := by omega
  moves := by
    unfold Sight.movesLeft
    omega

/-- The sweep hears of something, and no read position of an open window changes. -/
theorem backlog_le_of_hear (hs : g.sweep = some sweep) {n : Note} (hs' : g'.sweep = some (sweep.hear n))
    (hpoint : g.point.looks = [])
    (hp : ∀ p, p ∈ (sweep.hear n).pending → g'.consumer.positions.get? p = g.consumer.positions.get? p) :
    g'.backlog ≤ g.backlog := by
  refine Sight.backlog_le fun p hp' => ?_
  rw [Sight.mem_ahead, hs'] at hp'
  have hpending : p ∈ (sweep.hear n).pending := hp'.1
  constructor
  · rw [Sight.mem_ahead, hs, hpoint]
    exact ⟨Sweep.mem_pending_of_hear hpending, List.not_mem_nil⟩
  · refine Nat.le_of_eq (Sight.distance_congr ?_ (hp p hpending))
    rw [hs, hs']
    exact sweep.snapshot?_hear n p

/-- A move that is no poll, and that changes neither the sweep nor the read positions. -/
theorem nearer_of_still (hpolls : es.countP Happening.isPoll = 0) (hs : g'.sweep = g.sweep)
    (hpositions : g'.consumer.positions = g.consumer.positions) (hlooks : g.point.looks = [])
    (hleft : g'.point.left < g.point.left) : Nearer g g' es := by
  refine nearer_of_le hpolls (Sight.backlog_le fun p hp => ?_) hleft
  rw [Sight.mem_ahead] at hp ⊢
  rw [hlooks, ← hs]
  exact ⟨⟨hp.1, List.not_mem_nil⟩, Nat.le_of_eq (Sight.distance_congr (by rw [hs]) (by rw [hpositions]))⟩

/-- A record is read only of an open window, and what is left of the window is less afterwards. -/
theorem backlog_lt_of_read {channel : Channel} (hg : Given channel g sweep) (hs : g.sweep = some sweep)
    (hrecord : g.point.record? = none) (hlooks : g.point.looks = []) {r : ConsumedRecord} {c : Consumer}
    (hread : Consumer.Read g.bus g.consumer r c)
    (hpaused : ∀ p ∈ sweep.drained, g.consumer.isPaused p = true) :
    Sight.backlog { g with consumer := c, point := .judging r } < g.backlog := by
  obtain ⟨position, -, hposition, hoffset, -⟩ := hread.exists_position
  obtain ⟨w, hw⟩ := (hg.window_iff r.partition).mpr ⟨position, hposition⟩
  have hopen : w.drained = false := by
    cases hd : w.drained with
    | false => rfl
    | true =>
      have hp := hpaused r.partition (Sweep.mem_drained_iff.mpr ⟨w, hw, hd⟩)
      cases hread.not_paused.symm.trans hp
  have hle : position ≤ w.last :=
    hg.position_le r.partition w position hw hopen hposition fun r' hr' => nomatch hrecord.symm.trans hr'
  let g' : Sight := { g with consumer := c, point := .judging r }
  have hpositions (p : Int) : g'.consumer.positions.get? p =
      if r.partition = p then some (r.offset + 1) else g.consumer.positions.get? p := hread.get?_positions p
  have hhere : g'.distance r.partition < g.distance r.partition := by
    rw [Sight.distance_eq hs hw hposition, Sight.distance_eq (g := g') hs hw
      ((hpositions r.partition).trans (if_pos rfl))]
    omega
  have hahead (p : Int) (hp : p ∈ pendingOf g.sweep) : p ∈ g.ahead := by
    rw [Sight.mem_ahead, hlooks]
    exact ⟨hp, List.not_mem_nil⟩
  refine Sight.backlog_lt (fun p hp => ⟨hahead p (Sight.mem_ahead.mp hp).1, ?_⟩) (p := r.partition) ?_
    fun _ => hhere
  · by_cases hpr : r.partition = p
    · rw [← hpr]
      exact Nat.le_of_lt hhere
    · exact Nat.le_of_eq (Sight.distance_congr rfl ((hpositions p).trans (if_neg hpr)))
  · refine hahead _ ?_
    rw [hs]
    exact Sweep.mem_pending_iff.mpr ⟨w, hw, hopen⟩

/-- **Every move of a worker that has its partitions takes it nearer to its end**, as long as the low ends can
be asked for. -/
theorem nearer_of_moved (hc : Course (topology.channel .error) g) (hs : g.sweep = some sweep)
    (hgiven : g.consumer.pending = false) (hfailing : g.bus.failing (topology.channelName .error) = false)
    (hpaused : g.point = .polling → ∀ p ∈ sweep.drained, g.consumer.isPaused p = true)
    (hm : Moved k topology .error g g' es) : g.point.Stopped ∨ Nearer g g' es := by
  have hg : Given (topology.channel .error) g sweep := hc.given hgiven sweep hs
  cases hm with
  | asked ready asked => cases hc.unasked.symm.trans asked
  | ended ready sweep_eq complete halted =>
    refine .inr (nearer_of_still rfl rfl halted.positions_eq ?_ ?_)
    · simp [ready, Worker.Point.looks]
    · simp [ready, Worker.Point.left]
  | entered ready sweep_eq incomplete halted =>
    refine .inr (nearer_of_still rfl rfl halted.positions_eq ?_ ?_)
    · simp [ready, Worker.Point.looks]
    · simp [ready, Worker.Point.left]
  | passed ready sweep_eq => cases hs.symm.trans sweep_eq
  | @read r c polling given read =>
    rw [Sight.arrived_of_not_pending hgiven] at read ⊢
    have hlt := backlog_lt_of_read hg hs (by rw [polling]; rfl) (by rw [polling]; rfl) read (hpaused polling)
    have hleft : g.point.left = 0 := by rw [polling]; rfl
    refine .inr ⟨?_, ?_⟩
    · simp only [List.countP_singleton, Happening.isPoll, if_true]
      omega
    · simp only [Sight.movesLeft, Worker.Point.left] at hlt ⊢
      omega
  | empty polling nothing =>
    rw [Sight.arrived_of_not_pending hgiven]
    -- Nothing is counted that is about to be looked at.
    have hzero : Sight.backlog { g with point := .looking (pendingOf g.sweep) } = 0 := by
      refine Sight.backlog_of_nil (List.filter_eq_nil_iff.mpr fun p hp => ?_)
      simpa [Worker.Point.looks] using hp
    have hahead : g.ahead = pendingOf g.sweep := by
      simp [Sight.ahead, polling, Worker.Point.looks]
    have hlength := Sight.length_ahead_le (g := g)
    rw [hahead] at hlength
    have hleft : g.point.left = 0 := by rw [polling]; rfl
    have hpos : 0 < (pendingOf g.sweep).length := by
      have hhere := hc.here
      rw [Sight.Here, polling] at hhere
      obtain ⟨p, hp⟩ := hhere hgiven
      exact List.length_pos_of_mem hp
    refine .inr ⟨?_, ?_⟩
    · simp only [List.countP_singleton, Happening.isPoll, if_true, hzero]
      omega
    · simp only [Sight.movesLeft, hzero, Worker.Point.left]
      omega
  | taken judging inside =>
    refine .inr (nearer_of_still rfl rfl rfl ?_ ?_)
    · simp [judging, Worker.Point.looks]
    · simp [judging, Worker.Point.left]
  | @held r _ w _ c judging sweep_eq window past halted =>
    obtain rfl := Option.some.inj (hs.symm.trans sweep_eq)
    have hdone : r.partition ∈ (sweep.hear (.judged r.partition r.offset)).drained :=
      mem_drained_hear_of_reaches (n := .judged r.partition r.offset) window
        (past.imp_right fun hlt => by simpa [Note.reaches] using hlt)
    refine .inr (nearer_of_le rfl (backlog_le_of_hear hs rfl ?_ fun p hp => ?_) ?_)
    · rw [judging]
      rfl
    · have hne : r.partition ≠ p := by
        rintro rfl
        obtain ⟨w', hw', hd'⟩ := Sweep.mem_pending_iff.mp hp
        exact Sweep.not_mem_drained_of_open hw' hd' hdone
      show c.positions.get? p = _
      rw [halted.positions_eq, Consumer.get?_rewind, if_neg hne]
    · simp [judging, Worker.Point.left]
  | @strange r _ judging sweep_eq window =>
    obtain rfl := Option.some.inj (hs.symm.trans sweep_eq)
    obtain ⟨w, hw⟩ := (hg.window_iff _).mpr ⟨_, hg.in_hand r (by rw [judging]; rfl)⟩
    cases window.symm.trans hw
  | @looked p ps _ looking sweep_eq =>
    obtain rfl := Option.some.inj (hs.symm.trans sweep_eq)
    have hgone := hc.here
    rw [Sight.Here, looking] at hgone
    simp only [hfailing, Bool.false_eq_true, if_false]
    refine .inr (nearer_of_le rfl (Sight.backlog_le fun q hq => ?_) ?_)
    · rw [Sight.mem_ahead] at hq
      obtain ⟨hpending, hlooks⟩ := hq
      obtain ⟨w, hw, hd⟩ := Sweep.mem_pending_iff.mp hpending
      obtain ⟨hw₀, hreaches⟩ := Sweep.get?_of_hear hw hd
      constructor
      · rw [Sight.mem_ahead, hs, looking]
        refine ⟨Sweep.mem_pending_iff.mpr ⟨w, hw₀, hd⟩, fun hq => ?_⟩
        rcases List.mem_cons.mp hq with rfl | hq
        · -- The one that was looked at is gone.
          have hlow : w.last < g.bus.low (topology.channelName .error) q := hgone sweep hs q w hw₀ hd
          have hnot := hreaches rfl
          simp only [Note.reaches, decide_eq_false_iff_not] at hnot
          exact hnot hlow
        · exact hlooks hq
      · refine Nat.le_of_eq (Sight.distance_congr ?_ rfl)
        rw [hs]
        exact sweep.snapshot?_hear _ q
    · simp [looking, Worker.Point.left]
  | glanced looking sweep_eq => cases hs.symm.trans sweep_eq
  | turned looking =>
    refine .inr (nearer_of_still rfl rfl rfl ?_ ?_)
    · simp [looking, Worker.Point.looks]
    · simp [looking, Worker.Point.left]
  | evaluated holding =>
    refine .inr (nearer_of_still rfl rfl rfl ?_ ?_)
    · simp [holding, Worker.Point.looks]
    · simp [holding, Worker.Point.left]
  | finished handled plan =>
    refine .inr (nearer_of_still rfl rfl rfl ?_ ?_)
    · simp [handled, Worker.Point.looks]
    · simp [handled, Worker.Point.left]
  | stored handled plan publish =>
    refine .inr (nearer_of_still rfl rfl rfl ?_ ?_)
    · simp [handled, Worker.Point.looks]
    · simp [handled, Worker.Point.left]
  | refused handled plan =>
    refine .inr (nearer_of_still rfl rfl rfl ?_ ?_)
    · simp [handled, Worker.Point.looks]
    · simp [handled, Worker.Point.left]
  | @committed r _ _ resolved settled =>
    have hsweep : g.sweep.map (·.hear (.settled r.partition r.offset)) =
        some (sweep.hear (.settled r.partition r.offset)) := by rw [hs]; rfl
    refine .inr (nearer_of_le rfl (backlog_le_of_hear hs hsweep ?_ fun _ _ => rfl) ?_)
    · rw [resolved]
      rfl
    · simp [resolved, Worker.Point.left]
  | rewound resolved unsettled =>
    have hsettled := hc.here
    rw [Sight.Here, resolved] at hsettled
    cases hsettled.symm.trans unsettled
  | stopped left => exact .inl ⟨_, left⟩

end Steps

/-! ## Runs -/

namespace SoloAct

variable {η : Type}

/-- The consumer is not given its partitions anew, and the worker is not asked to stop. -/
def Steady : SoloAct η → Prop
  | askStop => False
  | rebalance => False
  | _ => True

/-- Besides, the low ends of a channel do not begin to fail. -/
def Calm (channel : String) : SoloAct η → Prop
  | outside (.failQueries c on) => c = channel → on = false
  | a => a.Steady

theorem Calm.steady {channel : String} {a : SoloAct η} (h : a.Calm channel) : a.Steady := by
  cases a with
  | outside o => trivial
  | _ => exact h

/-- The worker makes a move. -/
def isMove : SoloAct η → Bool
  | move => true
  | _ => false

end SoloAct

theorem Outside.failing_alter {η : Type} {channel : String} {o : Outside η} {b : Bus}
    (ho : (SoloAct.outside o).Calm channel) (h : b.failing channel = false) :
    (o.alter b).failing channel = false := by
  cases o with
  | publish e p =>
    cases hp : b.publishTo e p with
    | error err =>
      simp only [alter, hp]
      exact h
    | ok v =>
      obtain ⟨-, -, -, hb⟩ := Bus.publishTo_eq_ok_iff.mp hp
      simp only [alter, hp, hb]
      exact h
  | truncate c p offset =>
    simp only [alter, Bus.truncate]
    split <;> exact h
  | failQueries c on =>
    by_cases hc : channel = c
    · simp only [alter, Bus.failQueries, hc, if_true]
      exact ho hc.symm
    · simp only [alter, Bus.failQueries, hc, if_false]
      exact h
  | _ => exact h

/-- How often the consumer was asked for a record. -/
def polls (h : List Happening) : Nat := h.countP Happening.isPoll

theorem polls_append (h es : List Happening) : polls (h ++ es) = polls h + es.countP Happening.isPoll :=
  List.countP_append

theorem polls_told (h : List Happening) (es : List Event) : polls (h ++ es.map .told) = polls h := by
  rw [polls_append, List.countP_map, Nat.add_eq_left, List.countP_eq_zero]
  exact fun _ _ => Bool.false_ne_true

/-- What holds of a worker of the last tier all the time, if its consumer is not given its partitions anew. -/
structure Going {η : Type} (topology : Topology) (f : Solo η) : Prop where
  exists_sweep : ∃ sweep, f.scene.sweep = some sweep
  pausing : Pausing f.sight f.history
  unassigned : ∀ e ∈ f.history, e.reassignment? = none
  course : Course (topology.channel .error) f.sight

/-- How one state of a worker that has its partitions follows another one, after some moves. -/
structure Closer {η : Type} (n : Nat) (f f' : Solo η) : Prop where
  polls_add : polls f'.history + f'.sight.backlog ≤ polls f.history + f.sight.backlog
  stays : f.stand.point.Stopped → f'.stand.point.Stopped
  moves : f'.stand.point.Stopped ∨ f'.sight.movesLeft + n ≤ f.sight.movesLeft

namespace Closer

variable {η : Type} {f f₁ f₂ : Solo η} {m n : Nat}

theorem refl (f : Solo η) : Closer 0 f f := ⟨Nat.le_refl _, id, .inr (Nat.le_refl _)⟩

theorem trans (h : Closer m f f₁) (h' : Closer n f₁ f₂) : Closer (n + m) f f₂ where
  polls_add := Nat.le_trans h'.polls_add h.polls_add
  stays hs := h'.stays (h.stays hs)
  moves := by
    rcases h'.moves with hs | hn
    · exact .inl hs
    · rcases h.moves with hs | hm
      · exact .inl (h'.stays hs)
      · exact .inr (by omega)

end Closer

section Runs

variable {η ε : Type} {k : Handling η ε} {topology : Topology} {tick : Text.Duration} {f : Solo η}

namespace Going

/-- A poll comes after the consumer was told of all that is drained, and nothing was overlooked. -/
theorem paused_at_poll (hg : Going topology f) {sweep : Sweep} (hs : f.scene.sweep = some sweep)
    (hpoint : f.stand.point = .polling) : ∀ p ∈ sweep.drained, f.scene.consumer.isPaused p = true := by
  intro p hp
  have hd : p ∈ drainedOf f.sight.sweep := by
    show p ∈ drainedOf f.scene.sweep
    rw [hs]
    exact hp
  cases hfree : f.scene.consumer.isPaused p with
  | true => rfl
  | false =>
    have hover := (hg.pausing.overlooked_iff p).mp ⟨hg.pausing.drained_own hpoint p hd, hfree, hd⟩
    rw [← List.nil_append f.history, overlooked_append hg.unassigned] at hover
    exact (not_overlooked_nil hover).elim

theorem perform (hg : Going topology f) {a : SoloAct η} (ha : a.Steady) :
    Going topology (k.soloPerform topology .error .recovery tick f a) := by
  obtain ⟨sweep, hs⟩ := hg.exists_sweep
  have hsuits : Handling.Suits .recovery f.scene.sweep := ⟨sweep, hs⟩
  have hpausing : Pausing (k.soloPerform topology .error .recovery tick f a).sight
      (k.soloPerform topology .error .recovery tick f a).history :=
    Handling.pausing_soloPerform hsuits hg.pausing a
  have hsweep : ∃ sweep, (k.soloPerform topology .error .recovery tick f a).scene.sweep = some sweep :=
    Handling.suits_soloPerform hsuits a
  cases a with
  | move =>
    obtain ⟨es, hmoved, hes⟩ := Handling.exists_moved k topology .error tick hsuits
    refine ⟨hsweep, hpausing, fun e he => ?_, hg.course.moved hs (hg.pausing.known sweep hs) hmoved⟩
    have he : e ∈ (k.soloMove topology .error .recovery tick f).history := he
    rw [hes, List.mem_append] at he
    exact he.elim (hg.unassigned e) (reassignment?_eq_none_of_moved hmoved e)
  | outside o =>
    refine ⟨hsweep, hpausing, fun e he => ?_, hg.course.around
      (o.high_le_high_alter f.scene.bus _) (o.low_le_low_alter f.scene.bus _)⟩
    rcases List.mem_append.mp he with he | he
    · exact hg.unassigned e he
    · obtain ⟨e, -, rfl⟩ := List.mem_map.mp he
      rfl
  | askStop => exact ha.elim
  | rebalance => exact ha.elim

theorem run (hg : Going topology f) {acts : List (SoloAct η)} (hacts : ∀ a ∈ acts, a.Steady) :
    Going topology (k.soloRun topology .error .recovery tick f acts) := by
  induction acts generalizing f with
  | nil => exact hg
  | cons a as ih =>
    exact ih (hg.perform (hacts a List.mem_cons_self)) fun b hb => hacts b (List.mem_cons_of_mem a hb)

variable (k tick) in
/-- What one act does to a worker that has its partitions. -/
theorem closer (hg : Going topology f) (hgiven : f.scene.consumer.pending = false)
    (hfailing : f.scene.bus.failing (topology.channelName .error) = false) {a : SoloAct η}
    (ha : a.Calm (topology.channelName .error)) :
    (k.soloPerform topology .error .recovery tick f a).scene.consumer.pending = false ∧
      (k.soloPerform topology .error .recovery tick f a).scene.bus.failing (topology.channelName .error) =
        false ∧
      Closer (if a.isMove then 1 else 0) f (k.soloPerform topology .error .recovery tick f a) := by
  obtain ⟨sweep, hs⟩ := hg.exists_sweep
  cases a with
  | move =>
    obtain ⟨es, hmoved, hes⟩ := Handling.exists_moved k topology .error tick
      (show Handling.Suits .recovery f.scene.sweep from ⟨sweep, hs⟩)
    refine ⟨Handling.pending_of_moved hmoved hgiven, (Handling.failing_of_moved hmoved _).trans hfailing, ?_⟩
    let f' : Solo η := k.soloMove topology .error .recovery tick f
    have hpolls : polls f'.history = polls f.history + es.countP Happening.isPoll := by
      rw [hes, polls_append]
    have hstays (h : f.stand.point.Stopped) : f'.stand.point.Stopped := by
      obtain ⟨why, hwhy⟩ := h
      have heq : f'.sight = f.sight := (Handling.eq_of_stopped hmoved ⟨why, hwhy⟩).1
      exact ⟨why, (congrArg Sight.point heq).trans hwhy⟩
    rcases nearer_of_moved hg.course hs hgiven hfailing (hg.paused_at_poll hs) hmoved with hstop | hnear
    · obtain ⟨heq, rfl⟩ := Handling.eq_of_stopped hmoved hstop
      refine ⟨?_, hstays, .inl (hstays hstop)⟩
      show polls f'.history + f'.sight.backlog ≤ _
      rw [hpolls, show f'.sight = f.sight from heq]
      exact Nat.le_refl _
    · refine ⟨?_, hstays, .inr hnear.moves⟩
      have hless : es.countP Happening.isPoll + f'.sight.backlog ≤ f.sight.backlog := hnear.polls
      show polls f'.history + f'.sight.backlog ≤ _
      omega
  | outside o =>
    refine ⟨hgiven, Outside.failing_alter ha hfailing, ?_, id, .inr (Nat.le_refl _)⟩
    show polls (f.history ++ (o.events f.scene.bus).map .told) + _ ≤ _
    rw [polls_told]
    exact Nat.le_refl _
  | askStop => exact ha.elim
  | rebalance => exact ha.elim

variable (k tick) in
theorem closer_run (hg : Going topology f) (hgiven : f.scene.consumer.pending = false)
    (hfailing : f.scene.bus.failing (topology.channelName .error) = false) {acts : List (SoloAct η)}
    (hacts : ∀ a ∈ acts, a.Calm (topology.channelName .error)) :
    (k.soloRun topology .error .recovery tick f acts).scene.consumer.pending = false ∧
      (k.soloRun topology .error .recovery tick f acts).scene.bus.failing (topology.channelName .error) =
        false ∧
      Closer (acts.countP SoloAct.isMove) f (k.soloRun topology .error .recovery tick f acts) := by
  induction acts generalizing f with
  | nil => exact ⟨hgiven, hfailing, .refl f⟩
  | cons a as ih =>
    have ha := hacts a List.mem_cons_self
    obtain ⟨hgiven', hfailing', hstep⟩ := hg.closer k tick hgiven hfailing ha
    obtain ⟨hend, hanswers, hrun⟩ := ih (hg.perform ha.steady) hgiven' hfailing'
      fun b hb => hacts b (List.mem_cons_of_mem a hb)
    refine ⟨hend, hanswers, ?_⟩
    rw [List.countP_cons]
    exact hstep.trans hrun

end Going

theorem going_opening (k : Handling η ε) {b : Bus} {name : String} {prior : Sweep} {memory : η} {now : Int}
    (hknows : (k.soloOpening topology .error .recovery tick b name prior memory now).Knows) :
    Going topology (k.soloOpening topology .error .recovery tick b name prior memory now) := by
  have hsuits : Handling.Suits .recovery
      (k.soloOpening topology .error .recovery tick b name prior memory now).scene.sweep :=
    Handling.suits_soloOpening k tick b name prior memory now
  have hnothing (e : Happening) (he : e ∈ ([] : List Happening)) : e.reassignment? = none :=
    absurd he List.not_mem_nil
  exact ⟨hsuits, Handling.pausing_soloOpening k hknows, hnothing, course_opening k hknows⟩

end Runs

/-! ## The end -/

namespace Solo

variable {η : Type} (f : Solo η)

/-- The number of windows with something left to do. -/
def openWindows : Nat := (pendingOf f.scene.sweep).length

/-- The number of offsets from the read positions to the ends of the open windows. -/
def unread : Nat := ((pendingOf f.scene.sweep).map f.sight.distance).sum

theorem backlog_le (f : Solo η) : f.sight.backlog ≤ f.unread + f.openWindows := by
  have hsub : f.sight.ahead.Sublist (pendingOf f.scene.sweep) := List.filter_sublist
  calc f.sight.backlog ≤ ((pendingOf f.scene.sweep).map fun p => f.sight.distance p + 1).sum :=
        (hsub.map _).sum_le_sum fun _ _ => Nat.zero_le _
    _ = f.unread + f.openWindows := by simp [List.sum_map_add, unread, openWindows]

end Solo

/-- How a worker that has its partitions comes to its end within some moves. -/
structure Ends {η : Type} (moves : Nat) (f f' : Solo η) : Prop where
  /-- It asks for a record at most as often as there are unread offsets and open windows. -/
  polls_le : polls f'.history ≤ polls f.history + (f.unread + f.openWindows)
  /-- It leaves its loop for no other reason than that the sweep is complete. -/
  complete_of_stopped : ∀ why, f'.stand.point = .inPhase (.stopped why) → why = .sweepComplete
  /-- It does leave its loop, if it is given so many moves. -/
  stopped : 6 * (f.unread + f.openWindows) + f.stand.point.left ≤ moves →
    f'.stand.point = .inPhase (.stopped .sweepComplete)

/-- A worker has a move left until it leaves its loop. -/
theorem Going.movesLeft_pos {η : Type} {topology : Topology} {f : Solo η} (hg : Going topology f)
    (hgiven : f.scene.consumer.pending = false) (hs : ¬ f.stand.point.Stopped) : 0 < f.sight.movesLeft := by
  have hpoint : f.sight.point = f.stand.point := rfl
  unfold Sight.movesLeft
  rw [hpoint]
  cases h : f.stand.point with
  | inPhase phase =>
    cases phase with
    | stopped why => exact (hs ⟨why, h⟩).elim
    | _ => simp [Worker.Point.left]
  | polling =>
    have hhere := hg.course.here
    rw [Sight.Here, hpoint, h] at hhere
    obtain ⟨p, hp⟩ := hhere hgiven
    have hahead : p ∈ f.sight.ahead := by
      rw [Sight.mem_ahead, hpoint, h]
      exact ⟨hp, List.not_mem_nil⟩
    have hlength := Sight.length_ahead_le (g := f.sight)
    have hpos := List.length_pos_of_mem hahead
    omega
  | judging r => simp [Worker.Point.left]
  | looking ps => simp [Worker.Point.left]

theorem Going.ends {η ε : Type} {k : Handling η ε} {topology : Topology} {tick : Text.Duration} {f : Solo η}
    (hg : Going topology f) (hgiven : f.scene.consumer.pending = false)
    (hfailing : f.scene.bus.failing (topology.channelName .error) = false) {acts : List (SoloAct η)}
    (hacts : ∀ a ∈ acts, a.Calm (topology.channelName .error)) :
    Ends (acts.countP SoloAct.isMove) f (k.soloRun topology .error .recovery tick f acts) := by
  obtain ⟨hgiven', -, hcloser⟩ := hg.closer_run k tick hgiven hfailing hacts
  have hend : Going topology (k.soloRun topology .error .recovery tick f acts) :=
    hg.run fun a ha => (hacts a ha).steady
  have hbacklog := f.backlog_le
  have hcomplete (why : Stop)
      (hwhy : (k.soloRun topology .error .recovery tick f acts).stand.point = .inPhase (.stopped why)) :
      why = .sweepComplete := by
    have hhere := hend.course.here
    rw [Sight.Here, show (k.soloRun topology .error .recovery tick f acts).sight.point = _ from hwhy] at hhere
    exact hhere
  refine ⟨?_, hcomplete, fun hmoves => ?_⟩
  · have := hcloser.polls_add
    omega
  · by_contra hpoint
    have hnot : ¬ (k.soloRun topology .error .recovery tick f acts).stand.point.Stopped := by
      rintro ⟨why, hwhy⟩
      obtain rfl := hcomplete why hwhy
      exact hpoint hwhy
    have hpos := hend.movesLeft_pos hgiven' hnot
    have hmoves' := hcloser.moves.resolve_left hnot
    have hleft : f.sight.movesLeft = 6 * f.sight.backlog + f.stand.point.left := rfl
    omega

/-- **The sweep ends.** Let a worker of the last tier have begun with a sweep, on any bus, and let its
consumer have got its partitions, at once or at a later poll. Whatever is published from then on, and whatever
retention removes, the worker asks for a record at most as often as there are unread offsets and open windows,
and leaves its loop because the sweep is complete. -/
theorem sweep_ends {η ε : Type} (k : Handling η ε) (topology : Topology) (tick : Text.Duration) (b : Bus)
    (name : String) (prior : Sweep) (memory : η) (now : Int) (before after : List (SoloAct η))
    (hknows : (k.soloOpening topology .error .recovery tick b name prior memory now).Knows)
    (hbefore : ∀ a ∈ before, a.Steady)
    (hgiven : (k.soloAfter topology .error .recovery tick b name prior memory now
      before).scene.consumer.pending = false)
    (hfailing : (k.soloAfter topology .error .recovery tick b name prior memory now before).scene.bus.failing
      (topology.channelName .error) = false)
    (hafter : ∀ a ∈ after, a.Calm (topology.channelName .error)) :
    Ends (after.countP SoloAct.isMove)
      (k.soloAfter topology .error .recovery tick b name prior memory now before)
      (k.soloAfter topology .error .recovery tick b name prior memory now (before ++ after)) := by
  rw [Handling.soloAfter_append]
  exact ((going_opening k hknows).run hbefore).ends hgiven hfailing hafter

/-- Nobody can say what the partitions retain until the worker has begun. Its consumer gets them at the first
poll. -/
def lateAnswer : List (SoloAct Unit) :=
  [.move, .outside (.failQueries "order-received-error" false), .move]

/-- More comes in on both partitions. -/
def moreComing : List (SoloAct Unit) :=
  .outside (.publish ⟨"k", [2, 99], "order-received-error", 0⟩ 1) :: List.replicate 4 .move ++
    .outside (.publish ⟨"k", [2, 99], "order-received-error", 0⟩ 0) :: List.replicate 19 .move

/-- The worker of the last tier, on a bus that at first gives no answer. -/
def lateSweep (acts : List (SoloAct Unit)) : Solo Unit :=
  Handling.accepting.soloAfter .standard .error .recovery ⟨0⟩
    (threeFailed.failQueries "order-received-error" true) "a" (.start "order-received-error") () 0 acts

theorem sweep_ends_after_lateAnswer :
    (lateSweep lateAnswer).unread = 1 ∧ (lateSweep lateAnswer).openWindows = 1 ∧
      polls (lateSweep (lateAnswer ++ moreComing)).history = 2 ∧
      Ends (moreComing.countP SoloAct.isMove) (lateSweep lateAnswer) (lateSweep (lateAnswer ++ moreComing)) ∧
      (lateSweep (lateAnswer ++ moreComing)).stand.point = .inPhase (.stopped .sweepComplete) := by
  have hends : Ends (moreComing.countP SoloAct.isMove) (lateSweep lateAnswer)
      (lateSweep (lateAnswer ++ moreComing)) :=
    sweep_ends .accepting .standard ⟨0⟩ (threeFailed.failQueries "order-received-error" true) "a"
      (.start "order-received-error") () 0 lateAnswer moreComing
      (Handling.knows_soloOpening .accepting .standard .error ⟨0⟩ _ "a" () 0)
      (by simp [lateAnswer, SoloAct.Steady]) (by decide +kernel) (by decide +kernel)
      (by simp [moreComing, SoloAct.Calm, SoloAct.Steady])
  exact ⟨by decide +kernel, by decide +kernel, by decide +kernel, hends, hends.stopped (by decide +kernel)⟩

end OrderRelay
