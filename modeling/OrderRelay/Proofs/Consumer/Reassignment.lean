import OrderRelay.Proofs.Consumer.Delivery
import OrderRelay.Proofs.Recovery.Joining

/-!
# Assignments are all or nothing

A consumer that is given its partitions anew stands as one that has just joined, whatever was done with it before.
Either it has all partitions of its channel, each at its beginning, and skips none of them, or it has none and
gets nothing until an assignment goes through.

* `Standing`, the read positions of a consumer, what it skips, and whether it waits for its partitions;
* `Sweep.attending`, the listener of a consumer, which is a sweep or no one, and `Consumer.beginning`, where a
  partition starts with it; `standing_assign`, how a consumer stands after an assignment;
* `Consumer.Placed`: a consumer that waits for its partitions has none;
* `Occurrence`, what can happen on an exchange: others may tell the listeners something, too;
* **`Exchange.reassigned_course`**: a rebalance, and the retry in a poll, leave what joining leaves.
-/

namespace OrderRelay

/-- How a consumer stands: its read positions, what it skips, and whether it waits for its partitions. -/
structure Standing where
  positions : PartitionMap Int
  paused : PartitionSet
  pending : Bool

/-- How a consumer stands. -/
def Consumer.standing (c : Consumer) : Standing := ⟨c.positions, c.paused, c.pending⟩

/-! ## One assignment -/

namespace Sweep

/-- The listener of a consumer, which is a sweep or no one. -/
def attending (sweeping : Bool) : Listener Sweep := if sweeping then listener else .silent Sweep

/-- A sweep fails an assignment exactly when its channel cannot be asked. -/
theorem failure_eq_none_iff {b : Bus} {channel : String} {s : Sweep} :
    (assigned (b.control channel) b.partitionList s).failure = none ↔ b.failing channel = false := by
  constructor
  · have hzero : (0 : Int) ∈ b.partitionList := List.mem_map.mpr ⟨0, List.mem_range.mpr b.partitions_pos, rfl⟩
    exact failing_eq_false hzero
  · intro h
    induction b.partitionList generalizing s with
    | nil => rfl
    | cons p ps ih =>
      rw [(assigned_cons_ok (track_control h p) ps s).1]
      exact ih

end Sweep

namespace Consumer

/-- Where a partition starts: with a sweep at its earliest record, else where its group left off. -/
def beginning (sweeping : Bool) (b : Bus) (channel : Channel) (p : Int) : Int :=
  if sweeping then b.low channel.name p else startOf b channel p

/-- All partitions of a channel at their beginnings. -/
def beginnings (sweeping : Bool) (b : Bus) (channel : Channel) : PartitionMap Int :=
  .ofList (b.partitionList.map fun p => (p, beginning sweeping b channel p))

/-- An assignment that goes through puts every partition at its beginning. -/
theorem foldl_seeks_eq {sweeping : Bool} {b : Bus} {channel : Channel} {s : Sweep}
    (h : sweeping = true → b.failing channel.name = false) :
    ((Sweep.attending sweeping).assigned (b.control channel.name) b.partitionList s).seeks.foldl
      (fun m e => m.insert e.1 e.2) (starts b channel) = beginnings sweeping b channel := by
  apply PartitionMap.ext_get?
  intro p
  unfold beginnings
  rw [PartitionMap.get?_ofList_map]
  cases sweeping with
  | false => exact get?_starts b channel p
  | true =>
    have hfailure := Sweep.failure_eq_none_iff (s := s) |>.mpr (h rfl)
    refine (Sweep.get?_seeks_of_success hfailure _ p).trans ?_
    rw [Sweep.earliest?, Sweep.track_control (h rfl), get?_starts]
    split <;> rfl

/-- **How a consumer stands after an assignment.** -/
theorem standing_assign (sweeping : Bool) (b : Bus) (c : Consumer) (s : Sweep) :
    (c.assign (Sweep.attending sweeping) b s).consumer.standing =
      if sweeping = true ∧ b.failing c.channel.name = true then ⟨c.positions, .empty, true⟩
      else ⟨beginnings sweeping b c.channel, .empty, false⟩ := by
  rw [(assign_eq (Sweep.attending sweeping) b c s).2]
  cases hfailure : ((Sweep.attending sweeping).assigned (b.control c.channel.name) b.partitionList s).failure with
  | none =>
    have hasked (h : sweeping = true) : b.failing c.channel.name = false := by
      subst h
      exact Sweep.failure_eq_none_iff.mp hfailure
    rw [if_neg fun h => Bool.false_ne_true ((hasked h.1).symm.trans h.2)]
    exact congrArg (Standing.mk · _ _) (foldl_seeks_eq hasked)
  | some e =>
    have hsweeping : sweeping = true := by
      cases sweeping with
      | true => rfl
      | false => exact nomatch hfailure
    have hfailing : b.failing c.channel.name = true := by
      subst hsweeping
      rw [← Bool.not_eq_false, ← Sweep.failure_eq_none_iff]
      exact fun h => nomatch h.symm.trans hfailure
    rw [if_pos ⟨hsweeping, hfailing⟩]
    rfl

/-- How a consumer stands after it has joined. -/
def joined (sweeping : Bool) (b : Bus) (channel : Channel) : Standing :=
  if sweeping = true ∧ b.failing channel.name = true then ⟨.empty, .empty, true⟩
  else ⟨beginnings sweeping b channel, .empty, false⟩

theorem standing_join (sweeping : Bool) (b : Bus) (channel : Channel) (name : String) (s : Sweep) :
    (join (Sweep.attending sweeping) b channel name s).consumer.standing = joined sweeping b channel :=
  standing_assign sweeping b (fresh channel name) s

theorem standing_rebalance (sweeping : Bool) (b : Bus) (c : Consumer) (s : Sweep) :
    (c.rebalance (Sweep.attending sweeping) b s).consumer.standing = joined sweeping b c.channel :=
  standing_assign sweeping b { c with positions := .empty } _

/-! ## Waiting for partitions -/

/-- A consumer that waits for its partitions has none. -/
def Placed (c : Consumer) : Prop := c.pending = true → c.positions = .empty

section Placed

variable {ℓ : Type} {listener : Listener ℓ} {b : Bus} {c : Consumer} {s : ℓ}

theorem placed_assign (h : c.positions = .empty) : (c.assign listener b s).consumer.Placed := by
  intro hpending
  rw [(assign_eq listener b c s).2] at hpending ⊢
  split at hpending
  · exact h
  · exact nomatch hpending

theorem placed_join (channel : Channel) (name : String) : (join listener b channel name s).consumer.Placed :=
  placed_assign rfl

theorem placed_rebalance (c : Consumer) : (c.rebalance listener b s).consumer.Placed := placed_assign rfl

theorem Placed.arrived (h : c.Placed) : (c.arrived listener b s).consumer.Placed := by
  unfold Consumer.arrived
  split
  · exact placed_assign (h ‹_›)
  · exact h

theorem Placed.poll (h : c.Placed) : (c.poll listener b s).2.consumer.Placed := by
  cases hr : (c.poll listener b s).1 with
  | none =>
    rw [poll_of_none hr]
    exact h.arrived
  | some r =>
    intro hpending
    obtain ⟨hd, -⟩ := delivery_of_poll hr
    rw [hd.rest.2.2.2, hd.given] at hpending
    exact nomatch hpending

theorem Placed.rewind (h : c.Placed) (r : ConsumedRecord) : (c.rewind r).Placed := by
  intro hpending
  rw [pending_rewind] at hpending
  have hcontains : c.positions.contains r.partition = false := by
    rw [h hpending]
    rfl
  rw [Consumer.rewind, hcontains]
  exact h hpending

/-- A consumer that waits for its partitions, and gets or does not get them, stands as one that has joined. -/
theorem Placed.standing_arrived {sweeping : Bool} {s : Sweep} (h : c.Placed) (hpending : c.pending = true) :
    (c.arrived (Sweep.attending sweeping) b s).consumer.standing = joined sweeping b c.channel := by
  rw [Consumer.arrived, if_pos hpending, standing_assign, h hpending]
  rfl

end Placed

end Consumer

/-! ## In the course of a run -/

/-- What can happen on an exchange. -/
inductive Occurrence (ℓ : Type) where
  | use (u : Use ℓ)
  /-- Others tell the listener of a member something, which changes its state. -/
  | tell (name : String) (state : ℓ)

namespace Exchange

variable {ℓ : Type} {x : Exchange ℓ} {name : String} {m : Member ℓ}

/-- A bus in any state, with no consumers yet. -/
def on (b : Bus) : Exchange ℓ := ⟨b, fun _ => none, []⟩

/-- The exchange after an occurrence. -/
def occur (x : Exchange ℓ) : Occurrence ℓ → Exchange ℓ
  | .use u => x.perform u
  | .tell name state => x.withMember name fun m => x.seat name m.listener ⟨m.consumer, state, []⟩

/-- The exchange after several occurrences. -/
def course (x : Exchange ℓ) (os : List (Occurrence ℓ)) : Exchange ℓ := os.foldl occur x

theorem course_append (x : Exchange ℓ) (os more : List (Occurrence ℓ)) :
    x.course (os ++ more) = (x.course os).course more := List.foldl_append

/-- All members that wait for their partitions have none. -/
def Seated (x : Exchange ℓ) : Prop := ∀ name m, x.members name = some m → m.consumer.Placed

theorem Seated.of_members_eq {x' : Exchange ℓ} (h : x.Seated) (heq : x'.members = x.members) : x'.Seated :=
  fun name m hm => h name m (heq ▸ hm)

theorem Seated.seat (h : x.Seated) (n : String) (listener : Listener ℓ) {a : Assigned ℓ}
    (ha : a.consumer.Placed) : (x.seat n listener a).Seated := by
  intro name m hm
  rw [members_seat] at hm
  split at hm
  · obtain rfl := Option.some.inj hm
    exact ha
  · exact h name m hm

theorem Seated.withMember (h : x.Seated) (n : String) {act : Member ℓ → Exchange ℓ}
    (hact : ∀ m, m.consumer.Placed → (act m).Seated) : (x.withMember n act).Seated := by
  unfold Exchange.withMember
  split
  · exact h
  · exact hact _ (h n _ ‹_›)

/-- **Nothing gives partitions to a consumer that waits for them**, but an assignment that goes through. -/
theorem Seated.occur (h : x.Seated) (o : Occurrence ℓ) : (x.occur o).Seated := by
  cases o with
  | tell n state => exact h.withMember n fun m hm => h.seat n _ hm
  | use u =>
    cases u with
    | publish e => exact h.of_members_eq (x.members_note e _)
    | publishTo e p => exact h.of_members_eq (x.members_note e _)
    | truncate | setUnavailable | failQueries => exact h
    | join n channel listener state => exact h.seat n listener (Consumer.placed_join channel n)
    | rebalance n => exact h.withMember n fun m _ => h.seat n _ (Consumer.placed_rebalance _)
    | poll n => exact h.withMember n fun m hm => h.seat n _ hm.poll
    | commit n r => exact h.withMember n fun _ _ => h
    | rewind n r => exact h.withMember n fun m hm => h.seat n _ (hm.rewind r)
    | pause n p => exact h.withMember n fun m hm => h.seat n _ hm

theorem Seated.course (h : x.Seated) (os : List (Occurrence ℓ)) : (x.course os).Seated := by
  induction os generalizing x with
  | nil => exact h
  | cons o os ih => exact ih (h.occur o)

theorem seated_on (b : Bus) : (on b : Exchange ℓ).Seated := fun _ _ hm => nomatch hm

end Exchange

/-- What an assignment on a bus makes of the consumer `c`, which is `c'` then. -/
structure Reassigned (sweeping : Bool) (b : Bus) (c c' : Consumer) : Prop where
  /-- It stands as one that joins now, whatever its name and whatever its listener knows. -/
  like_joined : ∀ name s, c'.standing =
    (Consumer.join (Sweep.attending sweeping) b c.channel name s).consumer.standing
  failed_iff : c'.pending = true ↔ sweeping = true ∧ b.failing c.channel.name = true
  nothing : c'.pending = true → c'.positions = .empty
  all : c'.pending = false → c'.paused = .empty ∧ ∀ p, c'.positions.get? p =
    if 0 ≤ p ∧ p < b.partitions then some (Consumer.beginning sweeping b c.channel p) else none

theorem Reassigned.of_standing {sweeping : Bool} {b : Bus} {c c' : Consumer}
    (h : c'.standing = Consumer.joined sweeping b c.channel) : Reassigned sweeping b c c' := by
  have hlike (name : String) (s : Sweep) := h.trans (Consumer.standing_join sweeping b c.channel name s).symm
  unfold Consumer.joined at h
  split at h
  · rename_i hfailed
    obtain ⟨hpositions, -, hpending⟩ := Standing.mk.inj h
    exact ⟨hlike, iff_of_true hpending hfailed, fun _ => hpositions, fun hp => nomatch hpending.symm.trans hp⟩
  · rename_i hfailed
    obtain ⟨hpositions, hpaused, hpending⟩ := Standing.mk.inj h
    have hgiven : ¬ c'.pending = true := Bool.eq_false_iff.mp hpending
    refine ⟨hlike, iff_of_false hgiven hfailed, fun hp => absurd hp hgiven, fun _ => ⟨hpaused, fun p => ?_⟩⟩
    rw [hpositions, Consumer.beginnings, PartitionMap.get?_ofList_map]
    simp only [Bus.mem_partitionList_iff]

namespace Exchange

variable {x : Exchange Sweep} {name : String} {m : Member Sweep} {sweeping : Bool}

/-- The member of that name waits for its partitions. -/
def Waiting (x : Exchange Sweep) (name : String) : Prop :=
  ∃ m, x.members name = some m ∧ m.consumer.pending = true

/-- What is known of the assignments of the member `m`. -/
structure AllOrNothing (x : Exchange Sweep) (name : String) (m : Member Sweep) (sweeping : Bool) : Prop where
  rebalanced : ∃ m', (x.perform (.rebalance name)).members name = some m' ∧
    Reassigned sweeping x.bus m.consumer m'.consumer
  /-- The consumer with which a poll reads, if it had to wait for its partitions. -/
  retried : m.consumer.pending = true → Reassigned sweeping x.bus m.consumer (m.arrived x.bus).consumer
  bus_eq : (x.perform (.rebalance name)).bus = x.bus ∧ (x.perform (.poll name)).bus = x.bus
  /-- As long as it waits, it has no partitions, and polls deliver nothing. -/
  nothing : ∀ later : List (Occurrence Sweep), (∀ os, os <+: later → (x.course os).Waiting name) →
    (∀ os m', os <+: later → (x.course os).members name = some m' → m'.consumer.positions = .empty) ∧
    ∀ os, os ++ [.use (.poll name)] <+: later → (x.course os).answer? name (.poll name) = none

theorem answer?_of_waiting (h : x.Waiting name) (h' : (x.perform (.poll name)).Waiting name) :
    x.answer? name (.poll name) = none := by
  obtain ⟨m, hm, -⟩ := h
  obtain ⟨m', hm', hpending⟩ := h'
  rw [Option.eq_none_iff_forall_ne_some]
  intro r hr
  obtain ⟨c', hc', hd⟩ := delivery_of_answer hm hr
  obtain rfl := Option.some.inj (hm'.symm.trans hc')
  have hgiven : c'.pending = false := hd.rest.2.2.2.trans hd.given
  exact nomatch hgiven.symm.trans hpending

/-- **Assignments are all or nothing**, and being given partitions anew is like joining. -/
theorem reassigned_course (b : Bus) (os : List (Occurrence Sweep)) (name : String) (m : Member Sweep)
    (sweeping : Bool) (hm : ((on b).course os).members name = some m)
    (hl : m.listener = Sweep.attending sweeping) :
    AllOrNothing ((on b).course os) name m sweeping := by
  have hseated := (seated_on b).course os
  generalize (on b).course os = x at hm hseated
  constructor
  case rebalanced =>
    refine ⟨_, (congrArg (members · name) (withMember_of_some hm _)).trans (if_pos rfl), .of_standing ?_⟩
    rw [hl]
    exact Consumer.standing_rebalance sweeping x.bus m.consumer m.state
  case retried =>
    intro hpending
    refine .of_standing ?_
    rw [Member.arrived, hl]
    exact (hseated name m hm).standing_arrived hpending
  case bus_eq =>
    constructor
    · change (x.withMember name _).bus = x.bus
      rw [withMember_of_some hm]
      rfl
    · rw [perform_poll hm]
      rfl
  case nothing =>
    refine fun later hwaiting => ⟨fun os m' hos hm' => ?_, fun os hos => ?_⟩
    · obtain ⟨m'', hm'', hpending⟩ := hwaiting os hos
      obtain rfl := Option.some.inj (hm'.symm.trans hm'')
      exact hseated.course os name m' hm' hpending
    · have hpolled := hwaiting _ hos
      rw [course_append] at hpolled
      exact answer?_of_waiting (hwaiting os ((List.prefix_append os _).trans hos)) hpolled

/-- A consumer joins for a sweep while its channel cannot be asked, then tries in vain, and now the channel can be
asked again. -/
def lateAnswers : List (Occurrence Sweep) :=
  let record : Use Sweep := .publishTo ⟨"k", [], "failures", 7⟩ 1
  [.use record, .use record, .use (.truncate "failures" 1 1), .use (.failQueries "failures" true),
    .use (.join "e" ⟨"failures", "g"⟩ Sweep.listener (.start "failures")), .use (.poll "e"),
    .use (.pause "e" 1), .tell "e" (.start "failures"), .use (.failQueries "failures" false)]

theorem reassigned_course_lateAnswers : ∃ m,
    ((on (.ofPartitions 2)).course lateAnswers).members "e" = some m ∧
      m.listener = Sweep.attending true ∧ m.consumer.pending = true ∧
      ((m.arrived ((on (.ofPartitions 2)).course lateAnswers).bus).consumer.positions.entries = [(0, 0), (1, 1)]) ∧
      AllOrNothing ((on (.ofPartitions 2)).course lateAnswers) "e" m true :=
  ⟨_, rfl, rfl, rfl, rfl, reassigned_course (.ofPartitions 2) lateAnswers "e" _ true rfl rfl⟩

end Exchange

end OrderRelay
