import Mathlib.Algebra.Group.Int.Defs
import Mathlib.Algebra.Group.Nat.Defs
import OrderRelay.Proofs.Bus.AppendOnly

/-!
# The partition of a key

A record is placed by its key: the key alone decides on the partition, and whatever else is done with the bus, the
partition is there. So publishing is refused for no other reason than that the channel was marked unavailable, and
the records of one key on one channel lie in a row, in the order in which they were published.

* `Placement.partitionOf_on_words`: on words of 32 bits the partition comes out the same;
* `Use.marked`, whether a channel was marked unavailable, by the uses alone;
* `Exchange.placed`, what was acknowledged under its key in the course of a run;
* `unavailable_run`, `partitions_run`, `placed_sublist`: what a run makes of the marks, the partitions and the
  register;
* **`Exchange.placed_by_key_run`**: what is known of these records in any run.
-/

namespace OrderRelay

/-! ## On words -/

namespace Placement

theorem toInt_of_lt {word : UInt32} (h : word.toNat < 2 ^ 31) : word.toInt32.toInt = word.toNat :=
  BitVec.toInt_eq_toNat_of_lt (x := word.toBitVec) (by rw [UInt32.toNat_toBitVec]; omega)

theorem toNat_of_pos {count : Int32} (h : 0 < count.toInt) : (count.toUInt32.toNat : Int) = count.toInt := by
  have hint : count.toInt = count.toUInt32.toBitVec.toInt := rfl
  rw [BitVec.toInt_eq_toNat_cond] at hint
  rw [← UInt32.toNat_toBitVec]
  split at hint <;> omega

/-- The partition is the same if the hash is reduced on words without a sign, and the count of partitions and the
result are words with one. -/
theorem partitionOf_on_words {partitions : Nat} {count : Int32} (hpos : 0 < partitions)
    (hcount : count.toInt = partitions) (key : String) :
    (hash key % count.toUInt32).toInt32.toInt = partitionOf partitions key := by
  have hword : count.toUInt32.toNat = partitions := by
    have hnat : (count.toUInt32.toNat : Int) = count.toInt := toNat_of_pos (by omega)
    omega
  have hmod : (hash key % count.toUInt32).toNat = (hash key).toNat % partitions := by
    rw [UInt32.toNat_mod, hword]
  have hcount_lt : count.toInt < 2 ^ 31 := count.toInt_lt
  have hmod_lt : (hash key).toNat % partitions < partitions := Nat.mod_lt _ hpos
  rw [toInt_of_lt (by omega), hmod]
  rfl

end Placement

/-! ## Marks -/

namespace Use

variable {ℓ : Type}

/-- The mark that a use gives a channel: whether publishing is to fail. -/
def mark? (channel : String) : Use ℓ → Option Bool
  | setUnavailable c on => if c = channel then some on else none
  | _ => none

/-- The last mark that a channel was given says that publishing is to fail. -/
def marked (channel : String) (uses : List (Use ℓ)) : Bool :=
  (uses.filterMap (mark? channel)).getLast?.getD false

end Use

namespace Exchange

variable {ℓ : Type}

/-! ## Placed by their keys -/

/-- What is acknowledged when an envelope is published. -/
def acknowledged (e : Envelope) (result : Except PublishError (Position × Bus)) : Option (Position × Envelope) :=
  result.toOption.map fun stored => (stored.1, e)

/-- What is acknowledged by a use that leaves the partition to the key. -/
def placed? (x : Exchange ℓ) : Use ℓ → Option (Position × Envelope)
  | .publish e => acknowledged e (x.bus.publish e)
  | _ => none

/-- What is acknowledged under its key in the course of several uses, in this order. -/
def placed (x : Exchange ℓ) : List (Use ℓ) → List (Position × Envelope)
  | [] => []
  | u :: us => (x.placed? u).toList ++ (x.perform u).placed us

variable (x : Exchange ℓ) (u : Use ℓ)

/-! ## What a use does -/

theorem settings_note (e : Envelope) (p : Int) :
    (x.note e (x.bus.publishTo e p)).bus.partitions = x.bus.partitions ∧
      (x.note e (x.bus.publishTo e p)).bus.unavailable = x.bus.unavailable := by
  cases h : x.bus.publishTo e p with
  | ok v =>
    obtain ⟨hpartitions, hunavailable, -⟩ := Bus.settings_publishTo h
    exact ⟨hpartitions, hunavailable⟩
  | error err => exact ⟨rfl, rfl⟩

/-- No use changes the number of partitions, and none but marking changes the marks. -/
theorem settings_perform : (x.perform u).bus.partitions = x.bus.partitions ∧
    ∀ c, (x.perform u).bus.unavailable c = (u.mark? c).getD (x.bus.unavailable c) := by
  cases u with
  | publish e =>
    obtain ⟨hpartitions, hunavailable⟩ := x.settings_note e (x.bus.partitionOf e.key)
    exact ⟨hpartitions, congrFun hunavailable⟩
  | publishTo e p =>
    obtain ⟨hpartitions, hunavailable⟩ := x.settings_note e p
    exact ⟨hpartitions, congrFun hunavailable⟩
  | truncate channel p offset =>
    simp only [perform, Bus.truncate]
    split <;> exact ⟨rfl, fun _ => rfl⟩
  | setUnavailable channel on =>
    refine ⟨rfl, fun c => ?_⟩
    by_cases hc : c = channel
    · simp [perform, Bus.setUnavailable, Use.mark?, hc]
    · simp [perform, Bus.setUnavailable, Use.mark?, hc, Ne.symm hc]
  | failQueries | join => exact ⟨rfl, fun _ => rfl⟩
  | rebalance name | poll name | commit name | rewind name | pause name =>
    rcases x.withMember_cases name _ with h | ⟨m, h⟩ <;> rw [perform, h] <;> exact ⟨rfl, fun _ => rfl⟩

theorem acked_note (e : Envelope) (result : Except PublishError (Position × Bus)) :
    (x.note e result).acked = x.acked ++ (acknowledged e result).toList := by
  cases result with
  | ok v => rfl
  | error err => exact (List.append_nil _).symm

/-- What is acknowledged under its key is acknowledged. -/
theorem acked_perform : ∃ acks, (x.perform u).acked = x.acked ++ acks ∧ (x.placed? u).toList.Sublist acks := by
  have quiet (hs : u.publishes? x.bus = none) (hplaced : x.placed? u = none) :
      ∃ acks, (x.perform u).acked = x.acked ++ acks ∧ (x.placed? u).toList.Sublist acks := by
    refine ⟨[], ?_, by rw [hplaced]; exact .slnil⟩
    rw [List.append_nil]
    rcases perform_of_not_publishes hs with ⟨_, _, _, -, h⟩ | h
    · exact h
    · exact h.acked_eq
  cases u with
  | publish e => exact ⟨_, x.acked_note e _, List.Sublist.refl _⟩
  | publishTo e p => exact ⟨_, x.acked_note e _, List.nil_sublist _⟩
  | _ => exact quiet rfl rfl

/-- What is placed by a use is on the partition of its key. -/
theorem partition_of_placed? {u : Use ℓ} {a : Position × Envelope} (h : x.placed? u = some a) :
    a.1.partition = x.bus.partitionOf a.2.key := by
  cases u with
  | publish e =>
    change acknowledged e (x.bus.publish e) = some a at h
    cases hp : x.bus.publish e with
    | ok v =>
      rw [hp] at h
      obtain rfl := Option.some.inj h
      obtain ⟨-, -, hposition, -⟩ := Bus.publishTo_eq_ok_iff.mp hp
      exact congrArg Position.partition hposition
    | error err =>
      rw [hp] at h
      exact nomatch h
  | _ => exact nomatch h

/-! ## What a run does -/

theorem partitions_run (uses : List (Use ℓ)) : (x.run uses).bus.partitions = x.bus.partitions := by
  induction uses generalizing x with
  | nil => rfl
  | cons u us ih => exact (ih _).trans (x.settings_perform u).1

theorem unavailable_run (uses : List (Use ℓ)) (c : String) : (x.run uses).bus.unavailable c =
    (uses.filterMap (Use.mark? c)).getLast?.getD (x.bus.unavailable c) := by
  induction uses generalizing x with
  | nil => rfl
  | cons u us ih =>
    have hrun : (x.run (u :: us)).bus.unavailable c = ((x.perform u).run us).bus.unavailable c := rfl
    rw [hrun, ih, (x.settings_perform u).2]
    cases hmark : u.mark? c with
    | none => rw [List.filterMap_cons_none hmark, Option.getD_none]
    | some on => rw [List.filterMap_cons_some hmark, List.getLast?_cons, Option.getD_some, Option.getD_some]

theorem placed_sublist (uses : List (Use ℓ)) :
    ∃ acks, (x.run uses).acked = x.acked ++ acks ∧ (x.placed uses).Sublist acks := by
  induction uses generalizing x with
  | nil => exact ⟨[], (List.append_nil _).symm, .slnil⟩
  | cons u us ih =>
    obtain ⟨first, hfirst, hplaced⟩ := x.acked_perform u
    obtain ⟨rest, hrest, hplaced'⟩ := ih (x.perform u)
    refine ⟨first ++ rest, ?_, hplaced.append hplaced'⟩
    rw [← List.append_assoc, ← hfirst]
    exact hrest

theorem partition_of_mem_placed {uses : List (Use ℓ)} {a : Position × Envelope} (h : a ∈ x.placed uses) :
    a.1.partition = x.bus.partitionOf a.2.key := by
  induction uses generalizing x with
  | nil => exact nomatch h
  | cons u us ih =>
    rcases List.mem_append.mp h with h | h
    · exact x.partition_of_placed? (Option.mem_toList.mp h)
    · rw [ih (x.perform u) h, Bus.partitionOf, (x.settings_perform u).1, Bus.partitionOf]

/-! ## By key -/

/-- What is known of a run on a new bus for which `n` partitions were asked. -/
structure PlacedByKey (n : Int) (uses : List (Use ℓ)) : Prop where
  /-- An envelope is refused exactly if its channel was marked, and that is the reason given. -/
  refused_iff : ∀ e err, ((opening n).run uses).bus.publish e = .error err ↔
    Use.marked e.destination uses = true ∧ err = .unavailable e.destination "channel marked unavailable"
  /-- There are as many partitions as were asked for, at least one, and every key has one of them, the same all
  along. -/
  in_range : ∀ key, ((opening n).run uses).bus.partitionOf key = (Bus.ofPartitions n).partitionOf key ∧
    0 ≤ (Bus.ofPartitions n).partitionOf key ∧ (Bus.ofPartitions n).partitionOf key < max n 1
  on_words : ∀ (count : Int32) (key : String), count.toInt = max n 1 →
    (Placement.hash key % count.toUInt32).toInt32.toInt = (Bus.ofPartitions n).partitionOf key
  /-- A record that was acknowledged under its key is on the partition of the key, until it is removed. -/
  on_partition : ∀ position e, (position, e) ∈ (opening n).placed uses →
    position.partition = (Bus.ofPartitions n).partitionOf e.key ∧
      ((position, e) ∈ ((opening n).run uses).bus.published e.destination ∨
        position.offset < ((opening n).run uses).bus.low e.destination position.partition)
  /-- The offsets for one key on one channel rise in the order in which its records were published. -/
  rising : ((opening n).placed uses).Pairwise fun a b =>
    a.2.destination = b.2.destination → a.2.key = b.2.key → a.1.offset < b.1.offset

/-- **The key decides on the partition**, and within it the records are in the order in which they were published,
whatever is done with the bus. -/
theorem placed_by_key_run (n : Int) (uses : List (Use ℓ)) : PlacedByKey n uses := by
  have hrecorded : Recorded (.ofPartitions n) ((opening n : Exchange ℓ).run uses).bus
      (told ((opening n : Exchange ℓ).run uses).acked) := recorded_run (recorded_start _) uses
  obtain ⟨acks, hacked, hsublist⟩ := (opening n : Exchange ℓ).placed_sublist uses
  rw [opening, List.nil_append] at hacked
  have hcount : ((Bus.ofPartitions n).partitions : Int) = max n 1 := by
    show ((max n.toNat 1 : Nat) : Int) = max n 1
    omega
  constructor
  case refused_iff =>
    intro e err
    rw [Bus.publish_eq_error_iff, unavailable_run]
    rfl
  case in_range =>
    intro key
    rw [← hcount, Bus.partitionOf, partitions_run]
    exact ⟨rfl, Placement.partitionOf_nonneg _ _, Placement.partitionOf_lt (Bus.partitions_pos _) key⟩
  case on_words =>
    intro count key h
    exact Placement.partitionOf_on_words (Bus.partitions_pos _) (h.trans hcount.symm) key
  case on_partition =>
    intro position e h
    refine ⟨(opening n).partition_of_mem_placed h, ?_⟩
    rw [(appendOnly_of_recorded hrecorded).published_iff]
    by_cases hlow : position.offset < ((opening n).run uses).bus.low e.destination position.partition
    · exact .inr hlow
    · exact .inl ⟨hacked ▸ hsublist.subset h, rfl, Int.not_lt.mp hlow⟩
  case rising =>
    have hacks := (pairwise_acked (pairwise_offsetsOn hrecorded)).sublist (hacked ▸ hsublist)
    refine hacks.imp_of_mem fun {a b} ha hb hlt hdest hkey => hlt hdest ?_
    rw [(opening n).partition_of_mem_placed ha, (opening n).partition_of_mem_placed hb, hkey]

end Exchange

end OrderRelay
