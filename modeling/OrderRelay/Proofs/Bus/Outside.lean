import OrderRelay.Processing.Outcome
import OrderRelay.Proofs.Bus.Logs

/-!
# What others do to a bus

Beside the workers, anyone may publish, retention may remove records, and channels may fail and recover.

* `Event`, what can be told of a run, and `Outside`, what others can do;
* `Outside.alter_cases`: a record is appended, a partition is truncated, or no log changes;
* `Outside.lt_low_alter`: what is retained no longer was removed by a truncation that is told of.
-/

namespace OrderRelay

/-- What can be told of a run afterwards. -/
inductive Event where
  /-- It was decided what becomes of a record. -/
  | resolved (tier : Tier) (r : ConsumedRecord) (resolution : Resolution)
  /-- An envelope was stored. A worker does so for a record. -/
  | stored (source : Option (Tier × ConsumedRecord)) (e : Envelope) (position : Position)
  | committed (tier : Tier) (r : ConsumedRecord)
  | rewound (tier : Tier) (r : ConsumedRecord)
  /-- Retention moved the low end of a partition. -/
  | removed (channel : String) (p low low' : Int)
deriving DecidableEq, Repr

/-- The record falls to retention by the event. -/
def Event.Removes (channel : String) (p o : Int) : Event → Prop
  | removed c q low low' => c = channel ∧ q = p ∧ low ≤ o ∧ o < low'
  | _ => False

/-- What others than the workers can do. -/
inductive Outside (η : Type) where
  | publish (e : Envelope) (p : Int)
  | truncate (channel : String) (p offset : Int)
  | setUnavailable (channel : String) (on : Bool)
  | failQueries (channel : String) (on : Bool)
  /-- The clock shows another time. -/
  | elapse (now : Int)
  /-- The handler changes its mind. -/
  | remember (memory : η)

namespace Outside

variable {η : Type}

/-- The bus afterwards. A publish that fails leaves it as it is. -/
def alter (b : Bus) : Outside η → Bus
  | publish e p => match b.publishTo e p with
    | .ok (_, bus) => bus
    | .error _ => b
  | truncate channel p offset => b.truncate channel p offset
  | setUnavailable channel on => b.setUnavailable channel on
  | failQueries channel on => b.failQueries channel on
  | elapse _ => b
  | remember _ => b

/-- What there is to tell. -/
def events (b : Bus) : Outside η → List Event
  | publish e p => match b.publishTo e p with
    | .ok (position, _) => [.stored none e position]
    | .error _ => []
  | truncate channel p offset =>
    [.removed channel p (b.low channel p) ((b.truncate channel p offset).low channel p)]
  | _ => []

/-- The time afterwards. -/
def time (now : Int) : Outside η → Int
  | elapse now => now
  | _ => now

/-- The handler's state afterwards. -/
def mind (memory : η) : Outside η → η
  | remember memory => memory
  | _ => memory

/-! ## What it comes to -/

variable (o : Outside η) (b : Bus)

/-- A record is appended, a partition is truncated, or no log changes. -/
theorem alter_cases :
    (∃ e p position, b.publishTo e p = .ok (position, o.alter b) ∧
        o.events b = [.stored none e position]) ∨
      (∃ c p offset, o.alter b = b.truncate c p offset ∧
        o.events b = [.removed c p (b.low c p) ((o.alter b).low c p)]) ∨
      (∀ c p, (o.alter b).log c p = b.log c p) ∧ (o.alter b).committed = b.committed ∧
        o.events b = [] := by
  cases o with
  | publish e p =>
    cases h : b.publishTo e p with
    | ok v => exact .inl ⟨e, p, v.1, by simp only [alter, h], by simp only [events, h]⟩
    | error err =>
      have ha : (publish e p : Outside η).alter b = b := by simp only [alter, h]
      exact .inr (.inr ⟨fun _ _ => by rw [ha], by rw [ha], by simp only [events, h]⟩)
  | truncate c p offset => exact .inr (.inl ⟨c, p, offset, rfl, rfl⟩)
  | _ => exact .inr (.inr ⟨fun _ _ => rfl, rfl, rfl⟩)

theorem high_le_high_alter (c : String) (p : Int) : b.high c p ≤ (o.alter b).high c p := by
  rcases o.alter_cases b with ⟨e, q, position, h, -⟩ | ⟨d, q, offset, h, -⟩ | ⟨h, -⟩
  · rw [Bus.high_publishTo h]
    split <;> omega
  · exact Int.le_of_eq (by rw [h, Bus.high_truncate])
  · exact Int.le_of_eq (by rw [Bus.high, Bus.high, h])

theorem low_le_low_alter (c : String) (p : Int) : b.low c p ≤ (o.alter b).low c p := by
  rcases o.alter_cases b with ⟨e, q, position, h, -⟩ | ⟨d, q, offset, h, -⟩ | ⟨h, -⟩
  · exact Int.le_of_eq (by rw [Bus.low_publishTo h])
  · rw [h]
    exact Bus.low_le_low_truncate b d q offset c p
  · exact Int.le_of_eq (by rw [Bus.low, Bus.low, h])

theorem committed_alter : (o.alter b).committed = b.committed := by
  rcases o.alter_cases b with ⟨e, q, position, h, -⟩ | ⟨d, q, offset, h, -⟩ | ⟨-, h, -⟩
  · exact Bus.committed_publishTo h
  · rw [h]
    exact Bus.committed_truncate b d q offset
  · exact h

theorem partitions_alter : (o.alter b).partitions = b.partitions := by
  cases o with
  | publish e p =>
    cases hp : b.publishTo e p with
    | error err => simp only [alter, hp]
    | ok v =>
      obtain ⟨-, -, -, hb⟩ := Bus.publishTo_eq_ok_iff.mp hp
      simp only [alter, hp, hb]
      rfl
  | truncate c p offset =>
    simp only [alter, Bus.truncate]
    split <;> rfl
  | _ => rfl

variable {o b}

theorem mem_events {ev : Event} (h : ev ∈ o.events b) :
    (∃ e position, ev = .stored none e position) ∨ ∃ c p low low', ev = .removed c p low low' := by
  rcases o.alter_cases b with ⟨e, q, position, -, he⟩ | ⟨d, q, offset, -, he⟩ | ⟨-, -, he⟩
  · exact .inl ⟨_, _, List.mem_singleton.mp (he ▸ h)⟩
  · exact .inr ⟨_, _, _, _, List.mem_singleton.mp (he ▸ h)⟩
  · exact absurd (he ▸ h) List.not_mem_nil

/-- A log grows by a publish to its channel alone. -/
theorem exists_of_high_lt {c : String} {p : Int} (h : b.high c p < (o.alter b).high c p) :
    ∃ e q, o = .publish e q ∧ c = e.destination := by
  cases o with
  | publish e q =>
    cases hstored : b.publishTo e q with
    | ok stored =>
      rw [alter, hstored] at h
      exact ⟨e, q, rfl, Bus.eq_destination_of_high_lt hstored h⟩
    | error err =>
      rw [alter, hstored] at h
      exact absurd h (Int.lt_irrefl _)
  | truncate d q offset =>
    rw [alter, Bus.high_truncate] at h
    exact absurd h (Int.lt_irrefl _)
  | _ => exact absurd h (Int.lt_irrefl _)

/-- What is retained no longer was removed. -/
theorem lt_low_alter {c : String} {p i : Int} (h : i < (o.alter b).low c p) :
    i < b.low c p ∨ ∃ e ∈ o.events b, e.Removes c p i := by
  rcases o.alter_cases b with ⟨e, q, position, hb, -⟩ | ⟨d, q, offset, hb, he⟩ | ⟨hb, -⟩
  · rw [Bus.low_publishTo hb] at h
    exact .inl h
  · by_cases hl : i < b.low c p
    · exact .inl hl
    · by_cases hcq : c = d ∧ p = q
      · obtain ⟨rfl, rfl⟩ := hcq
        rw [he]
        exact .inr ⟨_, List.mem_singleton.mpr rfl, rfl, rfl, Int.not_lt.mp hl, h⟩
      · -- Only the partition that was truncated has another low end.
        rw [hb, Bus.low, Bus.log_truncate, if_neg fun hh => hcq hh.2] at h
        exact .inl h
  · rw [Bus.low, hb] at h
    exact .inl h

end Outside

end OrderRelay

