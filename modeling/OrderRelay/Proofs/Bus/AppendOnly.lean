import OrderRelay.Consumer
import OrderRelay.Proofs.Bus.Published

/-!
# Append-only logs

Anyone may publish on a bus, have retention remove records, make channels fail, and join consumers, which read and
commit. Whatever is done, in any order, the logs only grow at their high end and only lose records at their low
end, and no place is ever given to two records.

* `Exchange`, a bus with its consumers and the register of what was acknowledged on it, and `Use`, all that can be
  done with it;
* `Exchange.perform_cases`: a record is appended, a partition is truncated, or no log changes;
* `AppendOnly`, what holds at any time, and `Onward`, what a single use does;
* **`Exchange.append_only_run`**: both hold throughout every run on a new bus.
-/

namespace OrderRelay

/-- A consumer with its listener, and the state of the listener. -/
structure Member (ℓ : Type) where
  listener : Listener ℓ
  consumer : Consumer
  state : ℓ

/-- A bus in use. -/
structure Exchange (ℓ : Type) where
  bus : Bus
  /-- The consumers, by name. -/
  members : String → Option (Member ℓ)
  /-- The envelopes that were acknowledged so far, each with its place, in this order. -/
  acked : List (Position × Envelope)

/-- What can be done with a bus. Consumers are known by their names. -/
inductive Use (ℓ : Type) where
  /-- Store an envelope on the partition its key belongs to. -/
  | publish (e : Envelope)
  /-- Store an envelope on a given partition. -/
  | publishTo (e : Envelope) (p : Int)
  | truncate (channel : String) (p offset : Int)
  | setUnavailable (channel : String) (on : Bool)
  | failQueries (channel : String) (on : Bool)
  /-- A consumer joins. One of the same name leaves. -/
  | join (name : String) (channel : Channel) (listener : Listener ℓ) (state : ℓ)
  | rebalance (name : String)
  | poll (name : String)
  | commit (name : String) (r : ConsumedRecord)
  | rewind (name : String) (r : ConsumedRecord)
  | pause (name : String) (p : Int)

namespace Use

variable {ℓ : Type}

/-- The envelope that is published, and what comes of it. -/
def publishes? (b : Bus) : Use ℓ → Option (Envelope × Except PublishError (Position × Bus))
  | publish e => some (e, b.publish e)
  | publishTo e p => some (e, b.publishTo e p)
  | _ => none

theorem exists_publishTo {b : Bus} {u : Use ℓ} {e : Envelope} {result : Except PublishError (Position × Bus)}
    (h : u.publishes? b = some (e, result)) :
    ∃ p, result = b.publishTo e p ∧ ∀ q, u = .publishTo e q → q = p := by
  cases u with
  | publish e' =>
    obtain ⟨rfl, rfl⟩ := Prod.mk.inj (Option.some.inj h)
    exact ⟨b.partitionOf e'.key, rfl, fun _ hq => nomatch hq⟩
  | publishTo e' p =>
    obtain ⟨rfl, rfl⟩ := Prod.mk.inj (Option.some.inj h)
    exact ⟨p, rfl, fun _ hq => (Use.publishTo.inj hq).2.symm⟩
  | _ => exact nomatch h

end Use

namespace Exchange

variable {ℓ : Type}

/-- A new bus of `n` partitions that nothing was done with. -/
def opening (n : Int) : Exchange ℓ := ⟨.ofPartitions n, fun _ => none, []⟩

/-- The members after one of them has come, or is another now. -/
def seat (x : Exchange ℓ) (name : String) (listener : Listener ℓ) (a : Assigned ℓ) : Exchange ℓ :=
  { x with members := fun n => if n = name then some ⟨listener, a.consumer, a.state⟩ else x.members n }

/-- Do something with a member, if it is there. -/
def withMember (x : Exchange ℓ) (name : String) (act : Member ℓ → Exchange ℓ) : Exchange ℓ :=
  match x.members name with
  | none => x
  | some m => act m

/-- Note what came of publishing an envelope. The register has it if it is acknowledged, and nothing changes if
it is not. -/
def note (x : Exchange ℓ) (e : Envelope) : Except PublishError (Position × Bus) → Exchange ℓ
  | .ok (position, bus) => { x with bus, acked := x.acked ++ [(position, e)] }
  | .error _ => x

/-- The exchange after a use. -/
def perform (x : Exchange ℓ) : Use ℓ → Exchange ℓ
  | .publish e => x.note e (x.bus.publish e)
  | .publishTo e p => x.note e (x.bus.publishTo e p)
  | .truncate channel p offset => { x with bus := x.bus.truncate channel p offset }
  | .setUnavailable channel on => { x with bus := x.bus.setUnavailable channel on }
  | .failQueries channel on => { x with bus := x.bus.failQueries channel on }
  | .join name channel listener state => x.seat name listener (Consumer.join listener x.bus channel name state)
  | .rebalance name => x.withMember name fun m =>
      x.seat name m.listener (m.consumer.rebalance m.listener x.bus m.state)
  | .poll name => x.withMember name fun m =>
      x.seat name m.listener (m.consumer.poll m.listener x.bus m.state).2
  | .commit name r => x.withMember name fun m => { x with bus := m.consumer.committedBy x.bus r }
  | .rewind name r => x.withMember name fun m => x.seat name m.listener ⟨m.consumer.rewind r, m.state, []⟩
  | .pause name p => x.withMember name fun m => x.seat name m.listener ⟨m.consumer.pause p, m.state, []⟩

/-- The exchange after several uses. -/
def run (x : Exchange ℓ) (uses : List (Use ℓ)) : Exchange ℓ := uses.foldl perform x

variable (x : Exchange ℓ) (u : Use ℓ)

theorem run_append (uses later : List (Use ℓ)) : x.run (uses ++ later) = (x.run uses).run later :=
  List.foldl_append

/-! ## What a use comes to -/

theorem withMember_cases (name : String) (act : Member ℓ → Exchange ℓ) :
    x.withMember name act = x ∨ ∃ m, x.withMember name act = act m := by
  unfold withMember
  cases x.members name with
  | none => exact .inl rfl
  | some m => exact .inr ⟨m, rfl⟩

/-- What is known of a use that stores nothing. -/
structure Still (x x' : Exchange ℓ) : Prop where
  log_eq : ∀ c p, x'.bus.log c p = x.bus.log c p
  acked_eq : x'.acked = x.acked

theorem still_withMember (name : String) {act : Member ℓ → Exchange ℓ} (h : ∀ m, Still x (act m)) :
    Still x (x.withMember name act) := by
  rcases x.withMember_cases name act with h' | ⟨m, h'⟩
  · rw [h']
    exact ⟨fun _ _ => rfl, rfl⟩
  · rw [h']
    exact h m

variable {x u}

theorem perform_of_publishes {e : Envelope} {result : Except PublishError (Position × Bus)}
    (h : u.publishes? x.bus = some (e, result)) : x.perform u = x.note e result := by
  cases u with
  | publish | publishTo =>
    obtain ⟨rfl, rfl⟩ := Prod.mk.inj (Option.some.inj h)
    rfl
  | _ => exact nomatch h

/-- What publishes nothing truncates a partition, or changes no log. -/
theorem perform_of_not_publishes (h : u.publishes? x.bus = none) :
    (∃ c p offset, (x.perform u).bus = x.bus.truncate c p offset ∧ (x.perform u).acked = x.acked) ∨
      Still x (x.perform u) := by
  have still {bus : Bus} {members : String → Option (Member ℓ)} (hlog : ∀ c p, bus.log c p = x.bus.log c p) :
      Still x ⟨bus, members, x.acked⟩ := ⟨hlog, rfl⟩
  cases u with
  | publish | publishTo => exact nomatch h
  | truncate c p offset => exact .inl ⟨c, p, offset, rfl, rfl⟩
  | setUnavailable | failQueries | join => exact .inr (still fun _ _ => rfl)
  | rebalance | poll | commit | rewind | pause =>
    exact .inr (x.still_withMember _ fun m => still fun _ _ => rfl)

/-- **A use** appends a record, truncates a partition, or changes no log. -/
theorem perform_cases (x : Exchange ℓ) (u : Use ℓ) :
    (∃ e p position, x.bus.publishTo e p = .ok (position, (x.perform u).bus) ∧
        (x.perform u).acked = x.acked ++ [(position, e)]) ∨
      (∃ c p offset, (x.perform u).bus = x.bus.truncate c p offset ∧ (x.perform u).acked = x.acked) ∨
      Still x (x.perform u) := by
  cases hs : u.publishes? x.bus with
  | none => exact .inr (perform_of_not_publishes hs)
  | some published =>
    obtain ⟨e, result⟩ := published
    obtain ⟨p, hresult, -⟩ := Use.exists_publishTo hs
    rw [perform_of_publishes hs]
    cases result with
    | ok v => exact .inl ⟨e, p, v.1, hresult.symm, rfl⟩
    | error err => exact .inr (.inr ⟨fun _ _ => rfl, rfl⟩)

/-! ## The register and the logs -/

/-- The history that the register tells. -/
def told (acked : List (Position × Envelope)) : List Event := acked.map fun a => .stored none a.2 a.1

theorem told_append (acked : List (Position × Envelope)) (position : Position) (e : Envelope) :
    told (acked ++ [(position, e)]) = told acked ++ [.stored none e position] := List.map_append

theorem appended_told_iff {acked : List (Position × Envelope)} {c : String} {position : Position}
    {r : StoredRecord} :
    Appended (told acked) c position r ↔ ∃ e, (position, e) ∈ acked ∧ e.destination = c ∧ e.record = r := by
  constructor
  · rintro ⟨source, e, he, hc, hr⟩
    obtain ⟨⟨position', e'⟩, ha, heq⟩ := List.mem_map.mp he
    obtain ⟨-, rfl, rfl⟩ := Event.stored.inj heq
    exact ⟨e', ha, hc, hr⟩
  · rintro ⟨e, he, hc, hr⟩
    exact ⟨none, e, List.mem_map.mpr ⟨_, he, rfl⟩, hc, hr⟩

theorem recorded_perform {start : Bus} (hr : Recorded start x.bus (told x.acked)) (u : Use ℓ) :
    Recorded start (x.perform u).bus (told (x.perform u).acked) := by
  rcases x.perform_cases u with ⟨e, p, position, hb, ha⟩ | ⟨c, p, offset, hb, ha⟩ | ⟨hlog, ha⟩
  · rw [ha, told_append]
    exact hr.publishTo hb none
  · rw [ha, hb]
    exact hr.truncate c p offset
  · rw [ha]
    have h := hr.quiet [] (fun _ he => nomatch he) hlog
    rwa [List.append_nil] at h

theorem recorded_run {start : Bus} (hr : Recorded start x.bus (told x.acked)) (uses : List (Use ℓ)) :
    Recorded start (x.run uses).bus (told (x.run uses).acked) := by
  induction uses generalizing x with
  | nil => exact hr
  | cons u uses ih => exact ih (recorded_perform hr u)

/-! ## No place is given twice -/

theorem pairwise_offsetsOn {start b : Bus} {h : List Event} (hr : Recorded start b h) (c : String) (p : Int) :
    (offsetsOn c p h).Pairwise (· < ·) := by
  rw [hr.offsets_eq c p, List.pairwise_map]
  refine List.pairwise_lt_range.imp fun {i j} hij => ?_
  omega

theorem offsetsOn_told_cons (c : String) (p : Int) (position : Position) (e : Envelope)
    (acked : List (Position × Envelope)) : offsetsOn c p (told ((position, e) :: acked)) =
      (if e.destination = c ∧ position.partition = p then [position.offset] else []) ++
        offsetsOn c p (told acked) := by
  rw [← offsetsOn_stored c p none, ← offsetsOn_append]
  rfl

theorem mem_offsetsOn_told {position : Position} {e : Envelope} {acked : List (Position × Envelope)}
    (h : (position, e) ∈ acked) :
    position.offset ∈ offsetsOn e.destination position.partition (told acked) := by
  refine List.mem_filterMap.mpr ⟨.stored none e position, List.mem_map.mpr ⟨_, h, rfl⟩, ?_⟩
  exact if_pos ⟨rfl, rfl⟩

/-- On one partition, what was acknowledged later has the larger offset. -/
theorem pairwise_acked {acked : List (Position × Envelope)}
    (h : ∀ c p, (offsetsOn c p (told acked)).Pairwise (· < ·)) :
    acked.Pairwise fun a b => a.2.destination = b.2.destination → a.1.partition = b.1.partition →
      a.1.offset < b.1.offset := by
  induction acked with
  | nil => exact .nil
  | cons a acked ih =>
    obtain ⟨position, e⟩ := a
    constructor
    · intro b hb hdest hpartition
      have hcons := h e.destination position.partition
      rw [offsetsOn_told_cons, if_pos ⟨rfl, rfl⟩, List.singleton_append, List.pairwise_cons] at hcons
      have hmem := mem_offsetsOn_told hb
      rw [← hdest, ← hpartition] at hmem
      exact hcons.1 _ hmem
    · refine ih fun c p => ?_
      have hcons := h c p
      rw [offsetsOn_told_cons] at hcons
      exact (List.pairwise_append.mp hcons).2.1

theorem nodup_places {start : Bus} (hr : Recorded start x.bus (told x.acked)) :
    (x.acked.map fun a => (a.2.destination, a.1)).Nodup := by
  unfold List.Nodup
  rw [List.pairwise_map]
  refine (pairwise_acked (pairwise_offsetsOn hr)).imp fun {a b} hlt heq => ?_
  obtain ⟨hdest, hposition⟩ := Prod.mk.inj heq
  have hlt := hlt hdest (congrArg Position.partition hposition)
  rw [hposition] at hlt
  exact Int.lt_irrefl _ hlt

/-! ## What holds at any time -/

/-- What holds of a bus in use. -/
structure AppendOnly (x : Exchange ℓ) : Prop where
  /-- No place of a channel is given to two envelopes. -/
  once : (x.acked.map fun a => (a.2.destination, a.1)).Nodup
  low_le_high : ∀ c p, x.bus.low c p ≤ x.bus.high c p
  /-- Published are the acknowledged envelopes that are not below the low end, just as they came. -/
  published_iff : ∀ c position e, (position, e) ∈ x.bus.published c ↔
    (position, e) ∈ x.acked ∧ e.destination = c ∧ x.bus.low c position.partition ≤ position.offset
  ordered : ∀ c, (x.bus.published c).Pairwise fun a b => a.1.Before b.1

/-- What a use does to the logs. -/
structure Onward (x : Exchange ℓ) (u : Use ℓ) : Prop where
  low_le : ∀ c p, x.bus.low c p ≤ (x.perform u).bus.low c p
  high_le : ∀ c p, x.bus.high c p ≤ (x.perform u).bus.high c p
  /-- An envelope that is stored gets the place at the end of its partition, and the end moves on by one. -/
  stored : ∀ e position bus, u.publishes? x.bus = some (e, .ok (position, bus)) →
    (∀ p, u = .publishTo e p → position.partition = p) ∧
    position.offset = x.bus.high e.destination position.partition ∧
    (∀ c p, (x.perform u).bus.high c p =
      if c = e.destination ∧ p = position.partition then x.bus.high c p + 1 else x.bus.high c p) ∧
    (x.perform u).acked = x.acked ++ [(position, e)]
  /-- An envelope that is not stored leaves nothing behind. -/
  refused : ∀ e err, u.publishes? x.bus = some (e, .error err) →
    (∀ c p, (x.perform u).bus.log c p = x.bus.log c p) ∧
    (x.perform u).bus.committed = x.bus.committed ∧ (x.perform u).acked = x.acked
  /-- Nothing but publishing is acknowledged, or moves an end. -/
  quiet : u.publishes? x.bus = none →
    (∀ c p, (x.perform u).bus.high c p = x.bus.high c p) ∧ (x.perform u).acked = x.acked

theorem low_le_low_perform (x : Exchange ℓ) (u : Use ℓ) (c : String) (p : Int) :
    x.bus.low c p ≤ (x.perform u).bus.low c p := by
  rcases x.perform_cases u with ⟨e, q, position, hb, -⟩ | ⟨d, q, offset, hb, -⟩ | ⟨hlog, -⟩
  · exact Int.le_of_eq (Bus.low_publishTo hb c p).symm
  · rw [hb]
    exact Bus.low_le_low_truncate x.bus d q offset c p
  · exact Int.le_of_eq (by rw [Bus.low, Bus.low, hlog])

theorem high_le_high_perform (x : Exchange ℓ) (u : Use ℓ) (c : String) (p : Int) :
    x.bus.high c p ≤ (x.perform u).bus.high c p := by
  rcases x.perform_cases u with ⟨e, q, position, hb, -⟩ | ⟨d, q, offset, hb, -⟩ | ⟨hlog, -⟩
  · rw [Bus.high_publishTo hb]
    split <;> omega
  · exact Int.le_of_eq (by rw [hb, Bus.high_truncate])
  · exact Int.le_of_eq (by rw [Bus.high, Bus.high, hlog])

theorem onward (x : Exchange ℓ) (u : Use ℓ) : Onward x u where
  low_le := x.low_le_low_perform u
  high_le := x.high_le_high_perform u
  stored e position bus h := by
    obtain ⟨p, hp, hq⟩ := Use.exists_publishTo h
    obtain ⟨-, -, hpos, -⟩ := Bus.publishTo_eq_ok_iff.mp hp.symm
    subst hpos
    rw [perform_of_publishes h]
    exact ⟨fun q hu => (hq q hu).symm, rfl, Bus.high_publishTo hp.symm, rfl⟩
  refused e err h := by
    rw [perform_of_publishes h]
    exact ⟨fun _ _ => rfl, rfl, rfl⟩
  quiet h := by
    rcases perform_of_not_publishes h with ⟨c, p, offset, hb, ha⟩ | ⟨hlog, ha⟩
    · exact ⟨fun d q => by rw [hb, Bus.high_truncate], ha⟩
    · exact ⟨fun d q => by rw [Bus.high, Bus.high, hlog], ha⟩

theorem get?_log_ofPartitions (n : Int) (c : String) (p o : Int) : ((Bus.ofPartitions n).log c p).get? o = none := by
  rw [Option.eq_none_iff_forall_ne_some]
  intro r hr
  have hrange : (0 : Int) ≤ o ∧ o < 0 := (PartitionLog.isSome_get?_iff _ _).mp (by rw [hr]; rfl)
  omega

theorem eq_of_record_eq {e e' : Envelope} (hd : e.destination = e'.destination) (hr : e.record = e'.record) :
    e = e' := by
  cases e
  cases e'
  simp_all [Envelope.record]

/-- A bus that began without records, and whose register tells of all that was stored, has nothing to hide. -/
theorem appendOnly_of_recorded {n : Int} (hr : Recorded (.ofPartitions n) x.bus (told x.acked)) :
    AppendOnly x where
  once := nodup_places hr
  low_le_high := x.bus.low_le_high
  published_iff c position e := by
    rw [Bus.mem_published_iff]
    constructor
    · rintro ⟨hdest, hget⟩
      have hlow := ((PartitionLog.isSome_get?_iff _ _).mp (by rw [hget]; rfl)).1
      rcases hr.told c position.partition position.offset e.record hget with hstart | happ
      · rw [get?_log_ofPartitions] at hstart
        exact nomatch hstart
      · obtain ⟨e', ha, hdest', hrecord⟩ := appended_told_iff.mp happ
        obtain rfl := eq_of_record_eq (hdest'.trans hdest.symm) hrecord
        exact ⟨ha, hdest, hlow⟩
    · rintro ⟨ha, hdest, hlow⟩
      refine ⟨hdest, (hr.kept c position e.record (appended_told_iff.mpr ⟨e, ha, hdest, rfl⟩)).resolve_right ?_⟩
      exact Int.not_lt.mpr hlow
  ordered := x.bus.pairwise_published

/-- **The bus is an append-only log**, whatever is done with it. -/
theorem append_only_run (n : Int) (uses : List (Use ℓ)) :
    AppendOnly ((opening n).run uses) ∧ (∀ u, Onward ((opening n).run uses) u) ∧
      ∀ later c p, ((opening n).run uses).bus.low c p ≤ ((opening n).run (uses ++ later)).bus.low c p ∧
        ((opening n).run uses).bus.high c p ≤ ((opening n).run (uses ++ later)).bus.high c p := by
  refine ⟨appendOnly_of_recorded (recorded_run (recorded_start _) uses), onward _, fun later c p => ?_⟩
  rw [run_append]
  generalize (opening n).run uses = x
  induction later generalizing x with
  | nil => exact ⟨Int.le_refl _, Int.le_refl _⟩
  | cons u later ih =>
    obtain ⟨hlow, hhigh⟩ := ih (x.perform u)
    exact ⟨Int.le_trans (x.low_le_low_perform u c p) hlow, Int.le_trans (x.high_le_high_perform u c p) hhigh⟩

end Exchange

end OrderRelay
