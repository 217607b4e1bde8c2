import OrderRelay.Proofs.Bus.AppendOnly
import OrderRelay.Proofs.Consumer.Reading

/-!
# What a consumer is delivered

A poll hands out the first record that some partition retains at or after its read position, and the read position
moves just past it. So nothing is handed out twice between two assignments, and nothing is left out but what
retention had removed.

* `Consumer.arrived`, the consumer that a poll reads with, and `Consumer.Delivery`, what is known of a record
  that it hands out; `delivery_of_poll`, `poll_eq_none_iff`;
* `Exchange.deliveries`, the records that a consumer gets in the course of a run, and `Exchange.Removed`, the
  offsets that a run has removed;
* `Abreast`, what holds of the read positions and of all that was delivered, kept by every use that leaves the
  consumer its partitions and its place (`Abreast.quiet`, `Abreast.arrive`, `Abreast.deliver`);
* `Exchange.paused_run`: a partition is paused from the use that pauses it until the next assignment;
* **`Exchange.delivers_run`**: what a poll does in any run, what several polls deliver, and what they do not.
-/

namespace OrderRelay

namespace Consumer

variable {ℓ : Type} (listener : Listener ℓ) {b : Bus} {c c' : Consumer} {s : ℓ} {r : ConsumedRecord}

/-! ## One poll -/

/-- The consumer that a poll reads with. One still without its partitions tries to get them first. -/
def arrived (b : Bus) (c : Consumer) (s : ℓ) : Assigned ℓ :=
  if c.pending then assign listener b c s else ⟨c, s, []⟩

theorem arrived_of_not_pending (h : c.pending = false) : arrived listener b c s = ⟨c, s, []⟩ :=
  if_neg (by rw [h]; exact Bool.false_ne_true)

theorem channel_arrived (b : Bus) (c : Consumer) (s : ℓ) :
    (arrived listener b c s).consumer.channel = c.channel := by
  unfold arrived
  split
  · exact channel_assign listener b c s
  · rfl

/-- What is known of a record that is handed out, and of the consumer before and after. -/
structure Delivery (b : Bus) (c : Consumer) (r : ConsumedRecord) (c' : Consumer) : Prop where
  given : c.pending = false
  channel_eq : r.channel = c.channel.name
  group_eq : r.group = c.channel.group
  not_paused : c.isPaused r.partition = false
  /-- The record is the first one that is retained at or after the read position, and it is as it was stored. -/
  first : ∃ position stored, c.positions.get? r.partition = some position ∧ position ≤ r.offset ∧
    (b.log c.channel.name r.partition).get? r.offset = some stored ∧
    (∀ o, position ≤ o → o < r.offset → (b.log c.channel.name r.partition).get? o = none) ∧
    r.key = some stored.key ∧ r.payload = stored.payload ∧ r.timestamp = some stored.timestamp
  /-- No read position moves but that of the partition. -/
  positions : ∀ p, c'.positions.get? p = if p = r.partition then some (r.offset + 1) else c.positions.get? p
  rest : c'.channel = c.channel ∧ c'.name = c.name ∧ c'.paused = c.paused ∧ c'.pending = c.pending

/-- A record that is read comes from the candidate of some partition. -/
theorem exists_candidate_of_next? (h : next? b c = some (r, c')) : ∃ p position offset stored turn,
    c.positions.get? p = some position ∧ candidate? b c p position = some (offset, stored) ∧
    r = ⟨c.channel.name, c.channel.group, p, offset, some stored.key, stored.payload, some stored.timestamp⟩ ∧
    c' = { c with positions := c.positions.insert p (offset + 1), turn := turn } := by
  unfold next? at h
  obtain ⟨⟨⟨p, position⟩, place⟩, hm, hf⟩ := List.exists_of_findSome?_eq_some h
  obtain ⟨⟨offset, stored⟩, hcandidate, heq⟩ := Option.map_eq_some_iff.mp hf
  obtain ⟨rfl, rfl⟩ := Prod.mk.inj heq
  have hposition := PartitionMap.mem_entries_iff.mp (mem_of_mem_round hm)
  exact ⟨p, position, offset, stored, _, hposition, hcandidate, rfl, rfl⟩

theorem candidate?_eq_some {p position offset : Int} {stored : StoredRecord}
    (h : candidate? b c p position = some (offset, stored)) :
    c.isPaused p = false ∧ offset = max position (b.low c.channel.name p) ∧
      (b.log c.channel.name p).get? offset = some stored := by
  unfold candidate? at h
  split at h
  · exact nomatch h
  · rename_i hpaused
    obtain ⟨stored', hstored, heq⟩ := Option.map_eq_some_iff.mp h
    obtain ⟨rfl, rfl⟩ := Prod.mk.inj heq
    exact ⟨Bool.eq_false_iff.mpr hpaused, rfl, hstored⟩

theorem delivery_of_next? (hgiven : c.pending = false) (h : next? b c = some (r, c')) : Delivery b c r c' := by
  obtain ⟨p, position, offset, stored, turn, hp, hcandidate, rfl, rfl⟩ := exists_candidate_of_next? h
  obtain ⟨hpaused, hoffset, hstored⟩ := candidate?_eq_some hcandidate
  refine ⟨hgiven, rfl, rfl, hpaused, ⟨position, stored, hp, ?_, hstored, fun o ho hlt => ?_, rfl, rfl, rfl⟩,
    fun q => ?_, rfl, rfl, rfl, rfl⟩
  · show position ≤ offset
    omega
  · -- Below the offset and not below the read position: the offset is the low end then.
    have hlow : o < (b.log c.channel.name p).low := by
      have : o < offset := hlt
      unfold Bus.low at hoffset
      omega
    rw [← Option.not_isSome_iff_eq_none, PartitionLog.isSome_get?_iff]
    exact fun h => Int.not_le.mpr hlow h.1
  · rw [PartitionMap.get?_insert]
    by_cases hq : p = q
    · rw [if_pos hq, if_pos hq.symm]
    · rw [if_neg hq, if_neg (Ne.symm hq)]

/-- What a poll answers, and what it leaves. -/
theorem poll_eq (b : Bus) (c : Consumer) (s : ℓ) :
    poll listener b c s =
      if (arrived listener b c s).consumer.pending then (none, arrived listener b c s)
      else match next? b (arrived listener b c s).consumer with
        | none => (none, arrived listener b c s)
        | some (r, c') => (some r, { arrived listener b c s with consumer := c' }) := rfl

variable {listener}

/-- **What is handed out** by a poll. -/
theorem delivery_of_poll (h : (poll listener b c s).1 = some r) :
    Delivery b (arrived listener b c s).consumer r (poll listener b c s).2.consumer ∧
      (poll listener b c s).2.state = (arrived listener b c s).state := by
  rw [poll_eq] at h ⊢
  cases hpending : (arrived listener b c s).consumer.pending with
  | true =>
    rw [hpending, if_pos rfl] at h
    exact nomatch h
  | false =>
    rw [hpending, if_neg Bool.false_ne_true] at h
    rw [if_neg Bool.false_ne_true]
    cases hn : next? b (arrived listener b c s).consumer with
    | none =>
      rw [hn] at h
      exact nomatch h
    | some e =>
      rw [hn] at h
      obtain rfl : e.1 = r := Option.some.inj h
      exact ⟨delivery_of_next? hpending hn, rfl⟩

/-- A poll without an answer leaves the consumer it read with. -/
theorem poll_of_none (h : (poll listener b c s).1 = none) : (poll listener b c s).2 = arrived listener b c s := by
  rw [poll_eq] at h ⊢
  split
  · rfl
  · rename_i hgiven
    rw [if_neg hgiven] at h
    cases hn : next? b (arrived listener b c s).consumer with
    | none => rfl
    | some e =>
      rw [hn] at h
      exact nomatch h

/-- There is nothing to read for the consumer. -/
def Exhausted (b : Bus) (c : Consumer) : Prop :=
  ∀ p position, c.positions.get? p = some position → c.isPaused p = false →
    ∀ o, position ≤ o → (b.log c.channel.name p).get? o = none

theorem exhausted_of_next? (h : next? b c = none) : Exhausted b c := by
  intro p position hp hpaused o ho
  have hnone := get?_eq_none_of_next?_eq_none h hp hpaused
  rw [← Option.not_isSome_iff_eq_none, PartitionLog.isSome_get?_iff] at hnone ⊢
  unfold Bus.low at hnone
  omega

theorem next?_of_exhausted (h : Exhausted b c) : next? b c = none := by
  rw [Option.eq_none_iff_forall_ne_some]
  rintro ⟨r, c'⟩ hn
  obtain ⟨p, position, offset, stored, turn, hp, hcandidate, -⟩ := exists_candidate_of_next? hn
  obtain ⟨hpaused, hoffset, hstored⟩ := candidate?_eq_some hcandidate
  have hnone := h p position hp hpaused offset (by omega)
  exact nomatch hnone.symm.trans hstored

/-- **A poll has no answer** exactly when the consumer is still without its partitions, or has nothing to read. -/
theorem poll_eq_none_iff : (poll listener b c s).1 = none ↔
    (arrived listener b c s).consumer.pending = true ∨ Exhausted b (arrived listener b c s).consumer := by
  rw [poll_eq]
  cases (arrived listener b c s).consumer.pending with
  | true => simp
  | false =>
    rw [if_neg Bool.false_ne_true]
    cases hn : next? b (arrived listener b c s).consumer with
    | none => simp [exhausted_of_next? hn]
    | some e =>
      have hsome : ¬ Exhausted b (arrived listener b c s).consumer := fun h =>
        nomatch hn.symm.trans (next?_of_exhausted h)
      simp [hsome]

end Consumer

/-! ## In the course of a run -/

namespace Use

variable {ℓ : Type}

/-- The consumer of that name is given its partitions anew. -/
def Reassigns (name : String) : Use ℓ → Prop
  | join n _ _ _ => n = name
  | rebalance n => n = name
  | _ => False

/-- The consumer of that name is given its partitions anew, or is sent back. -/
def Resets (name : String) : Use ℓ → Prop
  | join n _ _ _ => n = name
  | rebalance n => n = name
  | rewind n _ => n = name
  | _ => False

theorem resets_of_reassigns {name : String} {u : Use ℓ} (h : u.Reassigns name) : u.Resets name := by
  cases u with
  | join | rebalance => exact h
  | _ => exact h.elim

end Use

namespace Exchange

variable {ℓ : Type}

/-- The record that a use hands out to the consumer of a name. -/
def answer? (x : Exchange ℓ) (name : String) : Use ℓ → Option ConsumedRecord
  | .poll n => if n = name then
      (x.members name).bind fun m => (m.consumer.poll m.listener x.bus m.state).1
    else none
  | _ => none

/-- The records that the consumer of a name gets in the course of several uses. -/
def deliveries (x : Exchange ℓ) (name : String) : List (Use ℓ) → List ConsumedRecord
  | [] => []
  | u :: us => (x.answer? name u).toList ++ (x.perform u).deliveries name us

/-- A truncation among the uses removed the offset. -/
def Removed (x : Exchange ℓ) (uses : List (Use ℓ)) (channel : String) (p o : Int) : Prop :=
  ∃ before offset after, uses = before ++ .truncate channel p offset :: after ∧
    (x.run before).bus.low channel p ≤ o ∧
    o < (x.run (before ++ [.truncate channel p offset])).bus.low channel p

variable {x : Exchange ℓ} {u : Use ℓ} {name : String} {m : Member ℓ}

theorem Removed.append {uses : List (Use ℓ)} {c : String} {p o : Int} (h : x.Removed uses c p o)
    (more : List (Use ℓ)) : x.Removed (uses ++ more) c p o := by
  obtain ⟨before, offset, after, rfl, hlow⟩ := h
  exact ⟨before, offset, after ++ more, List.append_assoc .., hlow⟩

/-- Only a truncation moves the low end of a partition. -/
theorem low_perform (x : Exchange ℓ) (u : Use ℓ) (c : String) (p : Int) :
    (x.perform u).bus.low c p = x.bus.low c p ∨ ∃ offset, u = .truncate c p offset := by
  cases hs : u.publishes? x.bus with
  | some published =>
    obtain ⟨e, result⟩ := published
    obtain ⟨q, hresult, -⟩ := Use.exists_publishTo hs
    rw [perform_of_publishes hs]
    cases result with
    | ok v => exact .inl (Bus.low_publishTo hresult.symm c p)
    | error err => exact .inl rfl
  | none =>
    cases u with
    | publish | publishTo => exact nomatch hs
    | truncate d q offset =>
      by_cases hd : c = d ∧ p = q
      · obtain ⟨rfl, rfl⟩ := hd
        exact .inr ⟨offset, rfl⟩
      · refine .inl ?_
        show (x.bus.truncate d q offset).low c p = x.bus.low c p
        rw [Bus.low, Bus.log_truncate, if_neg fun h => hd h.2, Bus.low]
    | setUnavailable | failQueries | join => exact .inl rfl
    | rebalance | poll | commit | rewind | pause =>
      refine .inl (congrArg PartitionLog.low (Still.log_eq ?_ c p))
      exact x.still_withMember _ fun m => ⟨fun _ _ => rfl, rfl⟩

/-- What is below the low end now, and was not in the beginning, was removed. -/
theorem removed_of_lt_low {c : String} {p o : Int} (uses : List (Use ℓ)) (hlow : x.bus.low c p ≤ o)
    (ho : o < (x.run uses).bus.low c p) : x.Removed uses c p o := by
  induction uses generalizing x with
  | nil => exact absurd hlow (Int.not_le.mpr ho)
  | cons u uses ih =>
    by_cases hu : o < (x.perform u).bus.low c p
    · rcases x.low_perform u c p with heq | ⟨offset, rfl⟩
      · exact absurd hlow (Int.not_le.mpr (heq ▸ hu))
      · exact ⟨[], offset, uses, rfl, hlow, hu⟩
    · obtain ⟨before, offset, after, rfl, hrest⟩ := ih (Int.not_lt.mp hu) ho
      exact ⟨u :: before, offset, after, rfl, hrest⟩

/-! ## What a use does to a consumer -/

theorem members_seat (x : Exchange ℓ) (n : String) (listener : Listener ℓ) (a : Assigned ℓ) (name : String) :
    (x.seat n listener a).members name =
      if name = n then some ⟨listener, a.consumer, a.state⟩ else x.members name := rfl

theorem members_note (x : Exchange ℓ) (e : Envelope) (result : Except PublishError (Position × Bus)) :
    (x.note e result).members = x.members := by
  cases result <;> rfl

theorem withMember_of_some (hm : x.members name = some m) (act : Member ℓ → Exchange ℓ) :
    x.withMember name act = act m := by
  rw [withMember, hm]

/-- A member keeps its seat when another one is given a new seat. -/
theorem members_withMember_of_ne {n : String} {act : Member ℓ → Exchange ℓ} (hm : x.members name = some m)
    (h : ∀ m', (act m').members name = x.members name) : (x.withMember n act).members name = some m := by
  rcases x.withMember_cases n act with heq | ⟨m', heq⟩
  · rw [heq, hm]
  · rw [heq, h, hm]

theorem answer?_poll (hm : x.members name = some m) :
    x.answer? name (.poll name) = (m.consumer.poll m.listener x.bus m.state).1 := by
  show (if name = name then _ else none) = _
  rw [if_pos rfl, hm]
  rfl

theorem perform_poll (hm : x.members name = some m) :
    x.perform (.poll name) = x.seat name m.listener (m.consumer.poll m.listener x.bus m.state).2 :=
  withMember_of_some hm _

/-- What a use can make of the consumer of a name, if it neither gives it its partitions anew nor polls. -/
inductive Altered (name : String) (c : Consumer) : Use ℓ → Consumer → Prop where
  | same (u : Use ℓ) : Altered name c u c
  | rewound (r : ConsumedRecord) : Altered name c (.rewind name r) (c.rewind r)
  | paused (p : Int) : Altered name c (.pause name p) (c.pause p)

/-- A use that neither gives a consumer its partitions anew nor polls hands nothing out to it. -/
theorem altered_of_perform (hm : x.members name = some m) (hu : ¬ u.Reassigns name) (hpoll : u ≠ .poll name) :
    x.answer? name u = none ∧
      ∃ c, (x.perform u).members name = some { m with consumer := c } ∧ Altered name m.consumer u c := by
  have seated {n : String} (hn : n ≠ name) {listener : Listener ℓ} {a : Assigned ℓ} :
      (x.seat n listener a).members name = x.members name := if_neg (Ne.symm hn)
  have same (h : (x.perform u).members name = some m) :
      ∃ c, (x.perform u).members name = some { m with consumer := c } ∧ Altered name m.consumer u c :=
    ⟨m.consumer, h, .same u⟩
  cases u with
  | publish e => exact ⟨rfl, same ((congrFun (x.members_note e _) name).trans hm)⟩
  | publishTo e p => exact ⟨rfl, same ((congrFun (x.members_note e _) name).trans hm)⟩
  | truncate | setUnavailable | failQueries => exact ⟨rfl, same hm⟩
  | join n channel listener state => exact ⟨rfl, same ((seated hu).trans hm)⟩
  | rebalance n => exact ⟨rfl, same (members_withMember_of_ne hm fun _ => seated hu)⟩
  | commit n r => exact ⟨rfl, same (members_withMember_of_ne hm fun _ => rfl)⟩
  | poll n =>
    have hn : n ≠ name := fun h => hpoll (h ▸ rfl)
    exact ⟨if_neg hn, same (members_withMember_of_ne hm fun _ => seated hn)⟩
  | rewind n r =>
    refine ⟨rfl, ?_⟩
    by_cases hn : n = name
    · subst hn
      refine ⟨m.consumer.rewind r, ?_, .rewound r⟩
      exact (congrArg (members · n) (withMember_of_some hm _)).trans (if_pos rfl)
    · exact same (members_withMember_of_ne hm fun _ => seated hn)
  | pause n p =>
    refine ⟨rfl, ?_⟩
    by_cases hn : n = name
    · subst hn
      refine ⟨m.consumer.pause p, ?_, .paused p⟩
      exact (congrArg (members · n) (withMember_of_some hm _)).trans (if_pos rfl)
    · exact same (members_withMember_of_ne hm fun _ => seated hn)

/-- The consumer of that name has the partitions and the place that the member `m` has. -/
def Waits (x : Exchange ℓ) (name : String) (m : Member ℓ) : Prop :=
  ∃ c, x.members name = some { m with consumer := c } ∧
    c.channel = m.consumer.channel ∧ c.positions = m.consumer.positions ∧ c.pending = m.consumer.pending

/-- A use that does not reset a consumer leaves its partitions and its place, unless it polls. -/
theorem waits_perform (hm : x.members name = some m) (hu : ¬ u.Resets name) (hpoll : u ≠ .poll name) :
    x.answer? name u = none ∧ (x.perform u).Waits name m := by
  obtain ⟨hanswer, c, hc, haltered⟩ := altered_of_perform hm (mt Use.resets_of_reassigns hu) hpoll
  refine ⟨hanswer, c, hc, ?_⟩
  cases haltered with
  | same | paused => exact ⟨rfl, rfl, rfl⟩
  | rewound => exact absurd rfl hu

end Exchange

/-! ## How far a consumer has come -/

/-- The read position of a partition, once the consumer has its partitions. -/
def Consumer.place? (c : Consumer) (p : Int) : Option Int := if c.pending then none else c.positions.get? p

/-- The offset comes after the read position that a partition had, or after a record of it that was delivered. -/
def Due (from? : Int → Option Int) (ds : List ConsumedRecord) (p o : Int) : Prop :=
  (∃ start, from? p = some start ∧ start ≤ o) ∨ ∃ d ∈ ds, d.partition = p ∧ d.offset < o

/-- How far a consumer has come that had the read positions `from?` and was delivered the records `ds` since. The
offsets `gone` of each partition were removed by now. -/
structure Abreast (from? : Int → Option Int) (gone : Int → Int → Prop) (ds : List ConsumedRecord) (c : Consumer) :
    Prop where
  /-- A consumer still without its partitions had no read positions, and has got nothing. -/
  waiting : c.pending = true → (∀ p, from? p = none) ∧ ds = []
  increasing : ds.Pairwise fun a d => a.partition = d.partition → a.offset < d.offset
  behind : ∀ d ∈ ds, ∃ position, c.positions.get? d.partition = some position ∧ d.offset < position
  /-- What the read position has passed was delivered or removed. -/
  covered : ∀ p position, c.positions.get? p = some position → ∀ o, 0 ≤ o → o < position → Due from? ds p o →
    (∃ d ∈ ds, d.partition = p ∧ d.offset = o) ∨ gone p o

namespace Abreast

variable {from? : Int → Option Int} {gone gone' : Int → Int → Prop} {ds : List ConsumedRecord} {c c' : Consumer}

theorem start (gone : Int → Int → Prop) (c : Consumer) : Abreast c.place? gone [] c where
  waiting h := ⟨fun p => if_pos h, rfl⟩
  increasing := .nil
  behind d hd := nomatch hd
  covered p position hp o _ ho hpassed := by
    rcases hpassed with ⟨start, hstart, hle⟩ | ⟨d, hd, -⟩
    · unfold Consumer.place? at hstart
      split at hstart
      · exact nomatch hstart
      · obtain rfl := Option.some.inj (hp.symm.trans hstart)
        omega
    · exact nomatch hd

/-- Nothing was handed out, and more may be removed by now. -/
theorem quiet (h : Abreast from? gone ds c) (hpositions : c'.positions = c.positions)
    (hpending : c'.pending = c.pending) (hgone : ∀ p o, gone p o → gone' p o) : Abreast from? gone' ds c' where
  waiting hp := h.waiting (hpending ▸ hp)
  increasing := h.increasing
  behind d hd := by
    rw [hpositions]
    exact h.behind d hd
  covered p position hp o h0 ho hpassed := by
    rw [hpositions] at hp
    exact (h.covered p position hp o h0 ho hpassed).imp_right (hgone p o)

/-- A consumer that had yet to get its partitions may have them now. -/
theorem arrive (h : Abreast from? gone ds c) (hpending : c.pending = true) (c' : Consumer) :
    Abreast from? gone ds c' := by
  obtain ⟨hfrom, rfl⟩ := h.waiting hpending
  refine ⟨fun _ => ⟨hfrom, rfl⟩, .nil, fun d hd => absurd hd List.not_mem_nil, fun p _ _ o _ _ hpassed => ?_⟩
  rcases hpassed with ⟨start, hstart, -⟩ | ⟨d, hd, -⟩
  · exact nomatch (hfrom p).symm.trans hstart
  · exact nomatch hd

theorem offset_lt (h : Abreast from? gone ds c) {d : ConsumedRecord} (hd : d ∈ ds) {p position : Int}
    (hp : d.partition = p) (hposition : c.positions.get? p = some position) : d.offset < position := by
  obtain ⟨position', hposition', hlt⟩ := h.behind d hd
  rw [hp] at hposition'
  obtain rfl := Option.some.inj (hposition.symm.trans hposition')
  exact hlt

section Delivering

variable {b : Bus} {r : ConsumedRecord}

/-- What is passed over by a record that is handed out was delivered before, or is retained no longer. -/
theorem passed (h : Abreast from? gone ds c) (hd : Consumer.Delivery b c r c')
    (hgone : ∀ o, 0 ≤ o → o < b.low c.channel.name r.partition → gone r.partition o) (o : Int) (h0 : 0 ≤ o)
    (ho : o < r.offset) (hpassed : Due from? ds r.partition o) :
    (∃ d ∈ ds, d.partition = r.partition ∧ d.offset = o) ∨ gone r.partition o := by
  obtain ⟨position, stored, hposition, -, hstored, hbetween, -⟩ := hd.first
  by_cases hbefore : o < position
  · exact h.covered _ _ hposition o h0 hbefore hpassed
  · -- Nothing is retained from the read position up to the record, so all of it lies below the low end.
    have hhigh : r.offset < (b.log c.channel.name r.partition).high :=
      ((PartitionLog.isSome_get?_iff _ _).mp (by rw [hstored]; rfl)).2
    have hnone := hbetween o (by omega) ho
    rw [← Option.not_isSome_iff_eq_none, PartitionLog.isSome_get?_iff] at hnone
    refine .inr (hgone o h0 ?_)
    unfold Bus.low
    omega

/-- A record is handed out. -/
theorem deliver (h : Abreast from? gone ds c) (hd : Consumer.Delivery b c r c')
    (hgone : ∀ o, 0 ≤ o → o < b.low c.channel.name r.partition → gone r.partition o) :
    Abreast from? gone (ds ++ [r]) c' := by
  obtain ⟨position, stored, hposition, hle, -⟩ := hd.first
  constructor
  case waiting =>
    intro hpending
    rw [hd.rest.2.2.2, hd.given] at hpending
    exact nomatch hpending
  case increasing =>
    refine List.pairwise_append.mpr ⟨h.increasing, List.pairwise_singleton .., fun a ha d hr hp => ?_⟩
    obtain rfl := List.mem_singleton.mp hr
    exact Int.lt_of_lt_of_le (h.offset_lt ha hp hposition) hle
  case behind =>
    intro d hmem
    rw [hd.positions]
    split
    · rename_i hp
      refine ⟨_, rfl, ?_⟩
      rcases List.mem_append.mp hmem with hmem | hmem
      · have := h.offset_lt hmem hp hposition
        omega
      · obtain rfl := List.mem_singleton.mp hmem
        omega
    · rename_i hp
      rcases List.mem_append.mp hmem with hmem | hmem
      · exact h.behind d hmem
      · exact absurd (congrArg ConsumedRecord.partition (List.mem_singleton.mp hmem)) hp
  case covered =>
    intro p position' hp o h0 ho hpassed
    have hdealt : (∃ d ∈ ds, d.partition = p ∧ d.offset = o) ∨ gone p o → (∃ d ∈ ds ++ [r], _) ∨ gone p o :=
      Or.imp_left fun ⟨d, hmem, hd⟩ => ⟨d, List.mem_append_left _ hmem, hd⟩
    have hpassed' : Due from? ds p o ∨ r.partition = p ∧ r.offset < o := by
      rcases hpassed with hstart | ⟨d, hmem, hd⟩
      · exact .inl (.inl hstart)
      · rcases List.mem_append.mp hmem with hmem | hmem
        · exact .inl (.inr ⟨d, hmem, hd⟩)
        · exact .inr (List.mem_singleton.mp hmem ▸ hd)
    rw [hd.positions] at hp
    split at hp
    · rename_i hpr
      subst hpr
      obtain rfl := Option.some.inj hp
      rcases hpassed' with hold | ⟨-, hlt⟩
      · by_cases hr : o = r.offset
        · exact .inl ⟨r, List.mem_append_right _ List.mem_cons_self, rfl, hr.symm⟩
        · exact hdealt (h.passed hd hgone o h0 (by omega) hold)
      · omega
    · rename_i hpr
      rcases hpassed' with hold | ⟨hrp, -⟩
      · exact hdealt (h.covered p position' hp o h0 ho hold)
      · exact absurd hrp.symm hpr

end Delivering

end Abreast

/-! ## What runs deliver -/

/-- The member as its consumer reads in a poll. -/
def Member.arrived {ℓ : Type} (m : Member ℓ) (b : Bus) : Assigned ℓ := m.consumer.arrived m.listener b m.state

namespace Exchange

variable {ℓ : Type}

/-- What a poll of the member `m` does after the uses `uses`. -/
structure Serves (start : Exchange ℓ) (uses : List (Use ℓ)) (name : String) (m : Member ℓ) : Prop where
  answered : ∀ r, (start.run uses).answer? name (.poll name) = some r →
    ∃ c', (start.run (uses ++ [.poll name])).members name =
        some ⟨m.listener, c', (m.arrived (start.run uses).bus).state⟩ ∧
      Consumer.Delivery (start.run uses).bus (m.arrived (start.run uses).bus).consumer r c'
  /-- What lies between the read position and the record was removed in the course of the run. -/
  skipped : ∀ r, (start.run uses).answer? name (.poll name) = some r →
    ∀ position, (m.arrived (start.run uses).bus).consumer.positions.get? r.partition = some position →
    ∀ o, 0 ≤ o → position ≤ o → o < r.offset → start.Removed uses r.channel r.partition o
  unanswered : (start.run uses).answer? name (.poll name) = none →
    (m.arrived (start.run uses).bus).consumer.pending = true ∨
      Consumer.Exhausted (start.run uses).bus (m.arrived (start.run uses).bus).consumer
  alone : (start.run (uses ++ [.poll name])).bus = (start.run uses).bus ∧
    ∀ n, n ≠ name → (start.run (uses ++ [.poll name])).members n = (start.run uses).members n

/-- What the member `m` is delivered in the course of the uses `stretch`, after the uses `before`. -/
structure InTurn (start : Exchange ℓ) (before stretch : List (Use ℓ)) (name : String) (m : Member ℓ) : Prop where
  increasing : ((start.run before).deliveries name stretch).Pairwise
    fun a d => a.partition = d.partition → a.offset < d.offset
  /-- What a poll passes over was delivered before, or removed before. -/
  passed : ∀ us vs r, stretch = us ++ .poll name :: vs →
    (start.run (before ++ us)).answer? name (.poll name) = some r →
    ∀ o, 0 ≤ o → o < r.offset →
      Due m.consumer.place? ((start.run before).deliveries name us) r.partition o →
      (∃ d ∈ (start.run before).deliveries name us, d.partition = r.partition ∧ d.offset = o) ∨
        start.Removed (before ++ us) r.channel r.partition o

/-- What the member `m` keeps back in the course of the uses `stretch`. -/
structure KeepsBack (start : Exchange ℓ) (before stretch : List (Use ℓ)) (name : String) (m : Member ℓ) : Prop where
  /-- The partitions that are paused in the end were paused at first, or are paused by one of the uses. -/
  paused : ∃ m', (start.run (before ++ stretch)).members name = some m' ∧ ∀ p,
    m'.consumer.isPaused p = true ↔ m.consumer.isPaused p = true ∨ .pause name p ∈ stretch
  /-- From the use on that pauses a partition, nothing of it is delivered. -/
  withheld : ∀ us vs p, stretch = us ++ .pause name p :: vs →
    ∀ d ∈ (start.run (before ++ us)).deliveries name (.pause name p :: vs), d.partition ≠ p

section Run

variable {n : Int} {uses : List (Use ℓ)} {name : String} {m : Member ℓ}

theorem run_snoc (x : Exchange ℓ) (us : List (Use ℓ)) (u : Use ℓ) : x.run (us ++ [u]) = (x.run us).perform u :=
  x.run_append us [u]

theorem removed_of_lt {c : String} {p o : Int} (h0 : 0 ≤ o)
    (ho : o < ((opening n : Exchange ℓ).run uses).bus.low c p) : (opening n).Removed uses c p o :=
  removed_of_lt_low uses h0 ho

theorem delivery_of_answer {x : Exchange ℓ} {r : ConsumedRecord} (hm : x.members name = some m)
    (h : x.answer? name (.poll name) = some r) :
    ∃ c', (x.perform (.poll name)).members name = some ⟨m.listener, c', (m.arrived x.bus).state⟩ ∧
      Consumer.Delivery x.bus (m.arrived x.bus).consumer r c' := by
  rw [answer?_poll hm] at h
  obtain ⟨hd, hstate⟩ := Consumer.delivery_of_poll h
  refine ⟨_, ?_, hd⟩
  rw [perform_poll hm, members_seat, if_pos rfl, hstate]
  rfl

theorem members_of_no_answer {x : Exchange ℓ} (hm : x.members name = some m)
    (h : x.answer? name (.poll name) = none) :
    (x.perform (.poll name)).members name =
      some ⟨m.listener, (m.arrived x.bus).consumer, (m.arrived x.bus).state⟩ := by
  rw [answer?_poll hm] at h
  rw [perform_poll hm, members_seat, if_pos rfl, Consumer.poll_of_none h]
  rfl

theorem serves (hm : ((opening n).run uses).members name = some m) : Serves (opening n) uses name m where
  answered r h := by
    rw [run_snoc]
    exact delivery_of_answer hm h
  skipped r h position hposition o h0 hle ho := by
    obtain ⟨c', -, hd⟩ := delivery_of_answer hm h
    have hpassed := (Abreast.start (fun p o => (opening n).Removed uses r.channel p o) _).passed hd
      (fun o h0 hlow => removed_of_lt h0 (by rwa [hd.channel_eq])) o h0 ho
      (.inl ⟨position, (if_neg (by rw [hd.given]; exact Bool.false_ne_true)).trans hposition, hle⟩)
    exact hpassed.resolve_left fun ⟨_, hmem, _⟩ => absurd hmem List.not_mem_nil
  unanswered h := by
    rw [answer?_poll hm] at h
    exact Consumer.poll_eq_none_iff.mp h
  alone := by
    rw [run_snoc, perform_poll hm]
    exact ⟨rfl, fun _ hn => if_neg hn⟩

variable {from? : Int → Option Int} {ds : List ConsumedRecord}

/-- How far a member has come after the uses `uses`. -/
def Stands (n : Int) (uses : List (Use ℓ)) (from? : Int → Option Int) (ds : List ConsumedRecord)
    (m : Member ℓ) : Prop :=
  Abreast from? (fun p o => (opening n).Removed uses m.consumer.channel.name p o) ds m.consumer

theorem Stands.arrived (h : Stands n uses from? ds m) :
    Abreast from? (fun p o => (opening n).Removed uses m.consumer.channel.name p o) ds
      (m.arrived ((opening n).run uses).bus).consumer := by
  unfold Member.arrived
  cases hpending : m.consumer.pending with
  | true => exact Abreast.arrive h hpending _
  | false =>
    rw [Consumer.arrived_of_not_pending _ hpending]
    exact h

/-- **One use** after the other. -/
theorem Stands.perform (hm : ((opening n).run uses).members name = some m) (h : Stands n uses from? ds m)
    {u : Use ℓ} (hu : ¬ u.Resets name) :
    ∃ m', ((opening n).run (uses ++ [u])).members name = some m' ∧
      m'.consumer.channel = m.consumer.channel ∧
      Stands n (uses ++ [u]) from? (ds ++ (((opening n).run uses).answer? name u).toList) m' := by
  have hmore (p o : Int) (hgone : (opening n).Removed uses m.consumer.channel.name p o) :
      (opening n).Removed (uses ++ [u]) m.consumer.channel.name p o := hgone.append [u]
  have hchannel : (m.arrived ((opening n).run uses).bus).consumer.channel = m.consumer.channel :=
    Consumer.channel_arrived _ _ _ _
  by_cases hpoll : u = .poll name
  · subst hpoll
    cases hanswer : ((opening n).run uses).answer? name (.poll name) with
    | none =>
      have hm' := members_of_no_answer hm hanswer
      rw [← run_snoc] at hm'
      refine ⟨_, hm', hchannel, ?_⟩
      rw [Option.toList_none, List.append_nil]
      unfold Stands
      rw [hchannel]
      exact h.arrived.quiet rfl rfl hmore
    | some r =>
      obtain ⟨c', hm', hd⟩ := delivery_of_answer hm hanswer
      rw [← run_snoc] at hm'
      have hc' : c'.channel = m.consumer.channel := hd.rest.1.trans hchannel
      refine ⟨_, hm', hc', ?_⟩
      unfold Stands
      rw [hc']
      refine (h.arrived.deliver hd fun o h0 hlow => removed_of_lt h0 ?_).quiet rfl rfl hmore
      rwa [hchannel] at hlow
  · obtain ⟨hanswer, c, hm', hc, hpositions, hpending⟩ := waits_perform hm hu hpoll
    rw [← run_snoc] at hm'
    refine ⟨_, hm', hc, ?_⟩
    rw [hanswer, Option.toList_none, List.append_nil]
    unfold Stands
    rw [hc]
    exact Abreast.quiet h hpositions hpending hmore

/-- **Several uses.** -/
theorem Stands.run (hm : ((opening n).run uses).members name = some m) (h : Stands n uses from? ds m)
    {stretch : List (Use ℓ)} (hs : ∀ u ∈ stretch, ¬ u.Resets name) :
    ∃ m', ((opening n).run (uses ++ stretch)).members name = some m' ∧
      m'.consumer.channel = m.consumer.channel ∧
      Stands n (uses ++ stretch) from? (ds ++ ((opening n).run uses).deliveries name stretch) m' := by
  induction stretch generalizing uses ds m with
  | nil =>
    rw [List.append_nil, deliveries, List.append_nil]
    exact ⟨m, hm, rfl, h⟩
  | cons u us ih =>
    obtain ⟨m', hm', hc', h'⟩ := h.perform hm (hs u List.mem_cons_self)
    obtain ⟨m'', hm'', hc'', h''⟩ := ih hm' h' fun v hv => hs v (List.mem_cons_of_mem _ hv)
    rw [List.append_assoc, List.singleton_append] at hm'' h''
    refine ⟨m'', hm'', hc''.trans hc', ?_⟩
    rwa [List.append_assoc, run_snoc] at h''

theorem inTurn (hm : ((opening n).run uses).members name = some m) {stretch : List (Use ℓ)}
    (hs : ∀ u ∈ stretch, ¬ u.Resets name) : InTurn (opening n) uses stretch name m where
  increasing := by
    obtain ⟨_, -, -, h⟩ := Stands.run hm (.start _ _) hs
    exact h.increasing
  passed us vs r hsplit hanswer o h0 ho hpassed := by
    have hus : ∀ u ∈ us, ¬ u.Resets name := fun u hu => hs u (hsplit ▸ List.mem_append_left _ hu)
    obtain ⟨m', hm', -, h⟩ := Stands.run hm (.start _ _) hus
    obtain ⟨c', -, hd⟩ := delivery_of_answer hm' hanswer
    have hchannel : r.channel = m'.consumer.channel.name :=
      hd.channel_eq.trans (congrArg Channel.name (Consumer.channel_arrived _ _ _ _))
    rw [hchannel]
    refine h.arrived.passed hd (fun o h0 hlow => removed_of_lt h0 ?_) o h0 ho hpassed
    rwa [← hd.channel_eq, hchannel] at hlow

/-! ### Pausing -/

/-- A use that leaves a consumer its partitions changes what is paused only if it pauses a partition. -/
theorem paused_perform {x : Exchange ℓ} {u : Use ℓ} (hm : x.members name = some m)
    (hgiven : m.consumer.pending = false) (hu : ¬ u.Reassigns name) :
    ∃ m', (x.perform u).members name = some m' ∧ m'.consumer.pending = false ∧ ∀ p,
      m'.consumer.isPaused p = true ↔ m.consumer.isPaused p = true ∨ u = .pause name p := by
  by_cases hpause : ∃ q, u = .pause name q
  · obtain ⟨q, rfl⟩ := hpause
    refine ⟨⟨m.listener, m.consumer.pause q, m.state⟩, ?_, hgiven, fun p => ?_⟩
    · exact (congrArg (members · name) (withMember_of_some hm _)).trans (if_pos rfl)
    · rw [Consumer.isPaused_pause, Bool.or_eq_true, decide_eq_true_eq, or_comm, Use.pause.injEq]
      simp
  have hkept (p : Int) : m.consumer.isPaused p = true ↔ m.consumer.isPaused p = true ∨ u = .pause name p :=
    (or_iff_left fun h => hpause ⟨p, h⟩).symm
  by_cases hpoll : u = .poll name
  · subst hpoll
    have harrived : (m.arrived x.bus).consumer = m.consumer :=
      congrArg Assigned.consumer (Consumer.arrived_of_not_pending _ hgiven)
    cases hanswer : x.answer? name (.poll name) with
    | none =>
      refine ⟨_, members_of_no_answer hm hanswer, ?_⟩
      rw [harrived]
      exact ⟨hgiven, hkept⟩
    | some r =>
      obtain ⟨c', hm', hd⟩ := delivery_of_answer hm hanswer
      rw [harrived] at hd
      obtain ⟨-, -, hpaused, hpending⟩ := hd.rest
      refine ⟨_, hm', hpending.trans hgiven, fun p => ?_⟩
      rw [Consumer.isPaused, hpaused]
      exact hkept p
  · obtain ⟨-, c, hm', haltered⟩ := altered_of_perform hm hu hpoll
    refine ⟨_, hm', ?_⟩
    cases haltered with
    | same => exact ⟨hgiven, hkept⟩
    | rewound r => exact ⟨(Consumer.pending_rewind _ r).trans hgiven, fun p => by
        rw [Consumer.isPaused_rewind]
        exact hkept p⟩
    | paused q => exact absurd ⟨q, rfl⟩ hpause

/-- **A partition stays paused** until the consumer is given its partitions anew. -/
theorem paused_run {x : Exchange ℓ} {stretch : List (Use ℓ)} (hm : x.members name = some m)
    (hgiven : m.consumer.pending = false) (hs : ∀ u ∈ stretch, ¬ u.Reassigns name) :
    ∃ m', (x.run stretch).members name = some m' ∧ m'.consumer.pending = false ∧ ∀ p,
      m'.consumer.isPaused p = true ↔ m.consumer.isPaused p = true ∨ .pause name p ∈ stretch := by
  induction stretch generalizing x m with
  | nil => exact ⟨m, hm, hgiven, fun p => by simp⟩
  | cons u us ih =>
    obtain ⟨m', hm', hgiven', hpaused'⟩ := paused_perform hm hgiven (hs u List.mem_cons_self)
    obtain ⟨m'', hm'', hgiven'', hpaused''⟩ := ih hm' hgiven' fun v hv => hs v (List.mem_cons_of_mem _ hv)
    refine ⟨m'', hm'', hgiven'', fun p => ?_⟩
    rw [hpaused'', hpaused', or_assoc, List.mem_cons, eq_comm (a := u)]

/-- Nothing is delivered of a partition that is paused. -/
theorem partition_ne_of_paused {x : Exchange ℓ} {stretch : List (Use ℓ)} {p : Int} (hm : x.members name = some m)
    (hgiven : m.consumer.pending = false) (hp : m.consumer.isPaused p = true)
    (hs : ∀ u ∈ stretch, ¬ u.Reassigns name) : ∀ d ∈ x.deliveries name stretch, d.partition ≠ p := by
  induction stretch generalizing x m with
  | nil => exact fun _ hd => absurd hd List.not_mem_nil
  | cons u us ih =>
    have hu := hs u List.mem_cons_self
    intro d hd
    rcases List.mem_append.mp hd with hd | hd
    · rintro rfl
      have hanswer : x.answer? name u = some d := Option.mem_toList.mp hd
      obtain rfl : u = .poll name := Classical.byContradiction fun hpoll =>
        nomatch (altered_of_perform hm hu hpoll).1.symm.trans hanswer
      obtain ⟨c', -, hdelivery⟩ := delivery_of_answer hm hanswer
      have hfree := hdelivery.not_paused
      rw [Member.arrived, Consumer.arrived_of_not_pending _ hgiven, hp] at hfree
      exact nomatch hfree
    · obtain ⟨m', hm', hgiven', hpaused'⟩ := paused_perform hm hgiven hu
      exact ih hm' hgiven' ((hpaused' p).mpr (.inl hp)) (fun v hv => hs v (List.mem_cons_of_mem _ hv)) d hd

theorem keepsBack (hm : ((opening n).run uses).members name = some m) (hgiven : m.consumer.pending = false)
    {stretch : List (Use ℓ)} (hs : ∀ u ∈ stretch, ¬ u.Reassigns name) :
    KeepsBack (opening n) uses stretch name m where
  paused := by
    obtain ⟨m', hm', -, hpaused⟩ := paused_run hm hgiven hs
    rw [← run_append] at hm'
    exact ⟨m', hm', hpaused⟩
  withheld us vs p hsplit d hd := by
    subst hsplit
    obtain ⟨m', hm', hgiven', -⟩ := paused_run hm hgiven fun u hu => hs u (List.mem_append_left _ hu)
    rw [← run_append] at hm'
    have hrest (u : Use ℓ) (hu : u ∈ .pause name p :: vs) : ¬ u.Reassigns name :=
      hs u (List.mem_append_right _ hu)
    obtain ⟨m'', hm'', hgiven'', hpaused⟩ := paused_perform hm' hgiven' (hrest _ List.mem_cons_self)
    exact partition_ne_of_paused hm'' hgiven'' ((hpaused p).mpr (.inr rfl))
      (fun v hv => hrest v (List.mem_cons_of_mem _ hv)) d hd

/-- **Delivery has no gaps and no repeats.** Whatever is done with a bus, a poll of a consumer hands out the first
retained record after some read position, or there is none. As long as the consumer keeps its partitions and is not
sent back, the records of a partition come in order, and what they leave out was removed before. As long as it keeps
them, nothing of a partition is delivered once that is paused. -/
theorem delivers_run (n : Int) (uses : List (Use ℓ)) (name : String) (m : Member ℓ)
    (hm : ((opening n).run uses).members name = some m) :
    Serves (opening n) uses name m ∧
      (∀ stretch : List (Use ℓ), (∀ u ∈ stretch, ¬ u.Resets name) → InTurn (opening n) uses stretch name m) ∧
      (m.consumer.pending = false →
        ∀ stretch : List (Use ℓ), (∀ u ∈ stretch, ¬ u.Reassigns name) →
          KeepsBack (opening n) uses stretch name m) :=
  ⟨serves hm, fun _ hs => inTurn hm hs, fun hgiven _ hs => keepsBack hm hgiven hs⟩

end Run

/-- A consumer joins a channel of two partitions, which get four records. -/
def fourRecords : List (Use Unit) :=
  let record (p : Int) : Use Unit := .publishTo ⟨"k", [], "orders", 7⟩ p
  [.join "a" ⟨"orders", "g"⟩ (.silent Unit) (), record 0, record 0, record 0, record 1]

/-- It polls three times, and retention removes records in between. -/
def threePolls : List (Use Unit) := [.poll "a", .truncate "orders" 0 2, .poll "a", .poll "a"]

/-- One record is delivered before retention removes it, and the next one is never delivered. -/
theorem delivers_run_threePolls : ∃ m, ((opening 2).run fourRecords).members "a" = some m ∧
    (∀ u ∈ threePolls, ¬ u.Resets "a") ∧
    (((opening 2).run fourRecords).deliveries "a" threePolls).map ConsumedRecord.position =
      [⟨0, 0⟩, ⟨1, 0⟩, ⟨0, 2⟩] ∧
    (((opening 2).run fourRecords).deliveries "a" (.pause "a" 0 :: threePolls)).map ConsumedRecord.position =
      [⟨1, 0⟩] ∧
    Serves (opening 2) fourRecords "a" m ∧ InTurn (opening 2) fourRecords threePolls "a" m ∧
    KeepsBack (opening 2) fourRecords (.pause "a" 0 :: threePolls) "a" m := by
  have hkept : ∀ u ∈ threePolls, ¬ u.Resets "a" := by simp [threePolls, Use.Resets]
  have hgiven : ∀ u ∈ Use.pause "a" 0 :: threePolls, ¬ u.Reassigns "a" :=
    List.forall_mem_cons.mpr ⟨id, fun u hu h => hkept u hu (Use.resets_of_reassigns h)⟩
  obtain ⟨hserves, hturn, hback⟩ := delivers_run 2 fourRecords "a" _ rfl
  exact ⟨_, rfl, hkept, by decide, by decide, hserves, hturn _ hkept, hback rfl _ hgiven⟩

end Exchange

end OrderRelay
