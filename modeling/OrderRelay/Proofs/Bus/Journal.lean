import OrderRelay.Proofs.Bus.Outside

/-!
# The history and the logs

The history of a run tells of every record that was appended in it, with its place, and every record on a log
was there in the beginning or is told of.

* `Event.offsetOn?`, `offsetsOn`: the offsets of what was appended to a partition, in order;
* **`Recorded`**, the correspondence of the history with the logs: the offsets told of are those between the
  high end in the beginning and the high end now, one by one; what is told of is where it is said to be;
* `Recorded.publishTo`, `Recorded.truncate`, `Recorded.quiet`: what can happen to a bus keeps it.
-/

namespace OrderRelay

/-- What a log holds of an envelope. -/
protected def Envelope.record (e : Envelope) : StoredRecord := ⟨e.key, e.payload, e.timestamp⟩

/-- The offset of what the event appended to a partition. -/
def Event.offsetOn? (c : String) (p : Int) : Event → Option Int
  | stored _ e position =>
    if e.destination = c ∧ position.partition = p then some position.offset else none
  | _ => none

/-- Nothing was appended by the event. -/
def Event.Quiet : Event → Prop
  | stored .. => False
  | _ => True

theorem Event.Quiet.offsetOn?_eq {c : String} {p : Int} {e : Event} (h : e.Quiet) :
    e.offsetOn? c p = none := by
  cases e with
  | stored source e position => exact h.elim
  | _ => rfl

/-- The offsets of what was appended to a partition. -/
def offsetsOn (c : String) (p : Int) (h : List Event) : List Int := h.filterMap (Event.offsetOn? c p)

theorem offsetsOn_append (c : String) (p : Int) (h es : List Event) :
    offsetsOn c p (h ++ es) = offsetsOn c p h ++ offsetsOn c p es := List.filterMap_append

theorem offsetsOn_stored (c : String) (p : Int) (source : Option (Tier × ConsumedRecord)) (e : Envelope)
    (position : Position) : offsetsOn c p [.stored source e position] =
      if e.destination = c ∧ position.partition = p then [position.offset] else [] := by
  by_cases h : e.destination = c ∧ position.partition = p
  · simp only [offsetsOn, List.filterMap_cons, List.filterMap_nil, Event.offsetOn?, if_pos h]
  · simp only [offsetsOn, List.filterMap_cons, List.filterMap_nil, Event.offsetOn?, if_neg h]

/-- The record was appended at a place of a channel. -/
def Appended (h : List Event) (c : String) (position : Position) (r : StoredRecord) : Prop :=
  ∃ source e, .stored source e position ∈ h ∧ e.destination = c ∧ e.record = r

/-- The history `h` tells what was appended to the logs, from the bus `start` to the bus `b`. -/
structure Recorded (start b : Bus) (h : List Event) : Prop where
  high_eq : ∀ c p, b.high c p = start.high c p + (offsetsOn c p h).length
  offsets_eq : ∀ c p, offsetsOn c p h =
    (List.range (offsetsOn c p h).length).map fun i : Nat => start.high c p + i
  /-- What is told of is where it is said to be, unless it was removed. -/
  kept : ∀ c position r, Appended h c position r →
    (b.log c position.partition).get? position.offset = some r ∨
      position.offset < b.low c position.partition
  /-- What is there was there in the beginning, or is told of. -/
  told : ∀ c p o r, (b.log c p).get? o = some r →
    (start.log c p).get? o = some r ∨ Appended h c ⟨p, o⟩ r

variable {start b b' : Bus} {h es : List Event} {c : String}

theorem Appended.append {position : Position} {r : StoredRecord} (ha : Appended h c position r)
    (es : List Event) : Appended (h ++ es) c position r := by
  obtain ⟨source, e, he, hc, hr⟩ := ha
  exact ⟨source, e, List.mem_append_left es he, hc, hr⟩

theorem recorded_start (b : Bus) : Recorded b b [] where
  high_eq c p := by simp [offsetsOn]
  offsets_eq c p := by simp [offsetsOn]
  kept c position r ha := by
    obtain ⟨source, e, he, -⟩ := ha
    exact nomatch he
  told c p o r hr := .inl hr

namespace Recorded

theorem offset_lt_high (hr : Recorded start b h) {position : Position} {r : StoredRecord}
    (ha : Appended h c position r) : position.offset < b.high c position.partition := by
  rcases hr.kept c position r ha with hs | hl
  · exact ((PartitionLog.isSome_get?_iff _ _).mp (by rw [hs]; rfl)).2
  · exact Int.lt_of_lt_of_le hl (b.low_le_high c position.partition)

/-- Events that append nothing leave the correspondence as it is. -/
theorem quiet (hr : Recorded start b h) (es : List Event) (hes : ∀ e ∈ es, e.Quiet)
    (hlog : ∀ c p, b'.log c p = b.log c p) : Recorded start b' (h ++ es) := by
  have hoff (c : String) (p : Int) : offsetsOn c p (h ++ es) = offsetsOn c p h := by
    have hnil : offsetsOn c p es = [] :=
      List.filterMap_eq_nil_iff.mpr fun e he => (hes e he).offsetOn?_eq
    rw [offsetsOn_append, hnil, List.append_nil]
  have happ {c position r} (ha : Appended (h ++ es) c position r) : Appended h c position r := by
    obtain ⟨source, e, he, hc, hr⟩ := ha
    rcases List.mem_append.mp he with he | he
    · exact ⟨source, e, he, hc, hr⟩
    · exact (hes _ he).elim
  exact {
    high_eq := fun c p => by
      rw [hoff, Bus.high, hlog]
      exact hr.high_eq c p
    offsets_eq := fun c p => by
      rw [hoff]
      exact hr.offsets_eq c p
    kept := fun c position r ha => by
      rw [Bus.low, hlog]
      exact hr.kept c position r (happ ha)
    told := fun c p o r ho => by
      rw [hlog] at ho
      exact (hr.told c p o r ho).imp_right fun ha => ha.append es }

theorem publishTo (hr : Recorded start b h) {e : Envelope} {p : Int} {position : Position}
    (hp : b.publishTo e p = .ok (position, b')) (source : Option (Tier × ConsumedRecord)) :
    Recorded start b' (h ++ [.stored source e position]) := by
  obtain ⟨-, -, hpos, -⟩ := Bus.publishTo_eq_ok_iff.mp hp
  have hoff (c : String) (q : Int) : offsetsOn c q (h ++ [.stored source e position]) =
      if c = e.destination ∧ q = p then offsetsOn c q h ++ [b.high c q] else offsetsOn c q h := by
    rw [offsetsOn_append, offsetsOn_stored, hpos]
    by_cases hc : c = e.destination ∧ q = p
    · obtain ⟨rfl, rfl⟩ := hc
      rw [if_pos ⟨rfl, rfl⟩, if_pos ⟨rfl, rfl⟩]
    · rw [if_neg fun h => hc ⟨h.1.symm, h.2.symm⟩, if_neg hc, List.append_nil]
  constructor
  case high_eq =>
    intro c q
    rw [Bus.high_publishTo hp, hoff, hr.high_eq]
    split
    · simp
      omega
    · rfl
  case offsets_eq =>
    intro c q
    rw [hoff]
    split
    · rw [List.length_append, List.length_singleton, List.range_succ, List.map_append,
        ← hr.offsets_eq c q, hr.high_eq]
      rfl
    · exact hr.offsets_eq c q
  case kept =>
    rintro c ⟨q, o⟩ r ⟨source', e', he, hc, hr'⟩
    rw [Bus.low_publishTo hp, Bus.log_publishTo hp]
    rcases List.mem_append.mp he with he | he
    · have ha : Appended h c ⟨q, o⟩ r := ⟨source', e', he, hc, hr'⟩
      have hlt : o < b.high c q := hr.offset_lt_high ha
      refine (hr.kept c ⟨q, o⟩ r ha).imp_left fun hs => ?_
      split
      · rw [PartitionLog.get?_append, if_neg (show o ≠ (b.log c q).high from Int.ne_of_lt hlt)]
        exact hs
      · exact hs
    · obtain ⟨rfl, rfl, rfl⟩ := Event.stored.inj (List.mem_singleton.mp he)
      obtain ⟨rfl, rfl⟩ := Position.mk.inj hpos
      subst hc hr'
      left
      rw [if_pos ⟨rfl, rfl⟩, PartitionLog.get?_append]
      exact if_pos rfl
  case told =>
    intro c q o r ho
    rw [Bus.log_publishTo hp] at ho
    split at ho
    · rename_i hc
      obtain ⟨rfl, rfl⟩ := hc
      rw [PartitionLog.get?_append] at ho
      split at ho
      · rename_i heq
        subst heq
        exact .inr ⟨source, e, by simp [hpos, Bus.high], rfl, Option.some.inj ho⟩
      · exact (hr.told _ q o r ho).imp_right fun ha => ha.append _
    · exact (hr.told c q o r ho).imp_right fun ha => ha.append _

theorem truncate (hr : Recorded start b h) (channel : String) (p offset : Int) :
    Recorded start (b.truncate channel p offset) h where
  high_eq c q := by
    rw [Bus.high_truncate]
    exact hr.high_eq c q
  offsets_eq := hr.offsets_eq
  kept c position r ha := by
    rw [Bus.low, Bus.log_truncate]
    split
    · rw [PartitionLog.get?_truncate]
      split
      · rename_i hl
        exact .inr hl
      · refine (hr.kept c position r ha).imp_right fun hl => ?_
        exact Int.lt_of_lt_of_le hl (PartitionLog.low_le_low_truncate _ _)
    · exact hr.kept c position r ha
  told c q o r ho := by
    rw [Bus.log_truncate] at ho
    split at ho
    · rw [PartitionLog.get?_truncate] at ho
      split at ho
      · cases ho
      · exact hr.told c q o r ho
    · exact hr.told c q o r ho

end Recorded

end OrderRelay
