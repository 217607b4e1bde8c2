import OrderRelay.Proofs.Feed.Copies
import OrderRelay.Proofs.Processing.Plan
import OrderRelay.Proofs.Recovery.Joining
import OrderRelay.Proofs.Worker.Moved

/-!
# How far a worker by itself has come

The edge of a worker on a partition is the first offset it is not done with: that of the record it has read and
not settled, else its read position. No move lets an edge fall, and what a move passes was settled or is not
retained any more.

* `Sight.edge?`, and **`exists_edge`**, what lies between two edges;
* `events`, what is told in a history, and `told_of_moved`: a move stores at most one copy;
* `Tidy`, what is known of a worker at any time, with `Tidy.moved` and `Tidy.around`.
-/

namespace OrderRelay

/-! ## Edges -/

namespace Worker.Point

/-- The record that was read last, unless it is done with. -/
def unsettled? : Point → Option ConsumedRecord
  | inPhase phase => phase.unsettled?
  | judging r => some r
  | _ => none

/-- The record that was handed over, until it is committed or to be read again. -/
def handed? : Point → Option ConsumedRecord
  | inPhase phase => phase.record?
  | _ => none

end Worker.Point

namespace Sight

variable {g g' : Sight} {p : Int}

/-- The first offset of a partition that the worker is not done with. -/
def edge? (g : Sight) (p : Int) : Option Int :=
  match g.point.unsettled? with
  | some r => if r.partition = p then some r.offset else g.consumer.positions.get? p
  | none => g.consumer.positions.get? p

theorem edge?_of_none (h : g.point.unsettled? = none) : g.edge? p = g.consumer.positions.get? p := by
  rw [edge?, h]

theorem edge?_of_some {r : ConsumedRecord} (h : g.point.unsettled? = some r) :
    g.edge? p = if r.partition = p then some r.offset else g.consumer.positions.get? p := by
  rw [edge?, h]

end Sight

/-- An offset that a move may pass: it is not retained any more, or its record has just been settled. -/
def Passed (tier : Tier) (channel : String) (g : Sight) (es : List Happening) (p o : Int) : Prop :=
  o < g.bus.low channel p ∨ ∃ r resolution, g.point.handed? = some r ∧ r.partition = p ∧ r.offset = o ∧
    .told (.resolved tier r resolution) ∈ es ∧ resolution.isSettled = true

section Edges

variable {η ε : Type} {k : Handling η ε} {topology : Topology} {tier : Tier} {g g' : Sight}
  {es : List Happening} {p edge' : Int}

/-- What is to be shown of an edge after a move. -/
def Follows (tier : Tier) (channel : String) (g : Sight) (es : List Happening) (p edge' : Int) : Prop :=
  ∃ edge, g.edge? p = some edge ∧ edge ≤ edge' ∧
    ∀ o, edge ≤ o → o < edge' → Passed tier channel g es p o

theorem follows_of_eq {channel : String} (h : g.edge? p = some edge') : Follows tier channel g es p edge' := by
  refine ⟨edge', h, Int.le_refl _, fun o h h' => ?_⟩
  omega

/-- A record that is read again is the next one. -/
theorem get?_rewind_of_in_hand {c : Consumer} {r : ConsumedRecord}
    (h : c.positions.get? r.partition = some (r.offset + 1)) (p : Int) :
    (c.rewind r).positions.get? p = if r.partition = p then some r.offset else c.positions.get? p := by
  rw [Consumer.get?_rewind]
  split
  · rename_i hp
    rw [← hp, h]
    rfl
  · rfl

theorem follows_rewound {channel : String} {r : ConsumedRecord} (hr : g.point.unsettled? = some r)
    (hin : g.consumer.positions.get? r.partition = some (r.offset + 1))
    (he : (g.consumer.rewind r).positions.get? p = some edge') : Follows tier channel g es p edge' := by
  rw [get?_rewind_of_in_hand hin] at he
  apply follows_of_eq
  rw [Sight.edge?_of_some hr]
  exact he

theorem follows_settled {channel : String} {r : ConsumedRecord} {resolution : Resolution}
    (hr : g.point.unsettled? = some r) (hhanded : g.point.handed? = some r)
    (hin : g.consumer.positions.get? r.partition = some (r.offset + 1))
    (hes : .told (.resolved tier r resolution) ∈ es) (hsettled : resolution.isSettled = true)
    (he : g.consumer.positions.get? p = some edge') : Follows tier channel g es p edge' := by
  by_cases hp : r.partition = p
  · rw [← hp, hin, Option.some.injEq] at he
    refine ⟨r.offset, ?_, by omega, fun o h h' => .inr ⟨r, resolution, hhanded, hp, by omega, hes, hsettled⟩⟩
    rw [Sight.edge?_of_some hr, if_pos hp]
  · apply follows_of_eq
    rw [Sight.edge?_of_some hr, if_neg hp]
    exact he

theorem follows_read {r : ConsumedRecord} {c : Consumer} (hr : g.point.unsettled? = none)
    (hchannel : g.consumer.channel = topology.channel tier) (hread : Consumer.Read g.bus g.consumer r c)
    (he : (if r.partition = p then some r.offset else c.positions.get? p) = some edge') :
    Follows tier (topology.channelName tier) g es p edge' := by
  obtain ⟨position, stored, hposition, hoffset, -⟩ := hread.exists_position
  rw [hchannel] at hoffset
  by_cases hp : r.partition = p
  · rw [if_pos hp, Option.some.injEq] at he
    rw [hp] at hposition hoffset
    have hlow : r.offset = max position (g.bus.low (topology.channelName tier) p) := hoffset
    refine ⟨position, (Sight.edge?_of_none hr).trans hposition, by omega, fun o h h' => .inl ?_⟩
    -- Between the read position and the record there is nothing that is retained.
    omega
  · rw [if_neg hp, hread.get?_positions, if_neg hp] at he
    apply follows_of_eq
    rw [Sight.edge?_of_none hr]
    exact he

/-- **What lies between two edges.** No move lets an edge fall, and what it passes was settled, or is not
retained any more. -/
theorem exists_edge (hm : Moved k topology tier g g' es) (hgiven : g.consumer.pending = false)
    (hchannel : g.consumer.channel = topology.channel tier)
    (hin : ∀ r, g.point.record? = some r → g.consumer.positions.get? r.partition = some (r.offset + 1))
    (he : g'.edge? p = some edge') : Follows tier (topology.channelName tier) g es p edge' := by
  cases hm with
  | asked ready =>
    apply follows_of_eq
    rw [Sight.edge?_of_none (by rw [ready]; rfl)]
    exact he
  | ended ready _ _ halted =>
    apply follows_of_eq
    rw [Sight.edge?_of_none (by rw [ready]; rfl), ← halted.positions_eq]
    exact he
  | entered ready _ _ halted =>
    apply follows_of_eq
    rw [Sight.edge?_of_none (by rw [ready]; rfl), ← halted.positions_eq]
    exact he
  | passed ready =>
    apply follows_of_eq
    rw [Sight.edge?_of_none (by rw [ready]; rfl)]
    exact he
  | read polling given read =>
    rw [Sight.arrived_of_not_pending hgiven] at read he
    exact follows_read (by rw [polling]; rfl) hchannel read he
  | empty polling =>
    rw [Sight.arrived_of_not_pending hgiven] at he
    apply follows_of_eq
    rw [Sight.edge?_of_none (by rw [polling]; rfl)]
    exact he
  | taken judging =>
    apply follows_of_eq
    rw [Sight.edge?_of_some (by rw [judging]; rfl)]
    exact he
  | @held r _ _ _ c judging _ _ _ halted =>
    have he : c.positions.get? p = some edge' := he
    rw [halted.positions_eq] at he
    exact follows_rewound (r := r) (by rw [judging]; rfl) (hin r (by rw [judging]; rfl)) he
  | @strange r _ judging =>
    exact follows_rewound (r := r) (by rw [judging]; rfl) (hin r (by rw [judging]; rfl)) he
  | looked looking =>
    apply follows_of_eq
    rw [Sight.edge?_of_none (by rw [looking]; rfl)]
    exact he
  | glanced looking =>
    apply follows_of_eq
    rw [Sight.edge?_of_none (by rw [looking]; rfl)]
    exact he
  | turned looking =>
    apply follows_of_eq
    rw [Sight.edge?_of_none (by rw [looking]; rfl)]
    exact he
  | evaluated holding =>
    apply follows_of_eq
    rw [Sight.edge?_of_some (by rw [holding]; rfl)]
    exact he
  | @finished r _ _ _ resolution handled plan =>
    have hsettled : resolution.isSettled = true := by
      rcases Processor.plan_eq_finish plan with rfl | ⟨kind, cause, rfl⟩ <;> rfl
    refine follows_settled (r := r) (by rw [handled]; rfl) (by rw [handled]; rfl)
      (hin r (by rw [handled]; rfl)) List.mem_cons_self hsettled ?_
    rw [← he, Sight.edge?_of_none (by simp [Worker.Point.unsettled?, Worker.Phase.unsettled?, hsettled])]
  | @stored r _ _ _ _ _ _ _ _ _ handled plan publish =>
    refine follows_settled (r := r) (by rw [handled]; rfl) (by rw [handled]; rfl)
      (hin r (by rw [handled]; rfl)) (List.mem_cons_of_mem _ List.mem_cons_self) rfl ?_
    rw [← he]
    rfl
  | refused handled =>
    apply follows_of_eq
    rw [Sight.edge?_of_some (by rw [handled]; rfl)]
    exact he
  | committed resolved settled =>
    apply follows_of_eq
    have hpoint : g.point.unsettled? = none := by
      simp [resolved, Worker.Point.unsettled?, Worker.Phase.unsettled?, settled]
    exact (Sight.edge?_of_none hpoint).trans he
  | @rewound r _ _ resolved unsettled =>
    refine follows_rewound (r := r) ?_ (hin r (by rw [resolved]; rfl)) he
    rw [resolved]
    simp [Worker.Point.unsettled?, Worker.Phase.unsettled?, unsettled]
  | stopped => exact follows_of_eq he

end Edges

/-! ## What is told -/

/-- The event that is told. -/
def Happening.event? : Happening → Option Event
  | told e => some e
  | _ => none

/-- The events told in a history. -/
def events (h : List Happening) : List Event := h.filterMap Happening.event?

theorem events_append (h es : List Happening) : events (h ++ es) = events h ++ events es :=
  List.filterMap_append

theorem events_told (es : List Event) : events (es.map .told) = es := by
  induction es with
  | nil => rfl
  | cons e es ih => simpa [events, Happening.event?] using ih

section Told

variable {η ε : Type} {k : Handling η ε} {topology : Topology} {tier : Tier} {g g' : Sight}
  {es : List Happening}

/-- The record `r` moves on in a move. -/
structure MovesOn (k : Handling η ε) (topology : Topology) (tier : Tier) (g g' : Sight) (es : List Happening)
    (c : Copy) : Prop where
  exists_handled : ∃ event outcome, g.point = .inPhase (.handled c.source event outcome)
  exists_next : ∃ next, tier.next = some next ∧ c.envelope.destination = topology.channelName next
  key_eq : c.envelope.key = k.republishKey.resolve (c.source.key.getD "")
  publish : g.bus.publish c.envelope = .ok (c.position, g'.bus)
  consumer_eq : g'.consumer = g.consumer
  settled : g'.point.unsettled? = none
  copies_eq : copies tier (events es) = [c]
  escalations_eq : escalations tier (events es) = [(c.source, c.position)]

section MovesOn

variable {c : Copy} (hc : MovesOn k topology tier g g' es c)
include hc

/-- Before a record moves on, it is at the edge of its partition. -/
theorem MovesOn.edge?_before : g.edge? c.source.partition = some c.source.offset := by
  obtain ⟨event, outcome, hpoint⟩ := hc.exists_handled
  rw [Sight.edge?_of_some (r := c.source) (by rw [hpoint]; rfl), if_pos rfl]

/-- Afterwards the edge is behind it. -/
theorem MovesOn.edge?_after
    (hin : ∀ r, g.point.record? = some r → g.consumer.positions.get? r.partition = some (r.offset + 1)) :
    g'.edge? c.source.partition = some (c.source.offset + 1) := by
  obtain ⟨event, outcome, hpoint⟩ := hc.exists_handled
  rw [Sight.edge?_of_none hc.settled, hc.consumer_eq]
  exact hin c.source (by rw [hpoint]; rfl)

/-- The copy is stored at the high end. -/
theorem MovesOn.exists_high : ∃ next, tier.next = some next ∧
    c.position.offset = g.bus.high (topology.channelName next) c.position.partition ∧
    g'.bus.high (topology.channelName next) c.position.partition = c.position.offset + 1 := by
  obtain ⟨next, hnext, hdestination⟩ := hc.exists_next
  obtain ⟨-, -, hposition, -⟩ := Bus.publishTo_eq_ok_iff.mp hc.publish
  have hoffset : c.position.offset = g.bus.high (topology.channelName next) c.position.partition := by
    rw [hposition, hdestination]
  have hpartition : c.position.partition = g.bus.partitionOf c.envelope.key := by rw [hposition]
  refine ⟨next, hnext, hoffset, ?_⟩
  rw [Bus.high_publishTo hc.publish, if_pos ⟨hdestination.symm, hpartition⟩, ← hoffset]

end MovesOn

/-- **A move stores at most one copy**, of the record in hand, and says that the record has moved on to it. -/
theorem told_of_moved (hm : Moved k topology tier g g' es) :
    (copies tier (events es) = [] ∧ escalations tier (events es) = []) ∨
      ∃ c, MovesOn k topology tier g g' es c := by
  cases hm with
  | @stored r event outcome _ next key payload now position bus handled plan publish =>
    obtain ⟨hnext, -⟩ := Processor.plan_eq_escalate plan
    refine .inr ⟨⟨r, ⟨key, payload, topology.channelName next, now⟩, position⟩, ⟨event, outcome, handled⟩,
      ⟨next, hnext, rfl⟩, Processor.key_of_plan plan, publish, rfl, rfl, ?_, ?_⟩
    · exact (copies_moved tier tier r next _ position).trans (if_pos rfl)
    · exact (escalations_moved tier tier r next _ position).trans (if_pos rfl)
  | finished handled plan =>
    left
    rcases Processor.plan_eq_finish plan with rfl | ⟨kind, cause, rfl⟩ <;> exact ⟨rfl, rfl⟩
  | _ => exact .inl ⟨rfl, rfl⟩

theorem mem_copies_of_moved (hm : Moved k topology tier g g' es) {h : List Happening} {c : Copy}
    (hc : c ∈ copies tier (events (h ++ es))) :
    c ∈ copies tier (events h) ∨ MovesOn k topology tier g g' es c := by
  rw [events_append, copies_append, List.mem_append] at hc
  rcases told_of_moved hm with ⟨hcopies, -⟩ | ⟨c', hmoves⟩
  · rw [hcopies] at hc
    exact .inl (hc.resolve_right List.not_mem_nil)
  · rw [hmoves.copies_eq, List.mem_singleton] at hc
    rcases hc with hc | rfl
    · exact .inl hc
    · exact .inr hmoves

/-- A record is handed over right after it was read. -/
theorem handed_of_moved (hm : Moved k topology tier g g' es) {r : ConsumedRecord} (hr : .handed r ∈ es) :
    es = [.handed r] ∧ g.point = .judging r ∧ g' = { g with point := .inPhase (.holding r) } := by
  cases hm with
  | taken judging =>
    obtain rfl := Happening.handed.inj (List.mem_singleton.mp hr)
    exact ⟨rfl, judging, rfl⟩
  | _ => simp at hr

/-- The record handed over was so before the move, and nothing else is handed over, or it was in the move. -/
theorem handed?_of_moved (hm : Moved k topology tier g g' es) {r : ConsumedRecord}
    (hr : g'.point.handed? = some r) :
    g.point.handed? = some r ∧ (∀ s, .handed s ∉ es) ∨ es = [.handed r] := by
  cases hm with
  | taken judging =>
    obtain rfl : _ = r := Option.some.inj hr
    exact .inr rfl
  | evaluated holding =>
    rw [holding]
    exact .inl ⟨hr, fun s hs => by simp at hs⟩
  | finished handled =>
    rw [handled]
    exact .inl ⟨hr, fun s hs => by simp at hs⟩
  | stored handled =>
    rw [handled]
    exact .inl ⟨hr, fun s hs => by simp at hs⟩
  | refused handled =>
    rw [handled]
    exact .inl ⟨hr, fun s hs => by simp at hs⟩
  | stopped left =>
    rw [left] at hr
    cases hr
  | _ => cases hr

/-- The record in hand was so before the move, or it was read in the move. -/
theorem record?_of_moved (hm : Moved k topology tier g g' es) {r : ConsumedRecord}
    (hr : g'.point.record? = some r) :
    g.point.record? = some r ∧ g'.consumer = g.consumer ∨
      g'.consumer.pending = false ∧ g'.consumer.positions.get? r.partition = some (r.offset + 1) := by
  cases hm with
  | read polling given read =>
    obtain rfl : _ = r := Option.some.inj hr
    exact .inr ⟨read.pending_eq.trans given, (read.get?_positions _).trans (if_pos rfl)⟩
  | taken judging =>
    rw [judging]
    exact .inl ⟨hr, rfl⟩
  | evaluated holding =>
    rw [holding]
    exact .inl ⟨hr, rfl⟩
  | finished handled =>
    rw [handled]
    exact .inl ⟨hr, rfl⟩
  | stored handled =>
    rw [handled]
    exact .inl ⟨hr, rfl⟩
  | refused handled =>
    rw [handled]
    exact .inl ⟨hr, rfl⟩
  | stopped => exact .inl ⟨hr, rfl⟩
  | _ => cases hr

theorem channel_of_moved (hm : Moved k topology tier g g' es) :
    g'.consumer.channel = g.consumer.channel := by
  have harrived : g.arrived.consumer.channel = g.consumer.channel := by
    unfold Sight.arrived
    split
    · exact Consumer.channel_assign _ _ _ _
    · rfl
  cases hm with
  | ended _ _ _ halted => exact halted.channel_eq
  | entered _ _ _ halted => exact halted.channel_eq
  | read _ _ read => exact read.channel_eq.trans harrived
  | empty => exact harrived
  | held _ _ _ _ halted => exact halted.channel_eq.trans (Consumer.channel_rewind _ _)
  | strange => exact Consumer.channel_rewind _ _
  | rewound => exact Consumer.channel_rewind _ _
  | _ => rfl

/-- A move appends at most one record. -/
theorem bus_of_moved (hm : Moved k topology tier g g' es) :
    g'.bus.partitions = g.bus.partitions ∧ (∀ c p, g'.bus.low c p = g.bus.low c p) ∧
      ∀ c p, g.bus.high c p ≤ g'.bus.high c p := by
  have hsame (b : Bus) (hb : b = g.bus) : b.partitions = g.bus.partitions ∧
      (∀ c p, b.low c p = g.bus.low c p) ∧ ∀ c p, g.bus.high c p ≤ b.high c p := by
    subst hb
    exact ⟨rfl, fun _ _ => rfl, fun _ _ => Int.le_refl _⟩
  cases hm with
  | read => exact hsame _ g.arrived_bus
  | empty => exact hsame _ g.arrived_bus
  | stored handled plan publish =>
    refine ⟨?_, Bus.low_publishTo publish, fun c p => ?_⟩
    · obtain ⟨-, -, -, rfl⟩ := Bus.publishTo_eq_ok_iff.mp publish
      rfl
    · rw [Bus.high_publishTo publish]
      split <;> omega
  | committed => exact ⟨rfl, fun _ _ => rfl, fun _ _ => Int.le_refl _⟩
  | _ => exact hsame _ rfl

end Told

/-! ## At any time -/

/-- A consumer that gets its partitions starts none of them below what is retained. -/
theorem low_le_of_assigned {b : Bus} {c : Consumer} {sweep : Option Sweep}
    (hp : (c.assign Scene.listener b sweep).consumer.pending = false) {p position : Int}
    (h : (c.assign Scene.listener b sweep).consumer.positions.get? p = some position) :
    b.low c.channel.name p ≤ position := by
  cases sweep with
  | none =>
    have hstarts : (c.assign Scene.listener b none).consumer.positions = Consumer.starts b c.channel := rfl
    rw [hstarts, Consumer.get?_starts] at h
    split at h
    · obtain rfl := Option.some.inj h
      exact Int.le_max_right _ _
    · cases h
  | some prior =>
    obtain ⟨sweep, positions, -, hconsumer, hin, hout⟩ := exists_assigned hp
    rw [hconsumer] at h
    have h : positions.get? p = some position := h
    by_cases hpl : p ∈ b.partitionList
    · obtain rfl := Option.some.inj ((hin p hpl).2.symm.trans h)
      exact Int.le_refl _
    · cases (hout p hpl).2.symm.trans h

/-- What is known at any time of a worker that began on the bus `b`, whose history is `h`. -/
structure Tidy (key : RepublishKey) (topology : Topology) (tier : Tier) (b : Bus) (g : Sight)
    (h : List Happening) : Prop where
  channel_eq : g.consumer.channel = topology.channel tier
  given_of_record : ∀ r, g.point.record? = some r → g.consumer.pending = false
  in_hand : ∀ r, g.point.record? = some r → g.consumer.positions.get? r.partition = some (r.offset + 1)
  /-- The record that was handed over is the last one that was. -/
  handed_last : ∀ r, g.point.handed? = some r →
    ∃ xs ys, h = xs ++ .handed r :: ys ∧ ∀ s, .handed s ∉ ys
  partitions_eq : g.bus.partitions = b.partitions
  low_le : ∀ p, b.low (topology.channelName tier) p ≤ g.bus.low (topology.channelName tier) p
  low_le_edge : g.consumer.pending = false → ∀ p edge, g.edge? p = some edge →
    b.low (topology.channelName tier) p ≤ edge
  removed : ∀ p o, o < g.bus.low (topology.channelName tier) p → o < b.low (topology.channelName tier) p ∨
    ∃ e ∈ events h, e.Removes (topology.channelName tier) p o
  copied : (copies tier (events h)).map (fun c => (c.source, c.position)) = escalations tier (events h)
  handed_of_copy : ∀ c ∈ copies tier (events h), .handed c.source ∈ h
  forwarded : ∀ c ∈ copies tier (events h),
    ∃ next, tier.next = some next ∧ c.envelope.destination = topology.channelName next
  /-- A copy is where its key belongs, and it has the key that the policy gives it. -/
  placed : ∀ c ∈ copies tier (events h),
    c.position.partition = b.partitionOf (key.resolve (c.source.key.getD ""))

section Tidy

variable {η ε : Type} {k : Handling η ε} {topology : Topology} {tier : Tier} {b : Bus} {g g' : Sight}
  {h es : List Happening}

/-- A consumer that gets its partitions in a move starts where records are retained. -/
theorem Tidy.low_le_edge_of_given (ht : Tidy k.republishKey topology tier b g h)
    (hm : Moved k topology tier g g' es) (hpending : g.consumer.pending = true)
    (hgiven : g'.consumer.pending = false) {p edge : Int} (he : g'.edge? p = some edge) :
    b.low (topology.channelName tier) p ≤ edge := by
  have hc : g.consumer.channel.name = topology.channelName tier := congrArg Channel.name ht.channel_eq
  let a := g.consumer.assign Scene.listener g.bus g.sweep
  have harrived : g.arrived = { g with consumer := a.consumer, sweep := a.state } := by
    rw [Sight.arrived, hpending]
    rfl
  have hassigned (hp : a.consumer.pending = false) {position : Int}
      (h : a.consumer.positions.get? p = some position) : b.low (topology.channelName tier) p ≤ position := by
    refine Int.le_trans (ht.low_le p) ?_
    rw [← hc]
    exact low_le_of_assigned hp h
  have hstill (hp : g'.consumer.pending = g.consumer.pending) : False := by
    cases (hp.trans hpending).symm.trans hgiven
  cases hm with
  | @read r c polling given read =>
    rw [harrived] at given read
    have he : (if r.partition = p then some r.offset else c.positions.get? p) = some edge := he
    by_cases hp : r.partition = p
    · obtain ⟨position, -, hposition, hoffset, -⟩ := read.exists_position
      rw [if_pos hp, Option.some.injEq] at he
      rw [hp] at hposition
      have hle := hassigned given hposition
      omega
    · rw [if_neg hp, read.get?_positions, if_neg hp] at he
      exact hassigned given he
  | empty polling =>
    rw [harrived] at hgiven he
    exact hassigned hgiven he
  | ended _ _ _ halted => exact (hstill halted.pending_eq).elim
  | entered _ _ _ halted => exact (hstill halted.pending_eq).elim
  | held _ _ _ _ halted => exact (hstill (halted.pending_eq.trans (Consumer.pending_rewind _ _))).elim
  | strange => exact (hstill (Consumer.pending_rewind _ _)).elim
  | rewound => exact (hstill (Consumer.pending_rewind _ _)).elim
  | _ => exact (hstill rfl).elim

/-- Every move keeps a worker tidy. -/
theorem Tidy.moved (ht : Tidy k.republishKey topology tier b g h) (hm : Moved k topology tier g g' es) :
    Tidy k.republishKey topology tier b g' (h ++ es) := by
  obtain ⟨hpartitions, hlow, -⟩ := bus_of_moved hm
  refine ⟨?_, fun r hr => ?_, fun r hr => ?_, fun r hr => ?_, ?_, fun p => ?_, fun hgiven p edge he => ?_,
    fun p o ho => ?_, ?_, fun c hc => ?_, fun c hc => ?_, fun c hc => ?_⟩
  · rw [channel_of_moved hm]
    exact ht.channel_eq
  · rcases record?_of_moved hm hr with ⟨hr, hc⟩ | ⟨hgiven, -⟩
    · rw [hc]
      exact ht.given_of_record r hr
    · exact hgiven
  · rcases record?_of_moved hm hr with ⟨hr, hc⟩ | ⟨-, hposition⟩
    · rw [hc]
      exact ht.in_hand r hr
    · exact hposition
  · rcases handed?_of_moved hm hr with ⟨hr, hes⟩ | rfl
    · obtain ⟨xs, ys, rfl, hys⟩ := ht.handed_last r hr
      refine ⟨xs, ys ++ es, by simp, fun s hs => ?_⟩
      exact (List.mem_append.mp hs).elim (hys s) (hes s)
    · exact ⟨h, [], rfl, fun s hs => nomatch hs⟩
  · exact hpartitions.trans ht.partitions_eq
  · rw [hlow]
    exact ht.low_le p
  · cases hpending : g.consumer.pending with
    | true => exact ht.low_le_edge_of_given hm hpending hgiven he
    | false =>
      obtain ⟨edge₀, he₀, hle, -⟩ := exists_edge hm hpending ht.channel_eq ht.in_hand he
      exact Int.le_trans (ht.low_le_edge hpending p edge₀ he₀) hle
  · rw [hlow] at ho
    refine (ht.removed p o ho).imp_right fun ⟨e, he, hr⟩ => ⟨e, ?_, hr⟩
    rw [events_append]
    exact List.mem_append_left _ he
  · rw [events_append, copies_append, escalations_append, List.map_append, ht.copied]
    rcases told_of_moved hm with ⟨hcopies, hescalations⟩ | ⟨c, hc⟩
    · rw [hcopies, hescalations]
      rfl
    · rw [hc.copies_eq, hc.escalations_eq]
      rfl
  · rcases mem_copies_of_moved hm hc with hc | hmoves
    · exact List.mem_append_left _ (ht.handed_of_copy c hc)
    · obtain ⟨event, outcome, hpoint⟩ := hmoves.exists_handled
      obtain ⟨xs, ys, rfl, -⟩ := ht.handed_last c.source (by rw [hpoint]; rfl)
      simp
  · rcases mem_copies_of_moved hm hc with hc | hmoves
    · exact ht.forwarded c hc
    · exact hmoves.exists_next
  · rcases mem_copies_of_moved hm hc with hc | hmoves
    · exact ht.placed c hc
    · obtain ⟨-, -, hposition, -⟩ := Bus.publishTo_eq_ok_iff.mp hmoves.publish
      rw [hposition, ← hmoves.key_eq]
      show g.bus.partitionOf _ = b.partitionOf _
      rw [Bus.partitionOf, Bus.partitionOf, ht.partitions_eq]

/-- So does everything that only others do. -/
theorem Tidy.around (ht : Tidy k.republishKey topology tier b g h) (o : Outside η) :
    Tidy k.republishKey topology tier b { g with bus := o.alter g.bus }
      (h ++ (o.events g.bus).map .told) := by
  obtain ⟨hcopies, hescalations, -⟩ := tells_outside o g.bus tier
  have hevents : events (h ++ (o.events g.bus).map .told) = events h ++ o.events g.bus := by
    rw [events_append, events_told]
  have hsame : copies tier (events (h ++ (o.events g.bus).map .told)) = copies tier (events h) := by
    rw [hevents, copies_append, hcopies, List.append_nil]
  refine ⟨ht.channel_eq, ht.given_of_record, ht.in_hand, fun r hr => ?_, ?_, fun p => ?_, ht.low_le_edge,
    fun p i hi => ?_, ?_, fun c hc => ?_, fun c hc => ?_, fun c hc => ?_⟩
  · obtain ⟨xs, ys, rfl, hys⟩ := ht.handed_last r hr
    refine ⟨xs, ys ++ (o.events g.bus).map .told, by simp, fun s hs => ?_⟩
    rcases List.mem_append.mp hs with hs | hs
    · exact hys s hs
    · exact handed_notMem_told _ s hs
  · exact (o.partitions_alter g.bus).trans ht.partitions_eq
  · exact Int.le_trans (ht.low_le p) (o.low_le_low_alter g.bus _ p)
  · rw [hevents]
    rcases Outside.lt_low_alter hi with hi | ⟨e, he, hr⟩
    · refine (ht.removed p i hi).imp_right fun ⟨e, he, hr⟩ => ⟨e, List.mem_append_left _ he, hr⟩
    · exact .inr ⟨e, List.mem_append_right _ he, hr⟩
  · rw [hsame, hevents, escalations_append, hescalations, List.append_nil]
    exact ht.copied
  · rw [hsame] at hc
    exact List.mem_append_left _ (ht.handed_of_copy c hc)
  · rw [hsame] at hc
    exact ht.forwarded c hc
  · rw [hsame] at hc
    exact ht.placed c hc

theorem Tidy.asked (ht : Tidy k.republishKey topology tier b g h) (stopAsked : Bool) :
    Tidy k.republishKey topology tier b { g with stopAsked } h :=
  ⟨ht.channel_eq, ht.given_of_record, ht.in_hand, ht.handed_last, ht.partitions_eq, ht.low_le, ht.low_le_edge,
    ht.removed, ht.copied, ht.handed_of_copy, ht.forwarded, ht.placed⟩

theorem tidy_opening (k : Handling η ε) (topology : Topology) (tier : Tier) (mode : Mode) (tick : Text.Duration)
    (b : Bus) (name : String) (prior : Sweep) (memory : η) (now : Int) :
    Tidy k.republishKey topology tier b
      (k.soloOpening topology tier mode tick b name prior memory now).sight [] where
  channel_eq := Consumer.channel_assign _ _ _ _
  given_of_record := nofun
  in_hand := nofun
  handed_last := nofun
  partitions_eq := rfl
  low_le _ := Int.le_refl _
  low_le_edge hgiven _ _ he := low_le_of_assigned hgiven he
  removed _ _ ho := .inl ho
  copied := rfl
  handed_of_copy c hc := absurd (show c ∈ ([] : List Copy) from hc) List.not_mem_nil
  forwarded c hc := absurd (show c ∈ ([] : List Copy) from hc) List.not_mem_nil
  placed c hc := absurd (show c ∈ ([] : List Copy) from hc) List.not_mem_nil

end Tidy

namespace Handling

variable {η ε : Type} {k : Handling η ε} {topology : Topology} {tier : Tier} {mode : Mode}
  {tick : Text.Duration} {b : Bus} {f : Solo η}

theorem tidy_soloPerform (hm : Suits mode f.scene.sweep)
    (ht : Tidy k.republishKey topology tier b f.sight f.history) {a : SoloAct η} (ha : a ≠ .rebalance) :
    Tidy k.republishKey topology tier b (k.soloPerform topology tier mode tick f a).sight
      (k.soloPerform topology tier mode tick f a).history := by
  cases a with
  | move =>
    obtain ⟨es, hmoved, hes⟩ := exists_moved k topology tier tick hm
    have hmoves := ht.moved hmoved
    rw [← hes] at hmoves
    exact hmoves
  | outside o => exact ht.around o
  | askStop => exact ht.asked true
  | rebalance => exact absurd rfl ha

theorem tidy_soloAfter (k : Handling η ε) (topology : Topology) (tier : Tier) (mode : Mode)
    (tick : Text.Duration) (b : Bus) (name : String) (prior : Sweep) (memory : η) (now : Int) {acts : List (SoloAct η)}
    (hacts : ∀ a ∈ acts, a ≠ .rebalance) :
    Tidy k.republishKey topology tier b (k.soloAfter topology tier mode tick b name prior memory now acts).sight
      (k.soloAfter topology tier mode tick b name prior memory now acts).history :=
  soloRun_induction (P := fun f => Tidy k.republishKey topology tier b f.sight f.history) acts
    (fun _ a ha hm ht => tidy_soloPerform hm ht (hacts a ha))
    (suits_soloOpening k tick b name prior memory now)
    (tidy_opening k topology tier mode tick b name prior memory now)

end Handling

end OrderRelay
