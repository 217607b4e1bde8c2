import OrderRelay.Proofs.Feed.Copies
import OrderRelay.Proofs.Processing.Plan

/-!
# Escalation

As long as no worker crashes, each record that moves on has exactly one copy on the next tier, at the place
its resolution reports, and no other record has one. This holds for any codecs, handlers, classifiers and
keys, and any order of the steps of all workers, with publishes, retention and outages in between.

* `Sourced`, the place a record was read from;
* **`Escalated`**, what is to hold: the copies a tier has stored are those of the records it moved on, no
  record is settled twice, and every copy holds the event of its source;
* `Escalating`, the invariant: what a worker has settled on a partition lies below its edge;
* `escalating_perform`, every act but a crash keeps it;
* **`escalated_run`**: it holds at any time of a run without crashes.
-/

namespace OrderRelay.Crew

variable {η ε : Type} {crew : Crew η ε} {start : Bus} {f f' : Floor η} {t : Tier}

/-- The record has the key and the payload of what is, or was, at its place on the channel of the tier: since
the beginning, or because it was appended there. -/
def Sourced (crew : Crew η ε) (start : Bus) (h : List Event) (t : Tier) (r : ConsumedRecord) : Prop :=
  r.channel = crew.topology.channelName t ∧ ∃ stored : StoredRecord, r.key = some stored.key ∧
    r.payload = stored.payload ∧
      ((start.log r.channel r.partition).get? r.offset = some stored ∨
        Appended h r.channel r.position stored)

/-- The copy holds the event of its source, without blanks, and is on the next tier. -/
def Faithful (crew : Crew η ε) (t : Tier) (c : Copy) : Prop :=
  ∃ next e, t.next = some next ∧ c.envelope.destination = crew.topology.channelName next ∧
    (crew.handling t).codec.decode c.source.payload = .ok e ∧
    (crew.handling t).codec.encode e.trimmed = .ok c.envelope.payload

/-- What is to hold of the history of a run that began with the bus `start` and has come to the bus `b`. -/
structure Escalated (crew : Crew η ε) (start b : Bus) (h : List Event) : Prop where
  /-- The copies are those of the records that moved on, one by one, each at the place that was reported. -/
  correspondence : ∀ t, (copies t h).map (fun c => (c.source, c.position)) = escalations t h
  /-- No two records that moved on are the same. -/
  once : ∀ t, ((copies t h).map (·.source.position)).Nodup
  faithful : ∀ t, ∀ c ∈ copies t h, Faithful crew t c
  /-- A record was read from its channel before it was resolved. -/
  sourced : ∀ t r resolution, .resolved t r resolution ∈ h → Sourced crew start h t r
  /-- All that was appended is told of, and is where it is said to be. -/
  recorded : Recorded start b h
  /-- No copy goes to the tier of its source or to one before it. -/
  forward : ∀ t u, u.rank ≤ t.rank → ∀ c ∈ copies t h, c.envelope.destination ≠ crew.topology.channelName u
  /-- Nothing moves on from the last tier. -/
  last : copies .error h = []
  /-- A record has at most one descendant on each tier. -/
  unique : ∀ x y z, Descends h x y → Descends h x z → z.1 = y.1 → z = y
  /-- Descendants are on later tiers. -/
  later : ∀ x y, Descends h x y → x.1.rank < y.1.rank
  /-- A record that was handled or given up has no descendants. -/
  childless : ∀ t, ∀ r ∈ finishes t h, ∀ y, ¬ Descends h (t, r.position) y

/-! ## The invariant -/

/-- What holds at any time of a run without crashes. -/
structure Escalating (crew : Crew η ε) (start : Bus) (f : Floor η) : Prop where
  fit : crew.Fit f
  recorded : Recorded start f.bus f.history
  /-- A worker that has yet to come has settled nothing. -/
  absent : ∀ t, f.seats t = none → settlements t f.history = []
  /-- What a worker has settled on a partition lies below its edge. -/
  settled : ∀ t s p edge, f.seats t = some s → s.edge? p = some edge →
    ∀ r ∈ settlements t f.history, r.partition = p → r.offset < edge
  /-- The event in hand is the one in the record. -/
  decoded : ∀ t c r event outcome state, f.seats t = some ⟨c, .handled r event outcome, state⟩ →
    event = ((crew.handling t).codec.decode r.payload).toOption
  held : ∀ t s r, f.seats t = some s → s.task.phase.record? = some r →
    Sourced crew start f.history t r
  correspondence : ∀ t, (copies t f.history).map (fun c => (c.source, c.position)) =
    escalations t f.history
  once : ∀ t, ((settlements t f.history).map (·.position)).Nodup
  faithful : ∀ t, ∀ c ∈ copies t f.history, Faithful crew t c
  sourced : ∀ t r resolution, .resolved t r resolution ∈ f.history → Sourced crew start f.history t r

theorem Sourced.append {h : List Event} {r : ConsumedRecord} (hs : Sourced crew start h t r)
    (es : List Event) : Sourced crew start (h ++ es) t r := by
  obtain ⟨hc, stored, hk, hp, hpl⟩ := hs
  exact ⟨hc, stored, hk, hp, hpl.imp_right fun ha => ha.append es⟩

theorem escalating_opening (b : Bus) (memory : η) (now : Int) :
    Escalating crew b (.opening b memory now) where
  fit := fit_opening b memory now
  recorded := recorded_start b
  absent _ _ := rfl
  settled _ _ _ _ hs := nomatch hs
  decoded _ _ _ _ _ _ hs := nomatch hs
  held _ _ _ hs := nomatch hs
  correspondence _ := rfl
  once _ := List.nodup_nil
  faithful _ _ hc := nomatch hc
  sourced _ _ _ hr := nomatch hr

namespace Escalating

variable (hk : Escalating crew start f)
include hk

/-- A record that was just read is what was appended at its place. -/
theorem sourced_of_read {c c' : Consumer} {state : Worker.State} {r : ConsumedRecord}
    (seat : f.seats t = some ⟨c, .ready, state⟩) (read : Consumer.Read f.bus c r c') :
    Sourced crew start f.history t r := by
  have hc : r.channel = crew.topology.channelName t :=
    read.channel.trans (congrArg Channel.name (hk.fit t _ seat).channel_eq)
  obtain ⟨-, stored, -, -, hs, hkey, hpayload⟩ := read.exists_position
  rw [← read.channel] at hs
  exact ⟨hc, stored, hkey, hpayload, hk.recorded.told _ _ _ _ hs⟩

/-- The record that is resolved now has not been settled before. -/
theorem position_notMem {c : Consumer} {state : Worker.State} {r : ConsumedRecord}
    {event : Option OrderReceived} {outcome : Outcome}
    (seat : f.seats t = some ⟨c, .handled r event outcome, state⟩) :
    r.position ∉ (settlements t f.history).map (·.position) := by
  intro hm
  obtain ⟨r', hr', hpos⟩ := List.mem_map.mp hm
  obtain ⟨hp, ho⟩ := Position.mk.inj hpos
  have hedge : Seat.edge? ⟨c, .handled r event outcome, state⟩ r.partition = some r.offset := if_pos rfl
  have := hk.settled t _ _ _ seat hedge r' hr' hp
  omega

end Escalating

/-! ## What a step tells -/

/-- What a step of a worker adds to the history: at most one resolution, of the record in hand, and a copy of
it if it moves on. -/
structure Tells (crew : Crew η ε) (f : Floor η) (t : Tier) (f' : Floor η) (es : List Event) : Prop where
  history : f'.history = f.history ++ es
  correspondence : ∀ u, (copies u es).map (fun c => (c.source, c.position)) = escalations u es
  faithful : ∀ u, ∀ c ∈ copies u es, Faithful crew u c
  resolved : ∀ u r resolution, .resolved u r resolution ∈ es →
    u = t ∧ ∃ s, f.seats t = some s ∧ s.task.phase.record? = some r
  settled : (∀ u, settlements u es = []) ∨
    ∃ c r event outcome state reference resolution,
      f.seats t = some ⟨c, .handled r event outcome, state⟩ ∧
      f'.seats t = some ⟨c, .resolved r reference resolution, state⟩ ∧ resolution.isSettled = true ∧
      ∀ u, settlements u es = if t = u then [r] else []

theorem tells_nil (h : f'.history = f.history) : Tells crew f t f' [] where
  history := h.trans (List.append_nil _).symm
  correspondence _ := rfl
  faithful _ _ hc := nomatch hc
  resolved _ _ _ hr := nomatch hr
  settled := .inl fun _ => rfl

section Resolving

variable {c : Consumer} {r : ConsumedRecord} {event : Option OrderReceived} {outcome : Outcome}
  {state : Worker.State} {reference : String} {resolution : Resolution}
  (seat : f.seats t = some ⟨c, .handled r event outcome, state⟩)
include seat

theorem tells_finished (hres : resolution = .completed ∨ ∃ kind cause, resolution = .dropped kind cause)
    (hseat : f'.seats t = some ⟨c, .resolved r reference resolution, state⟩)
    (hhistory : f'.history = f.history ++ [.resolved t r resolution]) :
    Tells crew f t f' [.resolved t r resolution] where
  history := hhistory
  correspondence u := by rcases hres with rfl | ⟨kind, cause, rfl⟩ <;> rfl
  faithful _ _ hc := nomatch hc
  resolved u r' res hr := by
    obtain ⟨rfl, rfl, rfl⟩ := Event.resolved.inj (List.mem_singleton.mp hr)
    exact ⟨rfl, _, seat, rfl⟩
  settled := by
    have hsettled : resolution.isSettled = true := by
      rcases hres with rfl | ⟨kind, cause, rfl⟩ <;> rfl
    refine .inr ⟨c, r, event, outcome, state, reference, resolution, seat, hseat, hsettled, fun u => ?_⟩
    rw [settlements_resolved]
    simp only [hsettled, and_true]

theorem tells_refused {cause : String}
    (hhistory : f'.history = f.history ++ [.resolved t r (.redeliver cause)]) :
    Tells crew f t f' [.resolved t r (.redeliver cause)] where
  history := hhistory
  correspondence _ := rfl
  faithful _ _ hc := nomatch hc
  resolved u r' res hr := by
    obtain ⟨rfl, rfl, rfl⟩ := Event.resolved.inj (List.mem_singleton.mp hr)
    exact ⟨rfl, _, seat, rfl⟩
  settled := .inl fun u => by
    rw [settlements_resolved]
    exact if_neg fun h => nomatch h.2

theorem tells_moved {next : Tier} {key : String} {payload : List UInt8} {position : Position}
    (hfaithful : Faithful crew t ⟨r, ⟨key, payload, crew.topology.channelName next, f.now⟩, position⟩)
    (hseat : f'.seats t = some ⟨c, .resolved r reference (.republished next position), state⟩)
    (hhistory : f'.history = f.history ++
      [.stored (some (t, r)) ⟨key, payload, crew.topology.channelName next, f.now⟩ position,
        .resolved t r (.republished next position)]) :
    Tells crew f t f'
      [.stored (some (t, r)) ⟨key, payload, crew.topology.channelName next, f.now⟩ position,
        .resolved t r (.republished next position)] where
  history := hhistory
  correspondence u := by
    rw [copies_moved, escalations_moved]
    split <;> rfl
  faithful u c' hc' := by
    rw [copies_moved] at hc'
    split at hc'
    · rename_i hu
      obtain rfl := List.mem_singleton.mp hc'
      exact hu ▸ hfaithful
    · exact nomatch hc'
  resolved u r' res hr := by
    simp only [List.mem_cons, reduceCtorEq, List.not_mem_nil, or_false, false_or] at hr
    obtain ⟨rfl, rfl, rfl⟩ := Event.resolved.inj hr
    exact ⟨rfl, _, seat, rfl⟩
  settled := .inr ⟨c, r, event, outcome, state, reference, _, seat, hseat, rfl,
    fun u => settlements_moved u t r next _ position⟩

end Resolving

/-- What moves on carries the event that was decoded. -/
theorem faithful_of_plan {r : ConsumedRecord} {event : Option OrderReceived} {outcome : Outcome}
    {next : Tier} {key : String} {payload : List UInt8} {position : Position} {now : Int}
    (hd : event = ((crew.handling t).codec.decode r.payload).toOption)
    (plan : (crew.processor t).plan r (event, outcome) = .escalate next key payload) :
    Faithful crew t ⟨r, ⟨key, payload, crew.topology.channelName next, now⟩, position⟩ := by
  obtain ⟨hnext, e, rfl, henc⟩ := Processor.plan_eq_escalate plan
  refine ⟨next, e, hnext, rfl, ?_, henc⟩
  cases hdecode : (crew.handling t).codec.decode r.payload with
  | error err =>
    rw [hdecode] at hd
    exact nomatch hd
  | ok e' =>
    rw [hdecode] at hd
    exact congrArg Except.ok (Option.some.inj hd).symm

theorem Worked.exists_tells (hw : Worked crew f t f')
    (hd : ∀ c r event outcome state, f.seats t = some ⟨c, .handled r event outcome, state⟩ →
      event = ((crew.handling t).codec.decode r.payload).toOption) :
    ∃ es, Tells crew f t f' es := by
  cases hw with
  | idle => exact ⟨[], tells_nil rfl⟩
  | took => exact ⟨[], tells_nil rfl⟩
  | evaluated => exact ⟨[], tells_nil rfl⟩
  | finished seat plan =>
    exact ⟨_, tells_finished seat (Processor.plan_eq_finish plan) (sit_seat f t _) rfl⟩
  | moved seat plan publish =>
    exact ⟨_, tells_moved seat (faithful_of_plan (hd _ _ _ _ _ seat) plan) (sit_seat f t _) rfl⟩
  | refused seat plan => exact ⟨_, tells_refused seat rfl⟩
  | committed =>
    exact ⟨_, rfl, fun u => rfl, fun u c hc => (nomatch hc),
      fun u r res hr => (nomatch List.mem_singleton.mp hr), .inl fun u => rfl⟩
  | rewound =>
    exact ⟨_, rfl, fun u => rfl, fun u c hc => (nomatch hc),
      fun u r res hr => (nomatch List.mem_singleton.mp hr), .inl fun u => rfl⟩

namespace Escalating

variable (hk : Escalating crew start f)
include hk

/-- Nothing is settled twice. -/
theorem once_of_tells {es : List Event} (ht : Tells crew f t f' es) (u : Tier) :
    ((settlements u f'.history).map (·.position)).Nodup := by
  rw [ht.history, settlements_append, List.map_append]
  rcases ht.settled with hn | ⟨c, r, event, outcome, state, reference, resolution, hs, -, -, hn⟩
  · rw [hn, List.map_nil, List.append_nil]
    exact hk.once u
  · rw [hn]
    split
    · rename_i hu
      subst hu
      exact List.nodup_append.mpr ⟨hk.once t, List.nodup_singleton _, fun a ha b hb => by
        obtain rfl := List.mem_singleton.mp hb
        rintro rfl
        exact hk.position_notMem hs ha⟩
    · rw [List.map_nil, List.append_nil]
      exact hk.once u

end Escalating

/-! ## Steps of a worker -/

theorem Worked.empty_of_empty (hw : Worked crew f t f') {u : Tier} (hu : f'.seats u = none) :
    f.seats u = none := by
  by_cases hut : u = t
  · subst hut
    cases hw with
    | idle => exact hu
    | _ => exact nomatch (sit_seat f u _).symm.trans hu
  · exact hw.seats_of_ne hut ▸ hu

section Step

variable (hk : Escalating crew start f) (hw : Worked crew f t f')
include hk hw

theorem Escalating.decoded_of_worked {u : Tier} {c : Consumer} {r : ConsumedRecord}
    {event : Option OrderReceived} {outcome : Outcome} {state : Worker.State}
    (hs : f'.seats u = some ⟨c, .handled r event outcome, state⟩) :
    event = ((crew.handling u).codec.decode r.payload).toOption := by
  by_cases hu : u = t
  · subst hu
    cases hw with
    | idle => exact hk.decoded u c r event outcome state hs
    | evaluated seat event_eq =>
      have hs := eq_of_sit hs
      simp only [Seat.mk.injEq, Worker.Task.mk.injEq, Worker.Phase.handled.injEq] at hs
      obtain ⟨-, ⟨rfl, rfl, -⟩, -⟩ := hs
      exact event_eq
    | _ => exact nomatch (sit_seat f u _).symm.trans hs
  · exact hk.decoded u c r event outcome state (hw.seats_of_ne hu ▸ hs)

/-- A step keeps the record in hand, lets go of it, or takes one up that was just read. -/
theorem Escalating.held_of_worked {u : Tier} {s : Seat} {r : ConsumedRecord} (hs : f'.seats u = some s)
    (hr : s.task.phase.record? = some r) : Sourced crew start f.history u r := by
  by_cases hu : u = t
  · subst hu
    cases hw with
    | idle => exact hk.held u s r hs hr
    | took seat read =>
      obtain rfl := eq_of_sit hs
      obtain rfl := Option.some.inj hr
      exact hk.sourced_of_read seat read
    | evaluated seat =>
      obtain rfl := eq_of_sit hs
      exact hk.held u _ r seat hr
    | finished seat =>
      obtain rfl := eq_of_sit hs
      exact hk.held u _ r seat hr
    | moved seat =>
      obtain rfl := eq_of_sit hs
      exact hk.held u _ r seat hr
    | refused seat =>
      obtain rfl := eq_of_sit hs
      exact hk.held u _ r seat hr
    | committed =>
      obtain rfl := eq_of_sit hs
      exact nomatch hr
    | rewound =>
      obtain rfl := eq_of_sit hs
      exact nomatch hr
  · exact hk.held u s r (hw.seats_of_ne hu ▸ hs) hr

/-- The edge moves past a record as it is settled. -/
theorem Escalating.settled_of_worked {es : List Event} (ht : Tells crew f t f' es) {u : Tier} {s' : Seat}
    {p edge' : Int} (hs' : f'.seats u = some s') (he' : s'.edge? p = some edge') {r : ConsumedRecord}
    (hm : r ∈ settlements u f'.history) (hp : r.partition = p) : r.offset < edge' := by
  rw [ht.history, settlements_append] at hm
  rcases List.mem_append.mp hm with hr | hr
  · obtain ⟨s, hs, edge, he, hle, -⟩ := hw.exists_edge hk.fit hs' he'
    exact Int.lt_of_lt_of_le (hk.settled u s p edge hs he r hr hp) hle
  · rcases ht.settled with hn | ⟨c, r', event, outcome, state, reference, resolution, hs, hs₁, hres, hn⟩
    · rw [hn] at hr
      exact nomatch hr
    · rw [hn] at hr
      split at hr
      · rename_i hu
        subst hu
        obtain rfl := List.mem_singleton.mp hr
        obtain rfl := Option.some.inj (hs₁.symm.trans hs')
        have hpassed := (hk.fit t _ hs).passed r rfl
        simp only [Seat.edge?, Worker.Phase.unsettled?, hres, if_true, ← hp] at he'
        rw [show _ = _ from hpassed, Option.some.injEq] at he'
        omega
      · exact nomatch hr

theorem Escalating.worked : Escalating crew start f' := by
  obtain ⟨es, ht⟩ := hw.exists_tells (hk.decoded t)
  exact {
    fit := hw.fit hk.fit
    recorded := hw.recorded hk.recorded
    absent := fun u hu => by
      rw [ht.history, settlements_append, hk.absent u (hw.empty_of_empty hu), List.nil_append]
      rcases ht.settled with hn | ⟨_, _, _, _, _, _, _, -, hs, -, hn⟩
      · exact hn u
      · rw [hn u, if_neg]
        rintro rfl
        exact nomatch hu.symm.trans hs
    settled := fun u s p edge hs he r hr hp => hk.settled_of_worked hw ht hs he hr hp
    decoded := fun u c r event outcome state hs => hk.decoded_of_worked hw hs
    held := fun u s r hs hr => ht.history ▸ (hk.held_of_worked hw hs hr).append es
    correspondence := fun u => by
      rw [ht.history, copies_append, escalations_append, List.map_append, hk.correspondence,
        ht.correspondence]
    once := hk.once_of_tells ht
    faithful := fun u c hc => by
      rw [ht.history, copies_append] at hc
      rcases List.mem_append.mp hc with hc | hc
      · exact hk.faithful u c hc
      · exact ht.faithful u c hc
    sourced := fun u r resolution hr => by
      rw [ht.history] at hr ⊢
      rcases List.mem_append.mp hr with hr | hr
      · exact (hk.sourced u r resolution hr).append es
      · obtain ⟨rfl, s, hs, hrec⟩ := ht.resolved u r resolution hr
        exact (hk.held u s r hs hrec).append es }

end Step

/-! ## Runs without crashes -/

theorem Escalating.outside (hk : Escalating crew start f) (a : Outside η) :
    Escalating crew start (crew.perform f (.outside a)) := by
  have hset (u : Tier) : settlements u (f.history ++ a.events f.bus) = settlements u f.history := by
    rw [settlements_append, (tells_outside a f.bus u).2.2, List.append_nil]
  have hcop (u : Tier) : copies u (f.history ++ a.events f.bus) = copies u f.history := by
    rw [copies_append, (tells_outside a f.bus u).1, List.append_nil]
  exact {
    fit := fit_perform hk.fit _
    recorded := recorded_outside hk.recorded a
    absent := fun u hu => (hset u).trans (hk.absent u hu)
    settled := fun u s p edge hs he r hr => hk.settled u s p edge hs he r (hset u ▸ hr)
    decoded := hk.decoded
    held := fun u s r hs hr => (hk.held u s r hs hr).append _
    correspondence := fun u => by
      have hesc : escalations u (f.history ++ a.events f.bus) = escalations u f.history := by
        rw [escalations_append, (tells_outside a f.bus u).2.1, List.append_nil]
      exact (congrArg _ (hcop u)).trans ((hk.correspondence u).trans hesc.symm)
    once := fun u => by
      have h := hk.once u
      rwa [← hset u] at h
    faithful := fun u c hc => hk.faithful u c (hcop u ▸ hc)
    sourced := fun u r resolution hr => by
      rcases List.mem_append.mp hr with hr | hr
      · exact (hk.sourced u r resolution hr).append _
      · rcases Outside.mem_events hr with ⟨_, _, h⟩ | ⟨_, _, _, _, h⟩ <;> exact nomatch h }

theorem Escalating.join (hk : Escalating crew start f) (t : Tier) (name : String) :
    Escalating crew start (crew.join f t name) := by
  have hfit : crew.Fit (crew.join f t name) := fit_perform hk.fit (.join t name)
  cases hs : f.seats t with
  | some s => rwa [join_of_some crew name hs]
  | none =>
    obtain ⟨entries, hj⟩ := join_of_none crew name hs
    rw [hj] at hfit ⊢
    exact {
      fit := hfit
      recorded := hk.recorded
      absent := fun u hu => by
        have hu : (f.sit t (some (crew.newcomer f t name))).seats u = none := hu
        rw [seats_sit] at hu
        split at hu
        · exact nomatch hu
        · exact hk.absent u hu
      settled := fun u s p edge hu he r hr => by
        rcases eq_or_of_sit hu with ⟨rfl, -⟩ | hu
        · have hr : r ∈ settlements u f.history := hr
          rw [hk.absent u hs] at hr
          exact nomatch hr
        · exact hk.settled u s p edge hu he r hr
      decoded := fun u c r event outcome state hu => by
        rcases eq_or_of_sit hu with ⟨-, h⟩ | hu
        · exact nomatch congrArg (fun s => s.task.phase) (Option.some.inj h)
        · exact hk.decoded u c r event outcome state hu
      held := fun u s r hu hr => by
        rcases eq_or_of_sit hu with ⟨-, h⟩ | hu
        · obtain rfl := Option.some.inj h
          exact nomatch hr
        · exact hk.held u s r hu hr
      correspondence := hk.correspondence
      once := hk.once
      faithful := hk.faithful
      sourced := hk.sourced }

/-- Every act but a crash keeps the invariant. -/
theorem escalating_perform (hk : Escalating crew start f) {a : Act η} (ha : ∀ t, a ≠ .crash t) :
    Escalating crew start (crew.perform f a) := by
  cases a with
  | join t name => exact hk.join t name
  | crash t => exact absurd rfl (ha t)
  | work t => exact hk.worked (hk.fit.worked t)
  | outside a => exact hk.outside a

/-- The invariant has all that is to hold. -/
theorem Escalating.escalated (hk : Escalating crew start f) : Escalated crew start f.bus f.history := by
  have hfst (t : Tier) : (copies t f.history).map (·.source) = (escalations t f.history).map Prod.fst := by
    rw [← hk.correspondence, List.map_map]
    rfl
  have hperm (t : Tier) : (((copies t f.history).map (·.source.position)) ++
      (finishes t f.history).map (·.position)).Nodup := by
    have h := ((settlements_perm t f.history).map (·.position)).nodup_iff.mp (hk.once t)
    rwa [List.map_append, ← hfst, List.map_map] at h
  have honce (t : Tier) := (List.nodup_append.mp (hperm t)).1
  exact {
    correspondence := hk.correspondence
    once := honce
    faithful := hk.faithful
    sourced := hk.sourced
    recorded := hk.recorded
    forward := fun t u hu c hc hdest => by
      obtain ⟨next, e, hnext, hd, -⟩ := hk.faithful t c hc
      have := Tier.rank_of_next hnext
      obtain rfl := crew.topology.channelName_inj.mp (hd.symm.trans hdest)
      omega
    last := List.eq_nil_iff_forall_not_mem.mpr fun c hc => by
      obtain ⟨next, e, hnext, -⟩ := hk.faithful .error c hc
      exact nomatch hnext
    unique := fun x y z hy hz htier => hy.unique honce hz htier
    later := fun x y => Descends.rank_lt
    childless := fun t r hr y hd => by
      obtain ⟨c, hc, hpos⟩ := hd.exists_copy
      exact (List.nodup_append.mp (hperm t)).2.2 _ (List.mem_map_of_mem hc) _
        (List.mem_map_of_mem hr) hpos }

/-- **Escalation** neither loses nor doubles a record, and copies nothing that does not move on, in any run
without crashes on any bus. -/
theorem escalated_run (crew : Crew η ε) (start : Bus) (memory : η) (now : Int) (acts : List (Act η))
    (hacts : ∀ t, .crash t ∉ acts) :
    Escalated crew start (crew.run (.opening start memory now) acts).bus
      (crew.run (.opening start memory now) acts).history :=
  Escalating.escalated <| run_induction (P := Escalating crew start) acts
    (fun _ _ ha hk => escalating_perform hk fun t h => hacts t (h ▸ ha))
    (escalating_opening start memory now)

/-- Workers that handle no event, for a passing reason. -/
def refusing : Crew Unit Unit := ⟨.standard, ⟨0⟩, fun _ => .refusing⟩

/-- A record cannot move on at first, and is read again. Then it moves on to the last tier. -/
def movedTwice : List (Act Unit) :=
  [.outside (.publish ⟨"k", [4, 32, 97], "order-received", 0⟩ 1),
    .outside (.setUnavailable "order-received-retry" true), .join .main "a", .join .retry "b",
    .work .main, .work .main, .work .main, .work .main,
    .outside (.setUnavailable "order-received-retry" false),
    .work .main, .work .main, .work .main, .work .main, .work .retry, .work .retry, .work .retry]

theorem escalated_after_outage :
    (copies .main (refusing.run (.opening (.ofPartitions 2) () 0) movedTwice).history).map
        (fun c => (c.source.position, c.position, c.envelope.payload)) = [(⟨1, 0⟩, ⟨0, 0⟩, [2, 97])] ∧
      (copies .retry (refusing.run (.opening (.ofPartitions 2) () 0) movedTwice).history).map
        (fun c => (c.source.position, c.position)) = [(⟨0, 0⟩, ⟨0, 0⟩)] ∧
      Escalated refusing (.ofPartitions 2)
        (refusing.run (.opening (.ofPartitions 2) () 0) movedTwice).bus
        (refusing.run (.opening (.ofPartitions 2) () 0) movedTwice).history :=
  ⟨by decide +kernel, by decide +kernel,
    escalated_run refusing (.ofPartitions 2) () 0 movedTwice fun t => by
      simp only [movedTwice, List.mem_cons, reduceCtorEq, List.not_mem_nil, or_self, not_false_iff]⟩

end OrderRelay.Crew
