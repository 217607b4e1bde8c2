import OrderRelay.Proofs.Feed.Floor

/-!
# How far a worker has come

The *edge* of a worker on a partition is the first offset it is not done with: the one of the record it has in
hand and has not settled, else its read position. An edge never moves back, and moves on only past records
that were settled or removed.

* `Seat.edge?`, and `Seat.Fit`, what is known of a worker at any time;
* `Event.Settles`, `Event.Removes`, `Event.Commits`: what an event says of an offset;
* `Crew.fit_perform`: every act keeps all seats fit;
* **`Crew.Worked.exists_edge`**: what lies between the edge before a step and the edge after it.
-/

namespace OrderRelay

/-- The record is done with by the event. -/
def Event.Settles (t : Tier) (p o : Int) : Event → Prop
  | resolved u r resolution => u = t ∧ r.partition = p ∧ r.offset = o ∧ resolution.isSettled = true
  | _ => False

/-- The commit of the event is one of the record or of one after it. -/
def Event.Commits (t : Tier) (p o : Int) : Event → Prop
  | committed u r => u = t ∧ r.partition = p ∧ o ≤ r.offset
  | _ => False

/-- The record in hand, unless it is done with. -/
def Worker.Phase.unsettled? : Worker.Phase → Option ConsumedRecord
  | holding r => some r
  | handled r _ _ => some r
  | resolved r _ resolution => if resolution.isSettled then none else some r
  | _ => none

namespace Seat

/-- The first offset of a partition that the worker is not done with. -/
def edge? (s : Seat) (p : Int) : Option Int :=
  match s.task.phase.unsettled? with
  | some r => if r.partition = p then some r.offset else s.consumer.positions.get? p
  | none => s.consumer.positions.get? p

/-- A worker that reads a channel of a bus, with the read position just past the record in hand. -/
structure Fit (b : Bus) (channel : Channel) (s : Seat) : Prop where
  channel_eq : s.consumer.channel = channel
  pending_eq : s.consumer.pending = false
  of_channel : ∀ r, s.task.phase.record? = some r → r.channel = channel.name
  passed : ∀ r, s.task.phase.record? = some r →
    s.consumer.positions.get? r.partition = some (r.offset + 1)
  lt_high : ∀ r, s.task.phase.record? = some r → r.offset < b.high channel.name r.partition

variable {b b' : Bus} {channel : Channel}

theorem Fit.mono {s : Seat} (h : s.Fit b channel) (hb : ∀ c p, b.high c p ≤ b'.high c p) :
    s.Fit b' channel where
  channel_eq := h.channel_eq
  pending_eq := h.pending_eq
  of_channel := h.of_channel
  passed := h.passed
  lt_high r hr := Int.lt_of_lt_of_le (h.lt_high r hr) (hb _ _)

/-- A worker without a record in hand is fit when its consumer has its partitions. -/
theorem fit_ready {c : Consumer} {state : Worker.State} (hc : c.channel = channel)
    (hp : c.pending = false) : Fit b channel ⟨c, .ready, state⟩ where
  channel_eq := hc
  pending_eq := hp
  of_channel _ h := nomatch h
  passed _ h := nomatch h
  lt_high _ h := nomatch h

theorem Fit.of_phase {c : Consumer} {k k' : Worker.Task} (h : Fit b channel ⟨c, k⟩)
    (hk : k'.phase.record? = k.phase.record?) : Fit b channel ⟨c, k'⟩ where
  channel_eq := h.channel_eq
  pending_eq := h.pending_eq
  of_channel r hr := h.of_channel r (hk ▸ hr)
  passed r hr := h.passed r (hk ▸ hr)
  lt_high r hr := h.lt_high r (hk ▸ hr)

theorem Fit.took {c c' : Consumer} {k : Worker.Task} {r : ConsumedRecord} {state : Worker.State}
    (h : Fit b channel ⟨c, k⟩) (hr : Consumer.Read b c r c') :
    Fit b channel ⟨c', .holding r, state⟩ where
  channel_eq := hr.channel_eq.trans h.channel_eq
  pending_eq := hr.pending_eq.trans h.pending_eq
  of_channel r' hr' := by
    obtain rfl : r = r' := Option.some.inj hr'
    rw [hr.channel, h.channel_eq]
  passed r' hr' := by
    obtain rfl : r = r' := Option.some.inj hr'
    rw [hr.get?_positions, if_pos rfl]
  lt_high r' hr' := by
    obtain rfl : r = r' := Option.some.inj hr'
    rw [← h.channel_eq]
    exact hr.offset_lt_high

end Seat

namespace Crew

variable {η ε : Type} {crew : Crew η ε} {f f' : Floor η} {t : Tier}

/-- All workers read the channels of their tiers. -/
def Fit (crew : Crew η ε) (f : Floor η) : Prop :=
  ∀ t s, f.seats t = some s → s.Fit f.bus (crew.topology.channel t)

theorem fit_opening (b : Bus) (memory : η) (now : Int) : crew.Fit (.opening b memory now) :=
  fun _ _ h => nomatch h

theorem Fit.worked (h : crew.Fit f) (t : Tier) : Worked crew f t (crew.work f t) :=
  Crew.worked crew f fun s hs => (h t s hs).pending_eq

theorem seats_sit (f : Floor η) (t u : Tier) (s : Option Seat) :
    (f.sit t s).seats u = if u = t then s else f.seats u := Function.update_apply ..

theorem sit_seat (f : Floor η) (t : Tier) (s : Option Seat) : (f.sit t s).seats t = s :=
  (seats_sit f t t s).trans (if_pos rfl)

theorem eq_of_sit {s s' : Seat} (h : (f.sit t (some s)).seats t = some s') : s = s' :=
  Option.some.inj ((sit_seat f t _).symm.trans h)

/-- Whoever is seated now has just taken the seat, or was seated before. -/
theorem eq_or_of_sit {s : Option Seat} {u : Tier} {s' : Seat} (h : (f.sit t s).seats u = some s') :
    u = t ∧ s = some s' ∨ f.seats u = some s' := by
  rw [seats_sit] at h
  split at h
  · exact .inl ⟨‹_›, h⟩
  · exact .inr h

/-- The floor is fit with a fit worker in one more seat. -/
theorem Fit.sit (h : crew.Fit f) {s : Option Seat} (hb : ∀ c p, f.bus.high c p ≤ f'.bus.high c p)
    (hseats : f'.seats = (f.sit t s).seats)
    (hs : ∀ s', s = some s' → s'.Fit f.bus (crew.topology.channel t)) : crew.Fit f' := by
  intro u s' hu
  rw [hseats] at hu
  rcases eq_or_of_sit hu with ⟨rfl, e⟩ | hu
  · exact (hs s' e).mono hb
  · exact (h u s' hu).mono hb

namespace Worked

theorem high_le_high (h : Worked crew f t f') (c : String) (p : Int) :
    f.bus.high c p ≤ f'.bus.high c p := by
  cases h with
  | moved seat plan publish =>
    rw [show _ = _ from Bus.high_publishTo publish c p]
    split <;> omega
  | _ => exact Int.le_refl _

theorem fit (h : Worked crew f t f') (hf : crew.Fit f) : crew.Fit f' := by
  have hb := h.high_le_high
  cases h with
  | idle => exact hf
  | took seat read => exact hf.sit hb rfl fun _ e => Option.some.inj e ▸ (hf t _ seat).took read
  | evaluated seat => exact hf.sit hb rfl fun _ e => Option.some.inj e ▸ (hf t _ seat).of_phase rfl
  | finished seat => exact hf.sit hb rfl fun _ e => Option.some.inj e ▸ (hf t _ seat).of_phase rfl
  | moved seat => exact hf.sit hb rfl fun _ e => Option.some.inj e ▸ (hf t _ seat).of_phase rfl
  | refused seat => exact hf.sit hb rfl fun _ e => Option.some.inj e ▸ (hf t _ seat).of_phase rfl
  | committed seat =>
    exact hf.sit hb rfl fun _ e => Option.some.inj e ▸
      Seat.fit_ready (hf t _ seat).channel_eq (hf t _ seat).pending_eq
  | rewound seat =>
    exact hf.sit hb rfl fun _ e => Option.some.inj e ▸
      Seat.fit_ready ((Consumer.channel_rewind _ _).trans (hf t _ seat).channel_eq)
        ((Consumer.pending_rewind _ _).trans (hf t _ seat).pending_eq)

end Worked

/-! ## Joining -/

theorem join_of_some (crew : Crew η ε) (name : String) {s : Seat} (hs : f.seats t = some s) :
    crew.join f t name = f := by rw [join, hs]

/-- A new worker, whose consumer starts every partition where its group left off. -/
def newcomer (crew : Crew η ε) (f : Floor η) (t : Tier) (name : String) : Seat :=
  ⟨{ Consumer.fresh (crew.topology.channel t) name with
      positions := Consumer.starts f.bus (crew.topology.channel t), pending := false },
    .ready, (crew.worker t).start⟩

theorem join_of_none (crew : Crew η ε) (name : String) (hs : f.seats t = none) :
    ∃ entries, crew.join f t name = { f.sit t (some (crew.newcomer f t name)) with entries } := by
  rw [join, hs]
  exact ⟨_, rfl⟩

/-- Every act keeps all workers fit. -/
theorem fit_perform (h : crew.Fit f) (a : Act η) : crew.Fit (crew.perform f a) := by
  cases a with
  | join t name =>
    cases hs : f.seats t with
    | some s =>
      rw [perform, join_of_some crew name hs]
      exact h
    | none =>
      obtain ⟨entries, he⟩ := join_of_none crew name hs
      rw [perform, he]
      exact h.sit (fun _ _ => Int.le_refl _) rfl fun _ e => Option.some.inj e ▸ Seat.fit_ready rfl rfl
  | crash t => exact h.sit (fun _ _ => Int.le_refl _) rfl fun _ e => nomatch e
  | work t => exact (h.worked t).fit h
  | outside o => exact fun u s hu => (h u s hu).mono (o.high_le_high_alter f.bus)

/-! ## Runs -/

theorem run_append (f : Floor η) (as bs : List (Act η)) :
    crew.run f (as ++ bs) = crew.run (crew.run f as) bs := List.foldl_append

/-- What holds at first and is kept by every act of a run holds in the end. -/
theorem run_induction {P : Floor η → Prop} (acts : List (Act η))
    (hstep : ∀ f, ∀ a ∈ acts, P f → P (crew.perform f a)) (h : P f) : P (crew.run f acts) := by
  induction acts generalizing f with
  | nil => exact h
  | cons a as ih =>
    exact ih (fun f b hb => hstep f b (List.mem_cons_of_mem _ hb)) (hstep f a List.mem_cons_self h)

/-! ## Edges -/

namespace Worked

theorem seats_of_ne (h : Worked crew f t f') {u : Tier} (hu : u ≠ t) : f'.seats u = f.seats u := by
  cases h with
  | idle => rfl
  | _ => exact (seats_sit f t u _).trans (if_neg hu)

/-- What was told stays told. -/
theorem exists_history_eq (h : Worked crew f t f') : ∃ es, f'.history = f.history ++ es := by
  cases h with
  | idle => exact ⟨[], (List.append_nil _).symm⟩
  | took => exact ⟨[], (List.append_nil _).symm⟩
  | evaluated => exact ⟨[], (List.append_nil _).symm⟩
  | _ => exact ⟨_, rfl⟩

end Worked

section Edge

variable {s s' : Seat} {p edge' : Int}

/-- What a step may leave behind it on a partition: its edge does not fall, and what the edge passes is
settled, or removed by retention. -/
def Passes (crew : Crew η ε) (f f' : Floor η) (t : Tier) (p : Int) (s : Seat) (edge' : Int) : Prop :=
  ∃ edge, s.edge? p = some edge ∧ edge ≤ edge' ∧ ∀ o, edge ≤ o → o < edge' →
    o < f.bus.low (crew.topology.channelName t) p ∨ ∃ e ∈ f'.history, e.Settles t p o

theorem passes_of_eq (h : s.edge? p = some edge') : Passes crew f f' t p s edge' :=
  ⟨edge', h, Int.le_refl _, fun o h h' => by omega⟩

theorem passes_took {c c' : Consumer} {r : ConsumedRecord} {state : Worker.State}
    (hfit : Seat.Fit f.bus (crew.topology.channel t) ⟨c, .ready, state⟩) (hr : Consumer.Read f.bus c r c')
    (he : Seat.edge? ⟨c', .holding r, state⟩ p = some edge') :
    Passes crew f f' t p ⟨c, .ready, state⟩ edge' := by
  simp only [Seat.edge?, Worker.Phase.unsettled?] at he
  by_cases hp : r.partition = p
  · obtain ⟨position, stored, hpos, ho, -⟩ := hr.exists_position
    have hc : c.channel = crew.topology.channel t := hfit.channel_eq
    rw [if_pos hp, Option.some.injEq] at he
    rw [hp] at hpos
    rw [hp, hc] at ho
    -- Between the read position and the record there is nothing that is retained.
    exact ⟨position, hpos, by omega, fun o h h' => .inl (show o < f.bus.low _ p by
      have : (crew.topology.channel t).name = crew.topology.channelName t := rfl
      rw [this] at ho
      omega)⟩
  · rw [if_neg hp, hr.get?_positions, if_neg hp] at he
    exact passes_of_eq he

theorem passes_resolved {c : Consumer} {r : ConsumedRecord} {event : Option OrderReceived}
    {outcome : Outcome} {reference : String} {resolution : Resolution} {state : Worker.State}
    (hfit : Seat.Fit f.bus (crew.topology.channel t) ⟨c, .handled r event outcome, state⟩)
    (he : Seat.edge? ⟨c, .resolved r reference resolution, state⟩ p = some edge')
    (hes : .resolved t r resolution ∈ f'.history) :
    Passes crew f f' t p ⟨c, .handled r event outcome, state⟩ edge' := by
  simp only [Seat.edge?, Worker.Phase.unsettled?] at he
  cases hres : resolution.isSettled with
  | false =>
    simp only [hres, Bool.false_eq_true, if_false] at he
    exact passes_of_eq he
  | true =>
    simp only [hres, if_true] at he
    by_cases hp : r.partition = p
    · have hpassed := hfit.passed r rfl
      rw [hp, he, Option.some.injEq] at hpassed
      exact ⟨r.offset, if_pos hp, by omega, fun o ho ho' =>
        .inr ⟨_, hes, rfl, hp, by omega, hres⟩⟩
    · exact passes_of_eq (s := ⟨c, .handled r event outcome, state⟩) ((if_neg hp).trans he)

theorem passes_committed {c : Consumer} {r : ConsumedRecord} {reference : String} {resolution : Resolution}
    {state state' : Worker.State} (hres : resolution.isSettled = true)
    (he : Seat.edge? ⟨c, .ready, state'⟩ p = some edge') :
    Passes crew f f' t p ⟨c, .resolved r reference resolution, state⟩ edge' := by
  apply passes_of_eq
  simp only [Seat.edge?, Worker.Phase.unsettled?, hres, if_true]
  exact he

theorem passes_rewound {c : Consumer} {r : ConsumedRecord} {reference : String} {resolution : Resolution}
    {state state' : Worker.State} (hres : resolution.isSettled = false)
    (he : Seat.edge? ⟨c.rewind r, .ready, state'⟩ p = some edge')
    (hfit : Seat.Fit f.bus (crew.topology.channel t) ⟨c, .resolved r reference resolution, state⟩) :
    Passes crew f f' t p ⟨c, .resolved r reference resolution, state⟩ edge' := by
  apply passes_of_eq
  simp only [Seat.edge?, Worker.Phase.unsettled?, Consumer.get?_rewind] at he
  simp only [Seat.edge?, Worker.Phase.unsettled?, hres, Bool.false_eq_true, if_false]
  by_cases hp : r.partition = p
  · have hpassed := hfit.passed r rfl
    rw [hp] at hpassed
    rw [if_pos hp, hpassed] at he
    rw [if_pos hp, ← he]
    rfl
  · rw [if_neg hp] at he ⊢
    exact he

end Edge

/-- **What lies between two edges.** A step of any worker lets no edge fall, and whatever it passes was
settled, or removed by retention. -/
theorem Worked.exists_edge {s' : Seat} {u : Tier} {p edge' : Int} (h : Worked crew f t f')
    (hf : crew.Fit f) (hu : f'.seats u = some s') (he : s'.edge? p = some edge') :
    ∃ s, f.seats u = some s ∧ Passes crew f f' u p s edge' := by
  by_cases hut : u = t
  · subst hut
    cases h with
    | idle => exact ⟨s', hu, passes_of_eq he⟩
    | took seat read =>
      obtain rfl := eq_of_sit hu
      exact ⟨_, seat, passes_took (hf u _ seat) read he⟩
    | evaluated seat =>
      obtain rfl := eq_of_sit hu
      exact ⟨_, seat, passes_of_eq he⟩
    | finished seat =>
      obtain rfl := eq_of_sit hu
      exact ⟨_, seat, passes_resolved (hf u _ seat) he (by simp [Floor.tell])⟩
    | moved seat =>
      obtain rfl := eq_of_sit hu
      exact ⟨_, seat, passes_resolved (hf u _ seat) he (by simp [Floor.tell])⟩
    | refused seat =>
      obtain rfl := eq_of_sit hu
      exact ⟨_, seat, passes_resolved (hf u _ seat) he (by simp [Floor.tell])⟩
    | committed seat settled =>
      obtain rfl := eq_of_sit hu
      exact ⟨_, seat, passes_committed settled he⟩
    | rewound seat unsettled =>
      obtain rfl := eq_of_sit hu
      exact ⟨_, seat, passes_rewound unsettled he (hf u _ seat)⟩
  · exact ⟨s', (h.seats_of_ne hut) ▸ hu, passes_of_eq he⟩

end Crew

end OrderRelay
