import OrderRelay.Proofs.Feed.Edges

/-!
# At least once

No commit of a worker leaves a record behind that nobody was done with: whatever lies below a committed
offset was settled before the commit that covers it, or fell to retention without ever having been settled.
This holds for any number of partitions, any handlers, and any order of the steps of all workers, with
publishes, retention, outages, crashes and new consumers in between.

* `Accounted`, `Covered`: what is to hold of an offset;
* `Kept`, the invariant: what lies below an edge is accounted for, what lies below a committed offset is
  covered, and no committed offset is ahead of an edge;
* `kept_perform`, every act keeps it;
* **`committed_covered`**: at-least-once, and committed offsets never fall.
-/

namespace OrderRelay.Crew

variable {η ε : Type} {crew : Crew η ε} {start : Bus} {f f' : Floor η} {t : Tier} {p o : Int}
  {h es : List Event}

/-- The offset was settled, or it was removed before any resolution that would have settled it: by retention
in the run or before it. -/
def Accounted (crew : Crew η ε) (start : Bus) (t : Tier) (p o : Int) (h : List Event) : Prop :=
  (∃ e ∈ h, e.Settles t p o) ∨ o < start.low (crew.topology.channelName t) p ∨
    ∃ before e after, h = before ++ e :: after ∧ e.Removes (crew.topology.channelName t) p o ∧
      ∀ e' ∈ before, ¬ e'.Settles t p o

/-- Before the first commit of the offset or of one after it, the offset was accounted for. -/
def Covered (crew : Crew η ε) (start : Bus) (t : Tier) (p o : Int) (h : List Event) : Prop :=
  ∃ before e after, h = before ++ e :: after ∧ e.Commits t p o ∧
    (∀ e' ∈ before, ¬ e'.Commits t p o) ∧ Accounted crew start t p o before

/-! ## More to tell -/

theorem Accounted.append (ha : Accounted crew start t p o h) (es : List Event) :
    Accounted crew start t p o (h ++ es) := by
  rcases ha with ⟨e, he, hs⟩ | hl | ⟨before, e, after, rfl, hr, hn⟩
  · exact .inl ⟨e, List.mem_append_left es he, hs⟩
  · exact .inr (.inl hl)
  · exact .inr (.inr ⟨before, e, after ++ es, by simp, hr, hn⟩)

theorem Covered.append (hc : Covered crew start t p o h) (es : List Event) :
    Covered crew start t p o (h ++ es) := by
  obtain ⟨before, e, after, rfl, hcom, hn, ha⟩ := hc
  exact ⟨before, e, after ++ es, by simp, hcom, hn, ha⟩

theorem Covered.accounted (hc : Covered crew start t p o h) : Accounted crew start t p o h := by
  obtain ⟨before, e, after, rfl, -, -, ha⟩ := hc
  exact ha.append _

theorem accounted_of_removed {e : Event} (he : e ∈ h)
    (hr : e.Removes (crew.topology.channelName t) p o) : Accounted crew start t p o h := by
  by_cases hs : ∃ e ∈ h, e.Settles t p o
  · exact .inl hs
  · obtain ⟨before, after, rfl⟩ := List.append_of_mem he
    exact .inr (.inr ⟨before, e, after, rfl, hr,
      fun e' he' hs' => hs ⟨e', List.mem_append_left _ he', hs'⟩⟩)

/-! ## The invariant -/

/-- The offset that the worker of a tier reads next on a partition, if one was ever committed. -/
def committed? (crew : Crew η ε) (f : Floor η) (t : Tier) (p : Int) : Option Int :=
  f.bus.committed (crew.topology.channelName t) (crew.topology.consumerGroup t) p

/-- What holds at any time of a run that began with the bus `start`. -/
structure Kept (crew : Crew η ε) (start : Bus) (f : Floor η) : Prop where
  fit : crew.Fit f
  /-- What is no longer retained was removed. -/
  removed : ∀ c p o, o < f.bus.low c p → o < start.low c p ∨ ∃ e ∈ f.history, e.Removes c p o
  behind : ∀ t s p edge, f.seats t = some s → s.edge? p = some edge →
    ∀ o < edge, Accounted crew start t p o f.history
  ahead : ∀ t s p edge next, f.seats t = some s → s.edge? p = some edge →
    crew.committed? f t p = some next → next ≤ edge
  covered : ∀ t p next, crew.committed? f t p = some next →
    ∀ o < next, Covered crew start t p o f.history
  /-- Every commit that was told of still stands. -/
  noted : ∀ t p o, ∀ e ∈ f.history, e.Commits t p o → ∃ next, crew.committed? f t p = some next ∧ o < next

theorem kept_opening (hstart : ∀ c g p, start.committed c g p = none) (memory : η) (now : Int) :
    Kept crew start (.opening start memory now) where
  fit := fit_opening start memory now
  removed _ _ _ h := .inl h
  behind _ _ _ _ hs := nomatch hs
  ahead _ _ _ _ _ hs := nomatch hs
  covered t p next hn := by
    rw [committed?, Floor.opening, hstart] at hn
    exact nomatch hn
  noted _ _ _ _ he := nomatch he

theorem Kept.accounted_of_lt_low (hk : Kept crew start f)
    (hl : o < f.bus.low (crew.topology.channelName t) p) (es : List Event) :
    Accounted crew start t p o (f.history ++ es) := by
  rcases hk.removed _ _ _ hl with h | ⟨e, he, hr⟩
  · exact .inr (.inl h)
  · exact accounted_of_removed (List.mem_append_left es he) hr

/-! ## Steps of a worker -/

namespace Worked

theorem low_eq (h : Worked crew f t f') (c : String) (p : Int) : f'.bus.low c p = f.bus.low c p := by
  cases h with
  | moved seat plan publish => exact Bus.low_publishTo publish c p
  | _ => rfl

/-- A step commits the record before an edge, or it commits nothing. -/
theorem commit_or_not (h : Worked crew f t f') (hf : crew.Fit f) :
    (f'.bus.committed = f.bus.committed ∧
      ∃ es, f'.history = f.history ++ es ∧ ∀ e ∈ es, ∀ u p o, ¬ e.Commits u p o) ∨
    ∃ s r, f.seats t = some s ∧ s.edge? r.partition = some (r.offset + 1) ∧
      f'.bus = f.bus.commit (crew.topology.channel t) r.partition (r.offset + 1) ∧
      f'.history = f.history ++ [.committed t r] := by
  cases h with
  | idle => exact .inl ⟨rfl, [], (List.append_nil _).symm, by simp⟩
  | took => exact .inl ⟨rfl, [], (List.append_nil _).symm, by simp⟩
  | evaluated => exact .inl ⟨rfl, [], (List.append_nil _).symm, by simp⟩
  | finished => exact .inl ⟨rfl, _, rfl, by simp [Event.Commits]⟩
  | moved seat plan publish =>
    exact .inl ⟨Bus.committed_publishTo publish, _, rfl, by simp [Event.Commits]⟩
  | refused => exact .inl ⟨rfl, _, rfl, by simp [Event.Commits]⟩
  | @committed c state _ r reference resolution _ seat settled =>
    have hfit := hf t _ seat
    refine .inr ⟨_, r, seat, ?_, ?_, rfl⟩
    · simp only [Seat.edge?, Worker.Phase.unsettled?, settled, if_true]
      exact hfit.passed r rfl
    · rw [← hfit.channel_eq]
      rfl
  | rewound => exact .inl ⟨rfl, _, rfl, by simp [Event.Commits]⟩

end Worked

theorem committed?_commit {q next : Int}
    (hb : f'.bus = f.bus.commit (crew.topology.channel t) q next) (u : Tier) (p : Int) :
    crew.committed? f' u p = if u = t ∧ p = q then some next else crew.committed? f u p := by
  rw [committed?, hb, Bus.committed_commit]
  by_cases hu : u = t
  · subst hu
    simp [Topology.channel, committed?]
  · have hc : crew.topology.channelName u ≠ crew.topology.channelName t := fun h =>
      hu ((crew.topology.channelName_inj).mp h)
    rw [if_neg fun h => hc h.1, if_neg fun h => hu h.1]
    rfl

section Step

variable (hk : Kept crew start f) (hw : Worked crew f t f')
include hk hw

/-- A step of a worker lets no committed offset fall. -/
theorem Kept.committed_mono_of_worked {c g : String} {p next : Int}
    (hn : f.bus.committed c g p = some next) :
    ∃ next', f'.bus.committed c g p = some next' ∧ next ≤ next' := by
  rcases hw.commit_or_not hk.fit with ⟨hc, -⟩ | ⟨s, r, hs, hedge, hb, -⟩
  · exact ⟨next, hc ▸ hn, Int.le_refl _⟩
  · rw [hb, Bus.committed_commit]
    split
    · rename_i h
      obtain ⟨rfl, rfl, rfl⟩ := h
      exact ⟨r.offset + 1, rfl, hk.ahead t s r.partition _ next hs hedge hn⟩
    · exact ⟨next, hn, Int.le_refl _⟩

variable {u : Tier} {s' : Seat} {edge' next : Int}

theorem Kept.behind_of_worked (hs' : f'.seats u = some s') (hedge' : s'.edge? p = some edge')
    (ho : o < edge') : Accounted crew start u p o f'.history := by
  obtain ⟨es, hes⟩ := hw.exists_history_eq
  obtain ⟨s, hs, edge, hedge, -, hpass⟩ := hw.exists_edge hk.fit hs' hedge'
  by_cases hlt : o < edge
  · exact hes ▸ (hk.behind u s p edge hs hedge o hlt).append es
  · rcases hpass o (Int.not_lt.mp hlt) ho with hl | hsettled
    · exact hes ▸ hk.accounted_of_lt_low hl es
    · exact .inl hsettled

theorem Kept.ahead_of_worked (hs' : f'.seats u = some s') (hedge' : s'.edge? p = some edge')
    (hn : crew.committed? f' u p = some next) : next ≤ edge' := by
  obtain ⟨s, hs, edge, hedge, hle, -⟩ := hw.exists_edge hk.fit hs' hedge'
  rcases hw.commit_or_not hk.fit with ⟨hc, -⟩ | ⟨s₁, r, hs₁, hedge₁, hb, -⟩
  · rw [committed?, hc] at hn
    exact Int.le_trans (hk.ahead u s p edge next hs hedge hn) hle
  · rw [committed?_commit hb] at hn
    split at hn
    · rename_i h
      obtain ⟨rfl, rfl⟩ := h
      -- The edge is the one that has just been committed.
      rw [hs, Option.some.injEq] at hs₁
      rw [← hs₁, hedge, Option.some.injEq] at hedge₁
      rw [Option.some.injEq] at hn
      omega
    · exact Int.le_trans (hk.ahead u s p edge next hs hedge hn) hle

/-- What a commit covers lies below the edge of its worker. Where an earlier commit covers it too, nothing
new has to be shown. -/
theorem Kept.covered_of_worked (hn : crew.committed? f' u p = some next) (ho : o < next) :
    Covered crew start u p o f'.history := by
  rcases hw.commit_or_not hk.fit with ⟨hc, es, hes, -⟩ | ⟨s, r, hs, hedge, hb, hes⟩
  · rw [committed?, hc] at hn
    exact hes ▸ (hk.covered u p next hn o ho).append es
  · rw [committed?_commit hb] at hn
    split at hn
    · rename_i h
      obtain ⟨rfl, rfl⟩ := h
      rw [Option.some.injEq] at hn
      by_cases hold : ∃ old, crew.committed? f u r.partition = some old ∧ o < old
      · obtain ⟨old, hold, hlt⟩ := hold
        exact hes ▸ (hk.covered u _ old hold o hlt).append _
      · refine ⟨f.history, _, [], hes, ⟨rfl, rfl, by omega⟩, fun e he hcom => ?_,
          hk.behind u s _ _ hs hedge o (by omega)⟩
        exact hold (hk.noted u _ o e he hcom)
    · exact hes ▸ (hk.covered u p next hn o ho).append _

theorem Kept.noted_of_worked {e : Event} (he : e ∈ f'.history) (hcom : e.Commits u p o) :
    ∃ next, crew.committed? f' u p = some next ∧ o < next := by
  have old (he : e ∈ f.history) : ∃ next, crew.committed? f' u p = some next ∧ o < next := by
    obtain ⟨next, hn, hlt⟩ := hk.noted u p o e he hcom
    obtain ⟨next', hn', hle⟩ := hk.committed_mono_of_worked hw hn
    exact ⟨next', hn', by omega⟩
  rcases hw.commit_or_not hk.fit with ⟨hc, es, hes, hno⟩ | ⟨s, r, hs, hedge, hb, hes⟩
  · rw [hes] at he
    rcases List.mem_append.mp he with he | he
    · exact old he
    · exact absurd hcom (hno e he u p o)
  · rw [hes] at he
    rcases List.mem_append.mp he with he | he
    · exact old he
    · obtain rfl := List.mem_singleton.mp he
      obtain ⟨rfl, rfl, hle⟩ := hcom
      refine ⟨r.offset + 1, ?_, by omega⟩
      rw [committed?_commit hb, if_pos ⟨rfl, rfl⟩]

theorem Kept.worked : Kept crew start f' where
  fit := hw.fit hk.fit
  removed c p o ho := by
    obtain ⟨es, hes⟩ := hw.exists_history_eq
    rw [hw.low_eq] at ho
    exact (hk.removed c p o ho).imp_right fun ⟨e, he, hr⟩ => ⟨e, hes ▸ List.mem_append_left es he, hr⟩
  behind _ _ _ _ hs hedge _ ho := hk.behind_of_worked hw hs hedge ho
  ahead _ _ _ _ _ hs hedge hn := hk.ahead_of_worked hw hs hedge hn
  covered _ _ _ hn _ ho := hk.covered_of_worked hw hn ho
  noted _ _ _ _ he hcom := hk.noted_of_worked hw he hcom

end Step

/-! ## What else happens -/

theorem not_commits_events {a : Outside η} {b : Bus} {e : Event} (he : e ∈ a.events b) :
    ¬ e.Commits t p o := by
  rcases Outside.mem_events he with ⟨_, _, rfl⟩ | ⟨_, _, _, _, rfl⟩ <;> exact id

theorem Kept.outside (hk : Kept crew start f) (a : Outside η) :
    Kept crew start (crew.perform f (.outside a)) where
  fit := fit_perform hk.fit _
  removed c p o ho := by
    rcases Outside.lt_low_alter ho with hl | ⟨e, he, hr⟩
    · exact (hk.removed c p o hl).imp_right fun ⟨e, he, hr⟩ => ⟨e, List.mem_append_left _ he, hr⟩
    · exact .inr ⟨e, List.mem_append_right _ he, hr⟩
  behind u s p edge hs hedge o ho := (hk.behind u s p edge hs hedge o ho).append _
  ahead u s p edge next hs hedge hn := hk.ahead u s p edge next hs hedge
    (by rwa [committed?, perform, Outside.committed_alter] at hn)
  covered u p next hn o ho := (hk.covered u p next
    (by rwa [committed?, perform, Outside.committed_alter] at hn) o ho).append _
  noted u p o e he hcom := by
    rw [committed?, perform, Outside.committed_alter]
    rcases List.mem_append.mp he with he | he
    · exact hk.noted u p o e he hcom
    · exact absurd hcom (not_commits_events he)

/-- A newcomer starts where its group left off, or at the first record that is retained. -/
theorem edge?_newcomer {name : String} {edge : Int}
    (he : (crew.newcomer f t name).edge? p = some edge) :
    edge = max ((crew.committed? f t p).getD (f.bus.low (crew.topology.channelName t) p))
      (f.bus.low (crew.topology.channelName t) p) := by
  have he : (Consumer.starts f.bus (crew.topology.channel t)).get? p = some edge := he
  rw [Consumer.get?_starts] at he
  split at he
  · exact (Option.some.inj he).symm
  · exact nomatch he

theorem Kept.newcomer (hk : Kept crew start f) {name : String} {edge : Int}
    (he : (crew.newcomer f t name).edge? p = some edge) :
    (∀ o < edge, Accounted crew start t p o f.history) ∧
      ∀ next, crew.committed? f t p = some next → next ≤ edge := by
  have hmax := edge?_newcomer he
  constructor
  · intro o ho
    by_cases hl : o < f.bus.low (crew.topology.channelName t) p
    · simpa using hk.accounted_of_lt_low hl []
    · cases hn : crew.committed? f t p with
      | none =>
        rw [hn, Option.getD_none] at hmax
        omega
      | some next =>
        rw [hn, Option.getD_some] at hmax
        exact (hk.covered t p next hn o (by omega)).accounted
  · intro next hn
    rw [hn, Option.getD_some] at hmax
    omega

theorem Kept.join (hk : Kept crew start f) (t : Tier) (name : String) :
    Kept crew start (crew.join f t name) := by
  have hfit : crew.Fit (crew.join f t name) := fit_perform hk.fit (.join t name)
  cases hs : f.seats t with
  | some s => rwa [join_of_some crew name hs]
  | none =>
    obtain ⟨entries, hj⟩ := join_of_none crew name hs
    rw [hj] at hfit ⊢
    exact {
      fit := hfit
      removed := hk.removed
      behind := fun u s p edge hu he => by
        rcases eq_or_of_sit hu with ⟨rfl, h⟩ | hu
        · obtain rfl := Option.some.inj h
          exact (hk.newcomer he).1
        · exact hk.behind u s p edge hu he
      ahead := fun u s p edge next hu he => by
        rcases eq_or_of_sit hu with ⟨rfl, h⟩ | hu
        · obtain rfl := Option.some.inj h
          exact (hk.newcomer he).2 next
        · exact hk.ahead u s p edge next hu he
      covered := hk.covered
      noted := hk.noted }

theorem Kept.crash (hk : Kept crew start f) (t : Tier) : Kept crew start (f.sit t none) where
  fit := fit_perform hk.fit (.crash t)
  removed := hk.removed
  behind u s p edge hu := by
    rcases eq_or_of_sit hu with ⟨-, h⟩ | hu
    · exact nomatch h
    · exact hk.behind u s p edge hu
  ahead u s p edge next hu := by
    rcases eq_or_of_sit hu with ⟨-, h⟩ | hu
    · exact nomatch h
    · exact hk.ahead u s p edge next hu
  covered := hk.covered
  noted := hk.noted

/-- Every act keeps the invariant. -/
theorem kept_perform (hk : Kept crew start f) (a : Act η) : Kept crew start (crew.perform f a) := by
  cases a with
  | join t name => exact hk.join t name
  | crash t => exact hk.crash t
  | work t => exact hk.worked (hk.fit.worked t)
  | outside a => exact hk.outside a

/-- No act lets a committed offset fall. -/
theorem Kept.committed_mono (hk : Kept crew start f) (a : Act η) {c g : String} {p next : Int}
    (hn : f.bus.committed c g p = some next) :
    ∃ next', (crew.perform f a).bus.committed c g p = some next' ∧ next ≤ next' := by
  cases a with
  | work t => exact hk.committed_mono_of_worked (hk.fit.worked t) hn
  | outside a =>
    refine ⟨next, ?_, Int.le_refl _⟩
    rwa [perform, Outside.committed_alter]
  | crash t => exact ⟨next, hn, Int.le_refl _⟩
  | join t name =>
    refine ⟨next, ?_, Int.le_refl _⟩
    rw [perform]
    cases hs : f.seats t with
    | some s => rwa [join_of_some crew name hs]
    | none =>
      obtain ⟨entries, hj⟩ := join_of_none crew name hs
      rwa [hj]

theorem kept_run (hk : Kept crew start f) (acts : List (Act η)) : Kept crew start (crew.run f acts) :=
  run_induction acts (fun _ a _ h => kept_perform h a) hk

/-- No run lets a committed offset fall. -/
theorem Kept.committed_mono_run (hk : Kept crew start f) (acts : List (Act η)) {c g : String} {p next : Int}
    (hn : f.bus.committed c g p = some next) :
    ∃ next', (crew.run f acts).bus.committed c g p = some next' ∧ next ≤ next' := by
  have h := run_induction (P := fun f => Kept crew start f ∧
      ∃ next', f.bus.committed c g p = some next' ∧ next ≤ next') acts
    (fun f a _ ⟨hk, next', hn', hle⟩ => by
      obtain ⟨next'', hn'', hle'⟩ := hk.committed_mono a hn'
      exact ⟨kept_perform hk a, next'', hn'', by omega⟩)
    ⟨hk, next, hn, Int.le_refl _⟩
  exact h.2

/-- **At least once.** Begin with any bus on which nothing was ever committed, and let anything happen in any
order. Before the first commit that covers an offset, the offset was settled, or it was removed by retention
without having been settled before. And no committed offset of any group ever falls. -/
theorem committed_covered (crew : Crew η ε) (start : Bus)
    (hstart : ∀ c g p, start.committed c g p = none) (memory : η) (now : Int) (acts : List (Act η)) :
    (∀ t p next, crew.committed? (crew.run (.opening start memory now) acts) t p = some next →
      ∀ o < next, Covered crew start t p o (crew.run (.opening start memory now) acts).history) ∧
    ∀ more c g p next,
      (crew.run (.opening start memory now) acts).bus.committed c g p = some next →
        ∃ next', (crew.run (.opening start memory now) (acts ++ more)).bus.committed c g p = some next' ∧
          next ≤ next' := by
  have hk : Kept crew start _ := kept_run (kept_opening hstart memory now) acts
  refine ⟨hk.covered, fun more c g p next hn => ?_⟩
  rw [run_append]
  exact hk.committed_mono_run more hn

/-- Workers that handle every event. -/
def accepting : Crew Unit Unit := ⟨.standard, ⟨0⟩, fun _ => .accepting⟩

/-- A worker handles a record and crashes before it commits. The next one handles it again and commits. -/
def handledTwice : List (Act Unit) :=
  [.outside (.publish ⟨"k", [2, 97], "order-received", 0⟩ 1), .join .main "a", .work .main, .work .main,
    .work .main, .crash .main, .join .main "b", .work .main, .work .main, .work .main, .work .main]

theorem committed_covered_after_crash :
    accepting.committed? (accepting.run (.opening (.ofPartitions 2) () 0) handledTwice) .main 1 = some 1 ∧
      Covered accepting (.ofPartitions 2) .main 1 0
        (accepting.run (.opening (.ofPartitions 2) () 0) handledTwice).history ∧
      ∃ next', (accepting.run (.opening (.ofPartitions 2) () 0)
          (handledTwice ++ [.outside (.truncate "order-received" 1 1)])).bus.committed "order-received"
            "item-handler-order-received" 1 = some next' ∧ 1 ≤ next' := by
  have h := committed_covered accepting (.ofPartitions 2) (fun _ _ _ => rfl) () 0 handledTwice
  exact ⟨by decide, h.1 .main 1 1 (by decide) 0 (by decide), h.2 _ _ _ 1 1 (by decide)⟩

end OrderRelay.Crew
