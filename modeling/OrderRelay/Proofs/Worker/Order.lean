import Mathlib.Data.List.Induction
import OrderRelay.Proofs.Worker.Progress

/-!
# Order within a partition

A worker by itself deals with the records of a partition one after the other, whatever happens around it. It
hands none over after one with a greater offset, and none before all with smaller offsets were dealt with. So
the copies it stores of the records of one partition are in the order of these records.

* `DealtWith`, what became of an offset before a greater one is handed over;
* `InOrder`, all of the order, said of a history;
* `Ordered`, the invariant, which compares what was handed over with the edges, and `Ordered.moved`;
* **`in_order_after`**: the order of any run.
-/

namespace OrderRelay

/-- The last time the record was handed over, the worker was done with it. -/
def LastSettled (tier : Tier) (p o : Int) (h : List Happening) : Prop :=
  ∃ xs r ys resolution, h = xs ++ .handed r :: ys ∧ r.partition = p ∧ r.offset = o ∧
    (∀ s, .handed s ∈ ys → ¬ (s.partition = p ∧ s.offset = o)) ∧
    .told (.resolved tier r resolution) ∈ ys ∧ resolution.isSettled = true

/-- The offset lies below the first one that was read, it was removed, or its record is done with. -/
def DealtWith (channel : String) (tier : Tier) (start : Int → Option Int) (p o : Int) (h : List Happening) :
    Prop :=
  (∃ position, start p = some position ∧ o < position) ∨ (∃ e ∈ events h, e.Removes channel p o) ∨
    LastSettled tier p o h

/-- The order in a history of a worker of a tier that started each partition at a position of `start`. -/
structure InOrder (key : RepublishKey) (topology : Topology) (tier : Tier) (start : Int → Option Int)
    (h : List Happening) : Prop where
  /-- No record is handed over after one of its partition with a greater offset. -/
  never_after : ∀ xs r ys s, h = xs ++ .handed r :: ys → .handed s ∈ ys → s.partition = r.partition →
    r.offset ≤ s.offset
  /-- Before a record is handed over, all with smaller offsets were dealt with. -/
  dealt_before : ∀ xs r ys o, h = xs ++ .handed r :: ys → o < r.offset →
    DealtWith (topology.channelName tier) tier start r.partition o xs
  /-- The records that move on are those of the copies. -/
  copied : (copies tier (events h)).map (fun c => (c.source, c.position)) = escalations tier (events h)
  /-- The copies are on the channel of the next tier. -/
  forwarded : ∀ c ∈ copies tier (events h),
    ∃ next, tier.next = some next ∧ c.envelope.destination = topology.channelName next
  /-- Copies of records of one partition are stored in the order of these records. -/
  copied_before : ∀ a ∈ copies tier (events h), ∀ b ∈ copies tier (events h),
    a.source.partition = b.source.partition → a.source.offset < b.source.offset →
      [a, b].Sublist (copies tier (events h)) ∧
        (a.position.partition = b.position.partition → a.position.offset < b.position.offset)
  /-- With the same key for all, all copies are on one partition. -/
  one_partition : ∀ name, key = .fixed name → ∀ a ∈ copies tier (events h), ∀ b ∈ copies tier (events h),
    a.position.partition = b.position.partition

/-- A history of one happening has it at one place only. -/
theorem eq_nil_of_singleton {zs ys : List Happening} {a e : Happening} (h : [a] = zs ++ e :: ys) :
    zs = [] ∧ ys = [] := by
  cases zs with
  | nil => exact ⟨rfl, (List.cons.inj h).2.symm⟩
  | cons z zs =>
    have := (List.cons.inj h).2
    simp at this

/-- Of two members of a list one comes before the other. -/
theorem pair_sublist_of_mem {α : Type} {l : List α} {x y : α} (hx : x ∈ l) (hy : y ∈ l) :
    x = y ∨ [x, y].Sublist l ∨ [y, x].Sublist l := by
  induction l with
  | nil => exact absurd hx List.not_mem_nil
  | cons z l ih =>
    rcases List.mem_cons.mp hx with rfl | hx' <;> rcases List.mem_cons.mp hy with rfl | hy'
    · exact .inl rfl
    · exact .inr (.inl ((List.singleton_sublist.mpr hy').cons_cons x))
    · exact .inr (.inr ((List.singleton_sublist.mpr hx').cons_cons y))
    · rcases ih hx' hy' with h | h | h
      · exact .inl h
      · exact .inr (.inl (h.cons z))
      · exact .inr (.inr (h.cons z))

section Histories

variable {channel : String} {tier : Tier} {start : Int → Option Int} {p o : Int} {h es : List Happening}

theorem DealtWith.append (hd : DealtWith channel tier start p o h)
    (hes : ∀ s, .handed s ∈ es → ¬ (s.partition = p ∧ s.offset = o)) :
    DealtWith channel tier start p o (h ++ es) := by
  rcases hd with hstart | ⟨e, he, hr⟩ | ⟨xs, r, ys, resolution, rfl, hp, ho, hlast, hresolved, hsettled⟩
  · exact .inl hstart
  · refine .inr (.inl ⟨e, ?_, hr⟩)
    rw [events_append]
    exact List.mem_append_left _ he
  · refine .inr (.inr ⟨xs, r, ys ++ es, resolution, by simp, hp, ho, fun s hs => ?_,
      List.mem_append_left _ hresolved, hsettled⟩)
    exact (List.mem_append.mp hs).elim (hlast s) (hes s)

end Histories

/-! ## The invariant -/

/-- What was handed over does not lie past the edges, and what lies before them was dealt with. -/
structure Ordered (topology : Topology) (tier : Tier) (start : Int → Option Int) (g : Sight)
    (h : List Happening) : Prop where
  handed_le : ∀ r, .handed r ∈ h → ∀ edge, g.edge? r.partition = some edge → r.offset ≤ edge
  dealt : ∀ p edge, g.edge? p = some edge → ∀ o, o < edge →
    DealtWith (topology.channelName tier) tier start p o h
  never_after : ∀ xs r ys s, h = xs ++ .handed r :: ys → .handed s ∈ ys → s.partition = r.partition →
    r.offset ≤ s.offset
  dealt_before : ∀ xs r ys o, h = xs ++ .handed r :: ys → o < r.offset →
    DealtWith (topology.channelName tier) tier start r.partition o xs

/-- The copies lie before the high ends, those that they are copies of before the edges, and all are in
order. -/
structure Copied (topology : Topology) (tier : Tier) (g : Sight) (cs : List Copy) : Prop where
  source_lt : ∀ c ∈ cs, ∀ edge, g.edge? c.source.partition = some edge → c.source.offset < edge
  position_lt : ∀ c ∈ cs, ∀ next, tier.next = some next →
    c.position.offset < g.bus.high (topology.channelName next) c.position.partition
  pairwise : cs.Pairwise fun a b =>
    (a.source.partition = b.source.partition → a.source.offset < b.source.offset) ∧
      (a.position.partition = b.position.partition → a.position.offset < b.position.offset)

section Steps

variable {η ε : Type} {k : Handling η ε} {topology : Topology} {tier : Tier} {b : Bus} {g g' : Sight}
  {h es : List Happening} {start : Int → Option Int}

/-- A worker that has handed nothing over yet starts in order. -/
theorem ordered_start (hnothing : ∀ r, .handed r ∉ h) : Ordered topology tier g.edge? g h := by
  refine ⟨fun r hr => absurd hr (hnothing r), fun p edge he o ho => .inl ⟨edge, he, ho⟩,
    fun xs r ys s heq => ?_, fun xs r ys o heq => ?_⟩
  · exact absurd (by simp [heq]) (hnothing r)
  · exact absurd (by simp [heq]) (hnothing r)

/-- What a move passes was dealt with before or has been dealt with now. -/
theorem Ordered.dealt_of_moved (ho : Ordered topology tier start g h)
    (ht : Tidy k.republishKey topology tier b g h) (hgiven : g.consumer.pending = false)
    (hm : Moved k topology tier g g' es) {p edge' o : Int} (he : g'.edge? p = some edge') (hlt : o < edge') :
    DealtWith (topology.channelName tier) tier start p o (h ++ es) := by
  obtain ⟨edge, hedge, -, hpassed⟩ := exists_edge hm hgiven ht.channel_eq ht.in_hand he
  by_cases hbelow : o < edge
  · refine (ho.dealt p edge hedge o hbelow).append fun s hs => ?_
    -- A record that is handed over now is at the edge.
    obtain ⟨-, hjudging, -⟩ := handed_of_moved hm hs
    rintro ⟨rfl, rfl⟩
    rw [Sight.edge?_of_some (r := s) (by rw [hjudging]; rfl), if_pos rfl, Option.some.injEq] at hedge
    omega
  · rcases hpassed o (by omega) hlt with hlow | ⟨r, resolution, hhanded, hp, hoff, hes, hsettled⟩
    · rcases ht.removed p o hlow with hlow | ⟨e, hmem, hr⟩
      · have := ht.low_le_edge hgiven p edge hedge
        omega
      · refine .inr (.inl ⟨e, ?_, hr⟩)
        rw [events_append]
        exact List.mem_append_left _ hmem
    · obtain ⟨xs, ys, rfl, hlast⟩ := ht.handed_last r hhanded
      refine .inr (.inr ⟨xs, r, ys ++ es, resolution, by simp, hp, hoff, fun s hs => ?_,
        List.mem_append_right _ hes, hsettled⟩)
      rcases List.mem_append.mp hs with hs | hs
      · exact absurd hs (hlast s)
      · obtain ⟨rfl, -⟩ := handed_of_moved hm hs
        cases List.mem_singleton.mp hes

/-- A record is handed over at the edge of its partition, before the move and after it. -/
theorem edge?_of_handed (hm : Moved k topology tier g g' es) {s : ConsumedRecord} (hs : .handed s ∈ es) :
    es = [.handed s] ∧ g.edge? s.partition = some s.offset ∧ g'.edge? s.partition = some s.offset := by
  obtain ⟨hes, hjudging, rfl⟩ := handed_of_moved hm hs
  refine ⟨hes, ?_, ?_⟩
  · rw [Sight.edge?_of_some (r := s) (by rw [hjudging]; rfl), if_pos rfl]
  · rw [Sight.edge?_of_some (r := s) rfl, if_pos rfl]

/-- **Every move keeps the order.** -/
theorem Ordered.moved (ho : Ordered topology tier start g h) (ht : Tidy k.republishKey topology tier b g h)
    (hgiven : g.consumer.pending = false) (hm : Moved k topology tier g g' es) :
    Ordered topology tier start g' (h ++ es) := by
  refine ⟨fun r hr edge' he => ?_, fun p edge' he o hlt => ho.dealt_of_moved ht hgiven hm he hlt,
    fun xs r ys s heq hs hp => ?_, fun xs r ys o heq hlt => ?_⟩
  · rcases List.mem_append.mp hr with hr | hr
    · obtain ⟨edge, hedge, hle, -⟩ := exists_edge hm hgiven ht.channel_eq ht.in_hand he
      exact Int.le_trans (ho.handed_le r hr edge hedge) hle
    · obtain ⟨-, -, hat⟩ := edge?_of_handed hm hr
      exact Int.le_of_eq (Option.some.inj (hat.symm.trans he))
  · rcases eq_append_or heq with ⟨zs, hh, hys⟩ | ⟨zs, rfl, hes⟩
    · rw [hys] at hs
      rcases List.mem_append.mp hs with hs | hs
      · exact ho.never_after xs r zs s hh hs hp
      · obtain ⟨-, hat, -⟩ := edge?_of_handed hm hs
        rw [hp] at hat
        exact ho.handed_le r (by simp [hh]) s.offset hat
    · obtain ⟨hes', -⟩ := edge?_of_handed (s := r) hm (by simp [hes])
      obtain ⟨-, rfl⟩ := eq_nil_of_singleton (hes'.symm.trans hes)
      exact absurd hs List.not_mem_nil
  · rcases eq_append_or heq with ⟨zs, hh, -⟩ | ⟨zs, rfl, hes⟩
    · exact ho.dealt_before xs r zs o hh hlt
    · obtain ⟨hes', hat, -⟩ := edge?_of_handed (s := r) hm (by simp [hes])
      obtain ⟨rfl, -⟩ := eq_nil_of_singleton (hes'.symm.trans hes)
      rw [List.append_nil]
      exact ho.dealt r.partition r.offset hat o hlt

/-- What others do keeps it too. -/
theorem Ordered.around (ho : Ordered topology tier start g h) (bus : Bus) (stopAsked : Bool)
    (es : List Event) : Ordered topology tier start { g with bus, stopAsked } (h ++ es.map .told) := by
  have hquiet := handed_notMem_told es
  refine ⟨fun r hr => ?_, fun p edge he o hlt => ?_, fun xs r ys s heq hs hp => ?_,
    fun xs r ys o heq hlt => ?_⟩
  · exact ho.handed_le r ((List.mem_append.mp hr).resolve_right (hquiet r))
  · exact (ho.dealt p edge he o hlt).append fun s hs => absurd hs (hquiet s)
  · rcases eq_append_or heq with ⟨zs, hh, hys⟩ | ⟨zs, -, hes⟩
    · rw [hys] at hs
      exact ho.never_after xs r zs s hh ((List.mem_append.mp hs).resolve_right (hquiet s)) hp
    · exact absurd (by simp [hes]) (hquiet r)
  · rcases eq_append_or heq with ⟨zs, hh, -⟩ | ⟨zs, -, hes⟩
    · exact ho.dealt_before xs r zs o hh hlt
    · exact absurd (by simp [hes]) (hquiet r)

/-! ## Copies -/

/-- Every move keeps the copies in order. -/
theorem Copied.moved (hc : Copied topology tier g (copies tier (events h)))
    (ht : Tidy k.republishKey topology tier b g h) (hgiven : g.consumer.pending = false)
    (hm : Moved k topology tier g g' es) : Copied topology tier g' (copies tier (events (h ++ es))) := by
  obtain ⟨-, -, hhigh⟩ := bus_of_moved hm
  have hsource (c : Copy) (hmem : c ∈ copies tier (events h)) (edge' : Int)
      (he : g'.edge? c.source.partition = some edge') : c.source.offset < edge' := by
    obtain ⟨edge, hedge, hle, -⟩ := exists_edge hm hgiven ht.channel_eq ht.in_hand he
    exact Int.lt_of_lt_of_le (hc.source_lt c hmem edge hedge) hle
  have hposition (c : Copy) (hmem : c ∈ copies tier (events h)) (next : Tier) (hnext : tier.next = some next) :
      c.position.offset < g'.bus.high (topology.channelName next) c.position.partition :=
    Int.lt_of_lt_of_le (hc.position_lt c hmem next hnext) (hhigh _ _)
  rw [events_append, copies_append]
  rcases told_of_moved hm with ⟨hcopies, -⟩ | ⟨c, hmoves⟩
  · rw [hcopies, List.append_nil]
    exact ⟨hsource, hposition, hc.pairwise⟩
  · rw [hmoves.copies_eq]
    obtain ⟨next, hnext, hoffset, hhigh⟩ := hmoves.exists_high
    refine ⟨fun c' hmem edge' he => ?_, fun c' hmem next' hnext' => ?_, ?_⟩
    · rcases List.mem_append.mp hmem with hmem | hmem
      · exact hsource c' hmem edge' he
      · obtain rfl := List.mem_singleton.mp hmem
        have := Option.some.inj ((hmoves.edge?_after ht.in_hand).symm.trans he)
        omega
    · rcases List.mem_append.mp hmem with hmem | hmem
      · exact hposition c' hmem next' hnext'
      · obtain rfl := List.mem_singleton.mp hmem
        obtain rfl := Option.some.inj (hnext.symm.trans hnext')
        omega
    · -- The record was at its edge, and its copy is at the high end, so both lie past all others.
      rw [List.pairwise_append]
      refine ⟨hc.pairwise, List.pairwise_singleton _ _, fun c' hmem c'' hmem' => ?_⟩
      rw [List.mem_singleton.mp hmem']
      refine ⟨fun hp => hc.source_lt c' hmem _ (hp ▸ hmoves.edge?_before), fun hp => ?_⟩
      rw [hoffset, ← hp]
      exact hc.position_lt c' hmem next hnext

/-- Others store no copies, and let no high end fall. -/
theorem Copied.around (hc : Copied topology tier g (copies tier (events h))) (o : Outside η) :
    Copied topology tier { g with bus := o.alter g.bus }
      (copies tier (events (h ++ (o.events g.bus).map .told))) := by
  obtain ⟨hcopies, -⟩ := tells_outside o g.bus tier
  rw [events_append, events_told, copies_append, hcopies, List.append_nil]
  refine ⟨hc.source_lt, fun c hmem next hnext => ?_, hc.pairwise⟩
  exact Int.lt_of_lt_of_le (hc.position_lt c hmem next hnext) (o.high_le_high_alter g.bus _ _)

theorem copied_start (ht : Tidy k.republishKey topology tier b g h) (hnothing : ∀ r, .handed r ∉ h) :
    Copied topology tier g (copies tier (events h)) := by
  have hnone : copies tier (events h) = [] :=
    List.eq_nil_iff_forall_not_mem.mpr fun c hc => hnothing c.source (ht.handed_of_copy c hc)
  rw [hnone]
  exact ⟨fun c hc => absurd hc List.not_mem_nil, fun c hc => absurd hc List.not_mem_nil, .nil⟩

end Steps

/-! ## Runs -/

/-- The worker has its partitions, and has handed nothing over yet. -/
def Solo.Fresh {η : Type} (f : Solo η) : Prop :=
  f.scene.consumer.pending = false ∧ ∀ r, .handed r ∉ f.history

/-- All that is known of a worker that has its partitions, from the time when it was fresh. -/
structure Orderly (key : RepublishKey) (topology : Topology) (tier : Tier) (b : Bus) (start : Int → Option Int)
    (g : Sight) (h : List Happening) : Prop where
  tidy : Tidy key topology tier b g h
  given : g.consumer.pending = false
  ordered : Ordered topology tier start g h
  copied : Copied topology tier g (copies tier (events h))

section Runs

variable {key : RepublishKey} {topology : Topology} {tier : Tier} {b : Bus} {start : Int → Option Int}
  {g : Sight} {h : List Happening}

theorem Orderly.inOrder (ho : Orderly key topology tier b start g h) :
    InOrder key topology tier start h where
  never_after := ho.ordered.never_after
  dealt_before := ho.ordered.dealt_before
  copied := ho.tidy.copied
  forwarded := ho.tidy.forwarded
  copied_before := by
    intro x hx y hy hp hlt
    have hpairwise := ho.copied.pairwise
    rw [List.pairwise_iff_forall_sublist] at hpairwise
    rcases pair_sublist_of_mem hx hy with rfl | hxy | hyx
    · exact absurd hlt (Int.lt_irrefl _)
    · exact ⟨hxy, (hpairwise hxy).2⟩
    · have := (hpairwise hyx).1 hp.symm
      omega
  one_partition := by
    intro name hname x hx y hy
    rw [ho.tidy.placed x hx, ho.tidy.placed y hy, hname]
    rfl

end Runs

namespace Handling

variable {η ε : Type} {k : Handling η ε} {topology : Topology} {tier : Tier} {mode : Mode}
  {tick : Text.Duration} {b : Bus} {start : Int → Option Int} {f : Solo η}

theorem orderly_soloPerform (hm : Suits mode f.scene.sweep)
    (ho : Orderly k.republishKey topology tier b start f.sight f.history) {a : SoloAct η}
    (ha : a ≠ .rebalance) :
    Orderly k.republishKey topology tier b start (k.soloPerform topology tier mode tick f a).sight
      (k.soloPerform topology tier mode tick f a).history := by
  cases a with
  | move =>
    obtain ⟨es, hmoved, hes⟩ := exists_moved k topology tier tick hm
    have hordered := ho.ordered.moved ho.tidy ho.given hmoved
    have hcopied := ho.copied.moved ho.tidy ho.given hmoved
    rw [← hes] at hordered hcopied
    exact ⟨tidy_soloPerform hm ho.tidy ha, pending_of_moved hmoved ho.given, hordered, hcopied⟩
  | outside o =>
    exact ⟨tidy_soloPerform hm ho.tidy ha, ho.given,
      ho.ordered.around (o.alter f.scene.bus) f.scene.stopAsked (o.events f.scene.bus), ho.copied.around o⟩
  | askStop =>
    have hordered := ho.ordered.around f.scene.bus true []
    rw [List.map_nil, List.append_nil] at hordered
    exact ⟨tidy_soloPerform hm ho.tidy ha, ho.given, hordered,
      ⟨ho.copied.source_lt, ho.copied.position_lt, ho.copied.pairwise⟩⟩
  | rebalance => exact absurd rfl ha

/-- A record is handed over only by a worker that has its partitions. -/
theorem fresh_of_handed (hm : Suits mode f.scene.sweep)
    (ht : Tidy k.republishKey topology tier b f.sight f.history) (hnothing : ∀ r, .handed r ∉ f.history)
    {a : SoloAct η} (ha : a ≠ .rebalance) {r : ConsumedRecord}
    (hr : .handed r ∈ (k.soloPerform topology tier mode tick f a).history) : f.Fresh := by
  refine ⟨?_, hnothing⟩
  cases a with
  | move =>
    obtain ⟨es, hmoved, hes⟩ := exists_moved k topology tier tick hm
    have hr : .handed r ∈ f.history ++ es := hes ▸ hr
    obtain ⟨-, hjudging, -⟩ := handed_of_moved hmoved ((List.mem_append.mp hr).resolve_left (hnothing r))
    exact ht.given_of_record r (by rw [hjudging]; rfl)
  | outside o => exact absurd ((List.mem_append.mp hr).resolve_left (hnothing r)) (handed_notMem_told _ r)
  | askStop => exact absurd hr (hnothing r)
  | rebalance => exact absurd rfl ha

section Order

variable (k topology tier mode tick b) (name : String) (prior : Sweep) (memory : η) (now : Int)

/-- A worker that has handed a record over was fresh before. -/
theorem exists_fresh (acts : List (SoloAct η)) (hacts : ∀ a ∈ acts, a ≠ .rebalance) {r : ConsumedRecord}
    (hr : .handed r ∈ (k.soloAfter topology tier mode tick b name prior memory now acts).history) :
    ∃ before, before <+: acts ∧
      (k.soloAfter topology tier mode tick b name prior memory now before).Fresh := by
  induction acts using List.reverseRecOn generalizing r with
  | nil => exact absurd hr List.not_mem_nil
  | append_singleton acts a ih =>
    have hacts' : ∀ x ∈ acts, x ≠ .rebalance := fun x hx => hacts x (List.mem_append_left _ hx)
    have hprefix : acts <+: acts ++ [a] := List.prefix_append _ _
    by_cases hearlier :
        ∃ s, .handed s ∈ (k.soloAfter topology tier mode tick b name prior memory now acts).history
    · obtain ⟨s, hs⟩ := hearlier
      obtain ⟨before, hbefore, hfresh⟩ := ih hacts' hs
      exact ⟨before, hbefore.trans hprefix, hfresh⟩
    · have hnothing := not_exists.mp hearlier
      rw [soloAfter_append] at hr
      have ht := tidy_soloAfter k topology tier mode tick b name prior memory now hacts'
      exact ⟨acts, hprefix, fresh_of_handed (suits_soloAfter k tick b name prior memory now acts) ht
        hnothing (hacts a (by simp)) hr⟩

/-- From the time when a worker has its partitions, its history is in order. -/
theorem inOrder_of_fresh {before acts : List (SoloAct η)} (hbefore : before <+: acts)
    (hacts : ∀ a ∈ acts, a ≠ .rebalance)
    (hfresh : (k.soloAfter topology tier mode tick b name prior memory now before).Fresh) :
    InOrder k.republishKey topology tier
      (k.soloAfter topology tier mode tick b name prior memory now before).sight.edge?
      (k.soloAfter topology tier mode tick b name prior memory now acts).history := by
  obtain ⟨after, rfl⟩ := hbefore
  have hbefore : ∀ a ∈ before, a ≠ .rebalance := fun a ha => hacts a (List.mem_append_left _ ha)
  have ht := tidy_soloAfter k topology tier mode tick b name prior memory now hbefore
  have hstart : Orderly k.republishKey topology tier b
      (k.soloAfter topology tier mode tick b name prior memory now before).sight.edge?
      (k.soloAfter topology tier mode tick b name prior memory now before).sight
      (k.soloAfter topology tier mode tick b name prior memory now before).history :=
    ⟨ht, hfresh.1, ordered_start hfresh.2, copied_start ht hfresh.2⟩
  rw [soloAfter_append]
  generalize (k.soloAfter topology tier mode tick b name prior memory now before).sight.edge? = start
    at hstart ⊢
  have hend : Orderly k.republishKey topology tier b start
      (k.soloRun topology tier mode tick (k.soloAfter topology tier mode tick b name prior memory now before)
        after).sight
      (k.soloRun topology tier mode tick (k.soloAfter topology tier mode tick b name prior memory now before)
        after).history :=
    soloRun_induction (P := fun f => Orderly k.republishKey topology tier b start f.sight f.history) after
      (fun _ a ha hm ho => orderly_soloPerform hm ho (hacts a (List.mem_append_right _ ha)))
      (suits_soloAfter k tick b name prior memory now before) hstart
  exact hend.inOrder

/-- **Order within a partition.** Whatever goes on around a worker whose consumer gets its partitions once, from
the time when it has them its history is in order. It hands nothing over before. -/
theorem in_order_after (acts : List (SoloAct η)) (hacts : ∀ a ∈ acts, a ≠ .rebalance) :
    (∀ before, before <+: acts →
      (k.soloAfter topology tier mode tick b name prior memory now before).Fresh →
      InOrder k.republishKey topology tier
        (k.soloAfter topology tier mode tick b name prior memory now before).sight.edge?
        (k.soloAfter topology tier mode tick b name prior memory now acts).history) ∧
      ((∃ r, .handed r ∈ (k.soloAfter topology tier mode tick b name prior memory now acts).history) →
        ∃ before, before <+: acts ∧
          (k.soloAfter topology tier mode tick b name prior memory now before).Fresh) :=
  ⟨fun _ hbefore hfresh => inOrder_of_fresh k topology tier mode tick b name prior memory now hbefore hacts hfresh,
    fun ⟨_, hr⟩ => exists_fresh k topology tier mode tick b name prior memory now acts hacts hr⟩

end Order

/-- The first of two records cannot move on at first, and is read again. Then both move on. -/
def movedOn : List (SoloAct Unit) :=
  [.outside (.publish ⟨"k", [4, 32, 97], "order-received", 0⟩ 1),
    .outside (.publish ⟨"k", [2, 98], "order-received", 0⟩ 1),
    .outside (.setUnavailable "order-received-retry" true)] ++ List.replicate 6 .move ++
    .outside (.setUnavailable "order-received-retry" false) :: List.replicate 12 .move

/-- The worker of the first tier on such a run. -/
def afterOutage (acts : List (SoloAct Unit)) : Solo Unit :=
  refusing.soloAfter .standard .main .feed ⟨0⟩ (.ofPartitions 2) "a" (.start "order-received") () 0 acts

theorem in_order_after_outage :
    (afterOutage movedOn).history.count (.handed ⟨"order-received", "item-handler-order-received", 1, 0,
        some "k", [4, 32, 97], some 0⟩) = 2 ∧
      (copies .main (events (afterOutage movedOn).history)).map (fun c => (c.source.position, c.position)) =
        [(⟨1, 0⟩, ⟨0, 0⟩), (⟨1, 1⟩, ⟨0, 1⟩)] ∧
      InOrder (.retryChannel .standard) .standard .main (afterOutage []).sight.edge?
        (afterOutage movedOn).history := by
  have hfresh : (afterOutage []).Fresh := ⟨by decide +kernel, fun r hr => absurd hr List.not_mem_nil⟩
  have horder := in_order_after refusing .standard .main .feed ⟨0⟩ (.ofPartitions 2) "a"
    (.start "order-received") () 0 movedOn (by simp [movedOn])
  exact ⟨by decide +kernel, by decide +kernel, horder.1 [] List.nil_prefix hfresh⟩

end Handling

end OrderRelay
