import OrderRelay.Proofs.Worker.Lifting
import OrderRelay.Proofs.Worker.Order

/-!
# The records of a loop, one after the other

What a worker processes in the rounds of its loop comes in the order of its moves. So the records of a partition
are processed in the order of their offsets there as well, and one that is read again comes before all after it.

* `Shift`, a worker that goes round by round, with an account of all it has processed, and
  `Handling.shiftPerform`;
* `exists_soloRun_iterateTold`: a round hands over the record that it accounts for;
* `Follows`, a worker by itself that makes the moves of these rounds, with `Follows.perform` and `Follows.run`;
* **`pairwise_shiftRun`**: the order of the accounts.
-/

namespace OrderRelay

/-- A worker by itself between two rounds, with an account of every record that it has processed. -/
structure Shift (η : Type) where
  stage : Stage η
  state : Worker.State
  stop : Option Stop
  accounts : List Account

namespace Handling

variable {η ε : Type} (k : Handling η ε) (topology : Topology) (tier : Tier) (mode : Mode) (tick : Text.Duration)

/-- A worker that is about to start, with a consumer that has just joined on a bus. -/
def shiftOpening (b : Bus) (name : String) (prior : Sweep) (memory : η) (now : Int) : Shift η :=
  let f := k.soloOpening topology tier mode tick b name prior memory now
  ⟨⟨f.scene, f.memory, []⟩, f.stand.state, none, []⟩

/-- The worker after something has happened, where a move is a whole round. -/
def shiftPerform (f : Shift η) : SoloAct η → Shift η
  | .move =>
    match f.stop with
    | some _ => f
    | none =>
      let (((state, stop), account), stage) := (k.worker topology tier mode tick).iterateTold f.state f.stage
      ⟨stage, state, stop, f.accounts ++ account.toList⟩
  | .outside o => { f with stage := f.stage.around o }
  | .askStop => { f with stage := { f.stage with scene := { f.stage.scene with stopAsked := true } } }
  | .rebalance =>
    match f.stop with
    | some _ => f
    | none =>
      let a := f.stage.scene.consumer.rebalance Scene.listener f.stage.scene.bus f.stage.scene.sweep
      { f with
        stage := { f.stage with
          scene := { f.stage.scene with
            consumer := a.consumer, sweep := a.state, entries := f.stage.scene.entries ++ a.entries } } }

/-- The worker after several things have happened, one after the other. -/
def shiftRun (f : Shift η) (acts : List (SoloAct η)) : Shift η :=
  acts.foldl (k.shiftPerform topology tier mode tick) f

/-! ## What the moves of a round tell -/

/-- The last of some moves hands over the record that the worker has in hand then. -/
theorem sublist_soloRun_of_holding {n : Nat} (hn : 0 < n) {f : Solo η} {r : ConsumedRecord}
    (h : (k.soloRun topology tier mode tick f (List.replicate n .move)).stand.point = .inPhase (.holding r)) :
    (f.history ++ [Happening.handed r]).Sublist
      (k.soloRun topology tier mode tick f (List.replicate n .move)).history := by
  cases n with
  | zero => exact absurd hn (Nat.lt_irrefl 0)
  | succ n =>
    obtain ⟨g, hg⟩ : ∃ g, k.soloRun topology tier mode tick f (List.replicate n .move) = g := ⟨_, rfl⟩
    have hlast : k.soloRun topology tier mode tick f (List.replicate (n + 1) .move) =
        k.soloMove topology tier mode tick g := by
      rw [List.replicate_succ', soloRun_append, hg]
      rfl
    have hearlier : f.history <+: g.history := hg ▸ k.prefix_soloRun topology tier mode tick n f
    rw [hlast] at h ⊢
    rw [soloMove_eq rfl] at h ⊢
    have htold : Worker.Point.tidings tier _ = [Happening.handed r] := congrArg (Worker.Point.tidings tier) h
    rw [htold, List.append_assoc g.history]
    exact (hearlier.sublist.trans (List.sublist_append_left _ _)).append_right _

variable {k topology tier mode tick}

/-- A round with a record hands it over in its moves. -/
theorem exists_soloRun_record {f : Solo η} {s s₁ : Worker.State} {x x₁ : Stage η} {r : ConsumedRecord}
    (h : f.Between none s x)
    (hselect : (k.worker topology tier mode tick).select s x = ((s₁, .record r), x₁)) : ∃ n,
      (k.soloRun topology tier mode tick f (List.replicate n .move)).Between
          ((k.worker topology tier mode tick).iterate s x).1.2
          ((k.worker topology tier mode tick).iterate s x).1.1
          ((k.worker topology tier mode tick).iterate s x).2 ∧
        (f.history ++ [Happening.handed r]).Sublist
          (k.soloRun topology tier mode tick f (List.replicate n .move)).history := by
  obtain ⟨m, hm, hfirst⟩ := (k.worker topology tier mode tick).exists_moves_select s x
  obtain ⟨n, hrest⟩ := (k.worker topology tier mode tick).exists_moves_rest_iterate (Worker.advance_ready hselect)
  obtain ⟨hstand, hscene, hmemory⟩ := k.soloRun_moves topology tier mode tick m h.scene_eq h.memory_eq
  rw [hselect] at hfirst
  rw [h.stand_eq, show Worker.Point.after none = .inPhase .ready from rfl, hfirst] at hstand hscene hmemory
  obtain ⟨hstand', hscene', hmemory'⟩ := k.soloRun_moves topology tier mode tick n hscene hmemory
  rw [hstand, hrest] at hstand' hscene' hmemory'
  refine ⟨m + n, ?_⟩
  rw [List.replicate_add, soloRun_append]
  have hhanded := k.sublist_soloRun_of_holding topology tier mode tick hm (f := f) (r := r) (by rw [hstand]; rfl)
  exact ⟨⟨hstand', hscene', hmemory'⟩, hhanded.trans (k.prefix_soloRun topology tier mode tick n _).sublist⟩

/-- A round hands over the record that it accounts for, if there is one. -/
theorem exists_soloRun_iterateTold {f : Solo η} {s : Worker.State} {x : Stage η} (h : f.Between none s x) : ∃ n,
    (k.soloRun topology tier mode tick f (List.replicate n .move)).Between
        ((k.worker topology tier mode tick).iterate s x).1.2
        ((k.worker topology tier mode tick).iterate s x).1.1
        ((k.worker topology tier mode tick).iterate s x).2 ∧
      (f.history ++ ((k.worker topology tier mode tick).iterateTold s x).1.2.toList.map
        fun a => Happening.handed a.record).Sublist
          (k.soloRun topology tier mode tick f (List.replicate n .move)).history := by
  obtain ⟨s₁, found, x₁, hselect⟩ :
      ∃ s₁ found x₁, (k.worker topology tier mode tick).select s x = ((s₁, found), x₁) := ⟨_, _, _, rfl⟩
  obtain ⟨n, -, hround⟩ := k.exists_soloRun_iterate topology tier mode tick h
  have hquiet := (k.prefix_soloRun topology tier mode tick n f).sublist
  cases found with
  | stop why =>
    rw [Worker.iterateTold_of_stop hselect]
    exact ⟨n, hround, by simpa using hquiet⟩
  | nothing =>
    rw [Worker.iterateTold_of_nothing hselect]
    exact ⟨n, hround, by simpa using hquiet⟩
  | record r =>
    obtain ⟨a, rfl, ha⟩ := Worker.exists_account_of_record hselect
    rw [ha]
    exact exists_soloRun_record h hselect

end Handling

/-- The worker by itself `g` has made the moves of the rounds of `f`, and handed over the records of its accounts. -/
structure Shift.Follows {η : Type} (f : Shift η) (g : Solo η) : Prop where
  between : g.Between f.stop f.state f.stage
  handed : (f.accounts.map fun a => Happening.handed a.record).Sublist g.history

namespace Shift.Follows

variable {η ε : Type} {k : Handling η ε} {topology : Topology} {tier : Tier} {mode : Mode} {tick : Text.Duration}
  {f : Shift η} {g : Solo η}

theorem round (h : f.Follows g) (hf : f.stop = none) : ∃ n,
    (k.shiftPerform topology tier mode tick f .move).Follows
      (k.soloRun topology tier mode tick g (List.replicate n .move)) := by
  have hbetween := h.between
  rw [hf] at hbetween
  obtain ⟨n, hround, hhanded⟩ := Handling.exists_soloRun_iterateTold hbetween
  rw [Worker.iterate_eq_iterateTold] at hround
  refine ⟨n, ?_⟩
  simp only [Handling.shiftPerform, hf]
  refine ⟨hround, ?_⟩
  show ((f.accounts ++ _).map _).Sublist _
  rw [List.map_append]
  exact (h.handed.append_right _).trans hhanded

/-- What happens to the rounds of a worker, happens to the worker that makes their moves. -/
theorem perform (h : f.Follows g) (a : SoloAct η) : ∃ steps, (∀ b ∈ steps, b = a) ∧
    (k.shiftPerform topology tier mode tick f a).Follows (k.soloRun topology tier mode tick g steps) := by
  obtain ⟨hstand, hscene, hmemory⟩ := h.between
  cases a with
  | move =>
    cases hf : f.stop with
    | some why =>
      refine ⟨[], fun b hb => absurd hb List.not_mem_nil, ?_⟩
      simp only [Handling.shiftPerform, hf]
      exact h
    | none =>
      obtain ⟨n, hround⟩ := h.round hf
      exact ⟨_, fun b hb => List.eq_of_mem_replicate hb, hround⟩
  | outside o =>
    exact ⟨[.outside o], fun b hb => List.mem_singleton.mp hb, k.between_outside topology tier mode tick h.between o,
      h.handed.trans (List.sublist_append_left _ _)⟩
  | askStop =>
    refine ⟨[.askStop], fun b hb => List.mem_singleton.mp hb, ⟨hstand, ?_, hmemory⟩, h.handed⟩
    show { g.scene with stopAsked := true } = _
    rw [hscene]
    rfl
  | rebalance =>
    refine ⟨[.rebalance], fun b hb => List.mem_singleton.mp hb, ?_⟩
    show Follows _ g.rebalanced
    cases hf : f.stop with
    | some why =>
      have hpoint : g.stand.point ≠ .inPhase .ready := by
        rw [hstand, hf]
        exact nofun
      rw [Solo.rebalanced, if_neg hpoint]
      simp only [Handling.shiftPerform, hf]
      exact h
    | none =>
      have hpoint : g.stand.point = .inPhase .ready := by
        rw [hstand, hf]
        rfl
      rw [Solo.rebalanced, if_pos hpoint]
      simp only [Handling.shiftPerform, hf]
      refine ⟨⟨hf ▸ hstand, ?_, hmemory⟩, h.handed.trans (List.sublist_append_left _ _)⟩
      simp only [hscene]

theorem run (h : f.Follows g) (acts : List (SoloAct η)) : ∃ steps, (∀ b ∈ steps, b ∈ acts) ∧
    (k.shiftRun topology tier mode tick f acts).Follows (k.soloRun topology tier mode tick g steps) := by
  induction acts generalizing f g with
  | nil => exact ⟨[], fun _ hb => hb, h⟩
  | cons a as ih =>
    obtain ⟨first, hfirst, h₁⟩ := h.perform a
    obtain ⟨rest, hrest, h₂⟩ := ih h₁
    refine ⟨first ++ rest, fun b hb => ?_, ?_⟩
    · rcases List.mem_append.mp hb with hb | hb
      · exact hfirst b hb ▸ List.mem_cons_self
      · exact List.mem_cons_of_mem _ (hrest b hb)
    · rw [Handling.soloRun_append]
      exact h₂

end Shift.Follows

namespace Handling

variable {η ε : Type} (k : Handling η ε) (topology : Topology) (tier : Tier) (mode : Mode) (tick : Text.Duration)
  (b : Bus) (name : String) (prior : Sweep) (memory : η) (now : Int)

/-- **Order within a partition, round by round.** The records of a partition that a worker processes come in the
order of their offsets, whatever happens between its rounds. -/
theorem pairwise_shiftRun (acts : List (SoloAct η)) (hacts : ∀ a ∈ acts, a ≠ .rebalance) :
    (k.shiftRun topology tier mode tick (k.shiftOpening topology tier mode tick b name prior memory now)
      acts).accounts.Pairwise fun a c =>
        a.record.partition = c.record.partition → a.record.offset ≤ c.record.offset := by
  have hopening : (k.shiftOpening topology tier mode tick b name prior memory now).Follows
      (k.soloOpening topology tier mode tick b name prior memory now) := ⟨⟨rfl, rfl, rfl⟩, List.Sublist.refl []⟩
  obtain ⟨steps, hsteps, hfollows⟩ := hopening.run (k := k) acts
  have hsteps' : ∀ a ∈ steps, a ≠ .rebalance := fun a ha => hacts a (hsteps a ha)
  rw [List.pairwise_iff_forall_sublist]
  intro a c hac hp
  have hhanded := (hac.map fun a => Happening.handed a.record).trans hfollows.handed
  obtain ⟨xs, ys, hhistory, ha, hc⟩ := List.cons_sublist_iff.mp hhanded
  obtain ⟨before, hbefore, hfresh⟩ := exists_fresh k topology tier mode tick b name prior memory now steps hsteps'
    (hhanded.subset List.mem_cons_self)
  have horder := inOrder_of_fresh k topology tier mode tick b name prior memory now hbefore hsteps' hfresh
  obtain ⟨xs₁, xs₂, rfl⟩ := List.append_of_mem ha
  exact horder.never_after xs₁ a.record (xs₂ ++ ys) c.record (hhistory.trans (List.append_assoc ..))
    (List.mem_append_right _ (List.singleton_sublist.mp hc)) hp.symm

end Handling

end OrderRelay
