import OrderRelay.Proofs.Recovery.Ending
import OrderRelay.Proofs.Worker.Lifting

/-!
# The loop of a sweep

Round by round, the loop of a worker that sweeps the last tier comes to its end as the moves of its rounds do. A
round that is followed by another one has asked for a record. So there are at most as many rounds as there are
unread offsets and open windows, and one more, in which the worker leaves its loop.

* `Going.polls_lt`: a round that is followed by another one asks for a record;
* `Tracks`, a worker by itself that makes the moves of a sweep, with `Tracks.perform` and `Tracks.run`;
* **`sweepRun_ends`**: how many rounds there are at most, with anything between them that is calm;
* `loop_eq_sweepRun`, and **`loop_ends`**: the same of the loop alone.
-/

namespace OrderRelay

/-! ## The moves of a round -/

/-- A worker that looks for a reason to stop finds one, or asks for a record next. -/
theorem point_of_ready {η ε : Type} {k : Handling η ε} {topology : Topology} {tier : Tier} {g g' : Sight}
    {es : List Happening} (hm : Moved k topology tier g g' es) (hready : g.point = .inPhase .ready) :
    g'.point = .polling ∨ g'.point.Stopped := by
  cases hm with
  | asked | ended => exact .inr ⟨_, rfl⟩
  | entered | passed => exact .inl rfl
  | read h | empty h | taken h | held h | strange h | looked h | glanced h | turned h | evaluated h | finished h
  | stored h | refused h | committed h | rewound h | stopped h => exact nomatch hready.symm.trans h

section Moves

variable {η ε : Type} (k : Handling η ε) {topology : Topology} (tick : Text.Duration) {f : Solo η}

variable (topology) in
theorem polls_le_soloMove (f : Solo η) :
    polls f.history + (if f.stand.point = .polling then 1 else 0) ≤
      polls (k.soloMove topology .error .recovery tick f).history := by
  have hasking : f.asking.countP Happening.isPoll = if f.stand.point = .polling then 1 else 0 := by
    unfold Solo.asking
    split <;> rfl
  rw [Handling.soloMove_eq rfl, polls_append, polls_append, polls_append, hasking]
  omega

variable (topology) in
theorem polls_le_soloRun (f : Solo η) (n : Nat) :
    polls f.history ≤ polls (k.soloRun topology .error .recovery tick f (List.replicate n .move)).history :=
  (k.prefix_soloRun topology .error .recovery tick n f).sublist.countP_le

theorem calm_of_mem_replicate {channel : String} {n : Nat} (a : SoloAct η)
    (ha : a ∈ List.replicate n SoloAct.move) : a.Calm channel := by
  obtain ⟨-, rfl⟩ := List.mem_replicate.mp ha
  trivial

/-- A round that is followed by another one has asked for a record. -/
theorem Going.polls_lt (hg : Going topology f) (hgiven : f.scene.consumer.pending = false)
    (hfailing : f.scene.bus.failing (topology.channelName .error) = false)
    (hready : f.stand.point = .inPhase .ready) {n : Nat} (hn : 0 < n)
    (hend : (k.soloRun topology .error .recovery tick f (List.replicate n .move)).stand.point =
      .inPhase .ready) :
    polls f.history < polls (k.soloRun topology .error .recovery tick f (List.replicate n .move)).history := by
  obtain ⟨n, rfl⟩ := Nat.exists_eq_add_one_of_ne_zero hn.ne'
  obtain ⟨f₁, hf₁⟩ : ∃ f₁, k.soloMove topology .error .recovery tick f = f₁ := ⟨_, rfl⟩
  have hsplit : k.soloRun topology .error .recovery tick f (List.replicate (n + 1) .move) =
      k.soloRun topology .error .recovery tick f₁ (List.replicate n .move) := by
    rw [← hf₁]
    rfl
  have hfirst := polls_le_soloMove k topology tick f
  obtain ⟨sweep, hs⟩ := hg.exists_sweep
  obtain ⟨es, hmoved, -⟩ := Handling.exists_moved k topology .error tick
    (show Handling.Suits .recovery f.scene.sweep from ⟨sweep, hs⟩)
  rw [hsplit] at hend ⊢
  rw [hf₁] at hfirst hmoved
  rcases point_of_ready hmoved hready with hpolling | hstopped
  · have hpolling : f₁.stand.point = .polling := hpolling
    cases n with
    | zero => exact nomatch hpolling.symm.trans hend
    | succ n =>
      have hasked := polls_le_soloMove k topology tick f₁
      rw [if_pos hpolling] at hasked
      have hrest := polls_le_soloRun k topology tick (k.soloMove topology .error .recovery tick f₁) n
      exact Nat.lt_of_lt_of_le (by omega) hrest
  · -- A worker that has left its loop does not come back.
    have hcalm : (SoloAct.move : SoloAct η).Calm (topology.channelName .error) := trivial
    obtain ⟨hgiven₁, hfailing₁, -⟩ := hg.closer k tick hgiven hfailing hcalm
    have hg₁ : Going topology (k.soloPerform topology .error .recovery tick f .move) := hg.perform hcalm.steady
    rw [Handling.soloPerform, hf₁] at hgiven₁ hfailing₁ hg₁
    obtain ⟨-, -, hcloser⟩ := hg₁.closer_run k tick hgiven₁ hfailing₁ (calm_of_mem_replicate (n := n))
    obtain ⟨why, hwhy⟩ := hcloser.stays hstopped
    exact nomatch hwhy.symm.trans hend

end Moves

/-! ## The rounds of a sweep -/

namespace SweepAct

variable {η : Type}

/-- The worker is not asked to stop, and the low ends of a channel do not begin to fail. -/
def Calm (channel : String) : SweepAct η → Prop
  | round => True
  | outside o => (SoloAct.outside o).Calm channel
  | askStop => False

/-- The worker goes a round. -/
def isRound : SweepAct η → Bool
  | round => true
  | _ => false

end SweepAct

/-- The worker by itself `g` has made the moves of the sweep `f`. If the worker has not left its loop, what is
left to do and the rounds so far come to `total` at most. -/
structure Tracks {η : Type} (topology : Topology) (total rounds : Nat) (f : SweepRun η) (g : Solo η) : Prop where
  between : g.Between f.stopped f.state f.stage
  going : Going topology g
  given : g.scene.consumer.pending = false
  answers : g.scene.bus.failing (topology.channelName .error) = false
  complete : ∀ why, f.stopped = some why → why = .sweepComplete
  backlog_add : f.stopped = none → g.sight.backlog + rounds ≤ total

namespace Tracks

variable {η ε : Type} (k : Handling η ε) {topology : Topology} (tick : Text.Duration) {f : SweepRun η}
  {g : Solo η} {total rounds : Nat}

theorem round (h : Tracks topology total rounds f g) (hf : f.stopped = none) :
    ∃ g', Tracks topology total (rounds + 1) (k.sweepPerform topology tick f .round) g' := by
  have hbetween := h.between
  rw [hf] at hbetween
  obtain ⟨n, hn, hround⟩ := k.exists_soloRun_iterate topology .error .recovery tick hbetween
  have hcalm : ∀ a ∈ List.replicate n (SoloAct.move : SoloAct η), a.Calm (topology.channelName .error) :=
    calm_of_mem_replicate
  obtain ⟨hgiven, hanswers, hcloser⟩ := h.going.closer_run k tick h.given h.answers hcalm
  have hends : Ends _ g (k.soloRun topology .error .recovery tick g (List.replicate n .move)) :=
    h.going.ends h.given h.answers hcalm
  have hgoing : Going topology (k.soloRun topology .error .recovery tick g (List.replicate n .move)) :=
    h.going.run fun a ha => (hcalm a ha).steady
  have hround : (k.soloRun topology .error .recovery tick g (List.replicate n .move)).Between
      (k.sweepPerform topology tick f .round).stopped (k.sweepPerform topology tick f .round).state
      (k.sweepPerform topology tick f .round).stage := by
    rw [Worker.iterate_eq_iterateTold] at hround
    simp only [Handling.sweepPerform, hf]
    exact hround
  refine ⟨_, hround, hgoing, hgiven, hanswers, fun why hwhy => ?_, fun hnone => ?_⟩
  · refine hends.complete_of_stopped why ?_
    rw [hround.stand_eq, hwhy]
    rfl
  · have hend : (k.soloRun topology .error .recovery tick g (List.replicate n .move)).stand.point =
        .inPhase .ready := by
      rw [hround.stand_eq, hnone]
      rfl
    have hready : g.stand.point = .inPhase .ready := by
      rw [hbetween.stand_eq]
      rfl
    have hless := h.going.polls_lt k tick h.given h.answers hready hn hend
    have hbacklog := h.backlog_add hf
    have := hcloser.polls_add
    omega

/-- What happens to a sweep, the worker by itself goes along with. -/
theorem perform (h : Tracks topology total rounds f g) {a : SweepAct η}
    (ha : a.Calm (topology.channelName .error)) :
    ∃ g', Tracks topology total (rounds + if a.isRound then 1 else 0) (k.sweepPerform topology tick f a) g' := by
  cases hf : f.stopped with
  | some why =>
    have heq : k.sweepPerform topology tick f a = f := by simp only [Handling.sweepPerform, hf]
    rw [heq]
    exact ⟨g, { h with backlog_add := fun hnone => absurd hnone (hf ▸ Option.some_ne_none why) }⟩
  | none =>
    cases a with
    | round => exact h.round k tick hf
    | askStop => exact ha.elim
    | outside o =>
      have ha : (SoloAct.outside o).Calm (topology.channelName .error) := ha
      obtain ⟨hgiven, hanswers, hcloser⟩ := h.going.closer k tick h.given h.answers ha
      have heq : k.sweepPerform topology tick f (.outside o) =
          { f with
            stage := f.stage.around o
            history := f.history ++ o.events f.stage.scene.bus } := by
        simp only [Handling.sweepPerform, hf]
        rfl
      rw [heq]
      refine ⟨k.soloPerform topology .error .recovery tick g (.outside o),
        k.between_outside topology .error .recovery tick h.between o, h.going.perform ha.steady, hgiven, hanswers,
        h.complete, fun _ => ?_⟩
      have hbacklog := h.backlog_add hf
      have hpolls : polls (k.soloPerform topology .error .recovery tick g (.outside o)).history =
          polls g.history := polls_told _ _
      have := hcloser.polls_add
      show _ + (rounds + 0) ≤ total
      omega

theorem run (h : Tracks topology total rounds f g) {acts : List (SweepAct η)}
    (hacts : ∀ a ∈ acts, a.Calm (topology.channelName .error)) :
    ∃ g', Tracks topology total (rounds + acts.countP SweepAct.isRound) (k.sweepRun topology tick f acts) g' := by
  induction acts generalizing f g rounds with
  | nil => exact ⟨g, h⟩
  | cons a as ih =>
    obtain ⟨g₁, h₁⟩ := h.perform k tick (hacts a List.mem_cons_self)
    obtain ⟨g₂, h₂⟩ := ih h₁ fun b hb => hacts b (List.mem_cons_of_mem a hb)
    refine ⟨g₂, ?_⟩
    rw [List.countP_cons, Nat.add_comm (as.countP _), ← Nat.add_assoc]
    exact h₂

/-- A sweep leaves its loop because it is complete, and does so if there are more rounds than `total`. -/
theorem ended (h : Tracks topology total rounds f g) :
    (∀ why, f.stopped = some why → why = .sweepComplete) ∧
      (total < rounds → f.stopped = some .sweepComplete) := by
  refine ⟨h.complete, fun hlt => ?_⟩
  cases hf : f.stopped with
  | none =>
    have := h.backlog_add hf
    omega
  | some why => rw [h.complete why hf]

end Tracks

section Rounds

variable {η ε : Type} (k : Handling η ε) (topology : Topology) (tick : Text.Duration) (b : Bus) (name : String)
  (prior : Sweep) (memory : η) (now : Int)

/-- **The rounds of a sweep.** Let the consumer of a worker of the last tier have got its partitions as it joined.
Whatever is published between the rounds, and whatever retention removes, the worker leaves its loop because the
sweep is complete, after at most one round more than there were unread offsets and open windows. -/
theorem sweepRun_ends (acts : List (SweepAct η))
    (hknows : (k.soloOpening topology .error .recovery tick b name prior memory now).Knows)
    (hgiven : (k.soloOpening topology .error .recovery tick b name prior memory now).scene.consumer.pending =
      false)
    (hfailing : b.failing (topology.channelName .error) = false)
    (hacts : ∀ a ∈ acts, a.Calm (topology.channelName .error)) :
    (∀ why, (k.sweepRun topology tick (k.sweepOpening topology tick b name prior memory now) acts).stopped =
        some why → why = .sweepComplete) ∧
      ((k.soloOpening topology .error .recovery tick b name prior memory now).unread +
          (k.soloOpening topology .error .recovery tick b name prior memory now).openWindows <
            acts.countP SweepAct.isRound →
        (k.sweepRun topology tick (k.sweepOpening topology tick b name prior memory now) acts).stopped =
          some .sweepComplete) := by
  have hopening : Tracks topology _ 0 (k.sweepOpening topology tick b name prior memory now)
      (k.soloOpening topology .error .recovery tick b name prior memory now) :=
    ⟨⟨rfl, rfl, rfl⟩, going_opening k hknows, hgiven, hfailing, nofun, fun _ => Solo.backlog_le _⟩
  obtain ⟨g, h⟩ := hopening.run k tick hacts
  rw [Nat.zero_add] at h
  exact h.ended

/-! ## The loop alone -/

variable {k topology tick} in
theorem sweepRun_of_stopped {f : SweepRun η} {why : Stop} (hf : f.stopped = some why) (acts : List (SweepAct η)) :
    k.sweepRun topology tick f acts = f := by
  induction acts with
  | nil => rfl
  | cons a as ih =>
    have hperform : k.sweepPerform topology tick f a = f := by simp only [Handling.sweepPerform, hf]
    exact (congrArg (fun f => k.sweepRun topology tick f as) hperform).trans ih

/-- The loop goes the rounds of a sweep to which nothing else happens. -/
theorem loop_eq_sweepRun (n : Nat) {f : SweepRun η} (hf : f.stopped = none) :
    (k.sweeper topology tick).loop n f.state f.stage =
      (((k.sweepRun topology tick f (List.replicate n .round)).state,
          (k.sweepRun topology tick f (List.replicate n .round)).stopped),
        (k.sweepRun topology tick f (List.replicate n .round)).stage) := by
  induction n generalizing f with
  | zero => exact congrArg (fun stopped => ((f.state, stopped), f.stage)) hf.symm
  | succ n ih =>
    obtain ⟨s, stopped, account, x, htold⟩ : ∃ s stopped account x,
        (k.sweeper topology tick).iterateTold f.state f.stage = (((s, stopped), account), x) := ⟨_, _, _, _, rfl⟩
    have hiterate := (k.sweeper topology tick).iterate_eq_iterateTold f.state f.stage
    rw [htold] at hiterate
    have hperform : k.sweepPerform topology tick f .round =
        ⟨x, s, stopped, f.accounts ++ account.toList, f.history⟩ := by
      simp only [Handling.sweepPerform, hf, htold]
    have hrun : k.sweepRun topology tick f (List.replicate (n + 1) .round) =
        k.sweepRun topology tick ⟨x, s, stopped, f.accounts ++ account.toList, f.history⟩
          (List.replicate n .round) := by
      rw [← hperform]
      rfl
    rw [hrun]
    cases stopped with
    | some why =>
      rw [sweepRun_of_stopped rfl]
      simp only [Worker.loop, bind, StateT.bind, hiterate]
      rfl
    | none =>
      rw [← ih rfl]
      simp only [Worker.loop, bind, StateT.bind, hiterate]

/-- **The loop of a sweep ends** after at most one round more than there were unread offsets and open windows. -/
theorem loop_ends (n : Nat)
    (hknows : (k.soloOpening topology .error .recovery tick b name prior memory now).Knows)
    (hgiven : (k.soloOpening topology .error .recovery tick b name prior memory now).scene.consumer.pending =
      false)
    (hfailing : b.failing (topology.channelName .error) = false)
    (hn : (k.soloOpening topology .error .recovery tick b name prior memory now).unread +
      (k.soloOpening topology .error .recovery tick b name prior memory now).openWindows < n) :
    ((k.sweeper topology tick).loop n (k.sweeper topology tick).start
      (k.sweepOpening topology tick b name prior memory now).stage).1.2 = some .sweepComplete := by
  have hloop := loop_eq_sweepRun k topology tick n (f := k.sweepOpening topology tick b name prior memory now) rfl
  have hrounds := sweepRun_ends k topology tick b name prior memory now (List.replicate n .round) hknows hgiven
    hfailing fun a ha => by
      obtain ⟨-, rfl⟩ := List.mem_replicate.mp ha
      trivial
  rw [show (k.sweeper topology tick).start =
    (k.sweepOpening topology tick b name prior memory now).state from rfl, hloop]
  refine hrounds.2 ?_
  rw [List.countP_replicate]
  exact hn

/-- Two unread records on one partition take at most four rounds. -/
example : ((Handling.accepting.sweeper .standard ⟨0⟩).loop 4 (Handling.accepting.sweeper .standard ⟨0⟩).start
    (Handling.accepting.sweepOpening .standard ⟨0⟩ threeFailed "a" (.start "order-received-error") ()
      0).stage).1.2 = some .sweepComplete :=
  loop_ends .accepting .standard ⟨0⟩ threeFailed "a" (.start "order-received-error") () 0 4
    (Handling.knows_soloOpening .accepting .standard .error ⟨0⟩ threeFailed "a" () 0) (by decide +kernel)
    (by decide +kernel) (by decide +kernel)

end Rounds

end OrderRelay
