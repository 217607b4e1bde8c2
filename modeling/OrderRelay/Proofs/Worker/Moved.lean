import OrderRelay.Proofs.Worker.Solo

/-!
# The moves of a worker by itself

What `Moved` allows is all that a move can do, at every point of a round, with a sweep or without.

* `moves_ready`, `moves_polling` and others: the moves at each point, and **`exists_moved`**, all of them;
* `soloRun_induction`: what holds at first and is kept by every act holds in the end.
-/

namespace OrderRelay

namespace Handling

variable {η ε : Type} {k : Handling η ε} {topology : Topology} {tier : Tier} {mode : Mode}
  {tick : Text.Duration} {f : Solo η}

/-- The worker has a sweep exactly if this is its mode. -/
def Suits (mode : Mode) (sweep : Option Sweep) : Prop :=
  match mode with
  | .feed => sweep = none
  | .recovery => ∃ s, sweep = some s

/-- What is to be shown of a move. -/
def Moves (k : Handling η ε) (topology : Topology) (tier : Tier) (f f' : Solo η) : Prop :=
  ∃ es, Moved k topology tier f.sight f'.sight es ∧ f'.history = f.history ++ es

section Moving

variable {stand : Worker.Stand} {x : Stage η}

theorem soloMove_eq
    (h : (k.worker topology tier mode tick).move f.stand ⟨f.scene, f.memory, []⟩ = (stand, x)) :
    k.soloMove topology tier mode tick f = ⟨x.scene, x.memory, stand, f.history ++ f.asking ++
      x.deeds.map (fun d => .told (d.event tier f.stand.point.record?)) ++ stand.point.tidings tier⟩ := by
  simp only [soloMove, h]

theorem moves_of_move {es : List Happening}
    (h : (k.worker topology tier mode tick).move f.stand ⟨f.scene, f.memory, []⟩ = (stand, x))
    (hm : Moved k topology tier f.sight
      ⟨x.scene.bus, x.scene.sweep, x.scene.consumer, stand.state.paused, x.scene.stopAsked, stand.point⟩ es)
    (hes : f.asking ++ x.deeds.map (fun d => .told (d.event tier f.stand.point.record?)) ++
      stand.point.tidings tier = es) :
    Moves k topology tier f (k.soloMove topology tier mode tick f) := by
  rw [soloMove_eq h]
  refine ⟨es, hm, ?_⟩
  rw [← hes, List.append_assoc, List.append_assoc, List.append_assoc]

end Moving

section Points

variable {scene : Scene} {memory : η} {state : Worker.State} {history : List Happening}

variable (k topology tier tick) in
theorem moves_ready (hm : Suits mode scene.sweep) :
    Moves k topology tier ⟨scene, memory, ⟨.inPhase .ready, state⟩, history⟩
      (k.soloMove topology tier mode tick ⟨scene, memory, ⟨.inPhase .ready, state⟩, history⟩) := by
  let x : Stage η := ⟨scene, memory, []⟩
  cases hasked : scene.stopAsked with
  | true =>
    have hs : (k.worker topology tier mode tick).stopRequested x =
        (true, { x with scene := { scene with stopAsked := false } }) := by
      show (scene.stopAsked, _) = _
      rw [hasked]
    exact moves_of_move (Worker.move_of_asked hs) (.asked rfl hasked) rfl
  | false =>
    have hs : (k.worker topology tier mode tick).stopRequested x = (false, x) :=
      stopRequested_eq k topology tier tick mode hasked
    cases mode with
    | feed =>
      have hd : (k.worker topology tier .feed tick).pauseDrained state x = ((state, false), x) := rfl
      exact moves_of_move (Worker.move_of_incomplete hs hd) (.passed rfl hm) rfl
    | recovery =>
      obtain ⟨sweep, hsweep⟩ := hm
      obtain ⟨own, c, hpause, hhalted⟩ :=
        exists_pauseDrained_halted k topology tier tick state (x := x) hsweep
      cases hcomplete : sweep.isComplete with
      | true =>
        rw [hcomplete] at hpause
        exact moves_of_move (Worker.move_of_complete hs hpause rfl) (.ended rfl hsweep hcomplete hhalted) rfl
      | false =>
        rw [hcomplete] at hpause
        exact moves_of_move (Worker.move_of_incomplete hs hpause) (.entered rfl hsweep hcomplete hhalted) rfl

theorem unread_eq (k : Handling η ε) {x : Stage η} (hm : Suits mode x.scene.sweep) :
    (k.worker topology tier mode tick).unread x = (pendingOf x.scene.sweep, x) := by
  cases mode with
  | feed =>
    have hsweep : x.scene.sweep = none := hm
    rw [hsweep]
    rfl
  | recovery =>
    obtain ⟨sweep, hsweep⟩ := hm
    simp only [Worker.unread, recovery_eq, bind, StateT.bind, read_sweepCell topology tier hsweep, hsweep]
    rfl

theorem suits_assign {sweep : Option Sweep} (hm : Suits mode sweep) (b : Bus) (c : Consumer) :
    Suits mode (c.assign Scene.listener b sweep).state := by
  rw [(Consumer.assign_eq Scene.listener b c sweep).1]
  cases mode with
  | feed =>
    have hnone : sweep = none := hm
    rw [hnone]
    rfl
  | recovery =>
    obtain ⟨s, hs⟩ := hm
    rw [hs]
    exact ⟨_, rfl⟩

variable (k topology tier tick) in
theorem moves_polling (hm : Suits mode scene.sweep) :
    Moves k topology tier ⟨scene, memory, ⟨.polling, state⟩, history⟩
      (k.soloMove topology tier mode tick ⟨scene, memory, ⟨.polling, state⟩, history⟩) := by
  let g : Sight := Solo.sight (⟨scene, memory, ⟨.polling, state⟩, history⟩ : Solo η)
  let a : Assigned (Option Sweep) :=
    if scene.consumer.pending then scene.consumer.assign Scene.listener scene.bus scene.sweep
    else ⟨scene.consumer, scene.sweep, []⟩
  have harrived : g.arrived = { g with consumer := a.consumer, sweep := a.state } := by
    simp only [Sight.arrived, a, g, Solo.sight]
    cases scene.consumer.pending <;> rfl
  have hsuits : Suits mode a.state := by
    simp only [a]
    split
    · exact suits_assign hm _ _
    · exact hm
  let after (c : Consumer) : Stage η :=
    ⟨{ scene with consumer := c, sweep := a.state, entries := scene.entries ++ a.entries }, memory, []⟩
  have hpoll {answer : Option ConsumedRecord} {c : Consumer}
      (h : scene.consumer.poll Scene.listener scene.bus scene.sweep = (answer, { a with consumer := c })) :
      (k.worker topology tier mode tick).consumer.poll (k.worker topology tier mode tick).tick
        ⟨scene, memory, []⟩ = (.ok answer, after c) := by
    have hscene : Scene.poll scene = (answer, (after c).scene) := by
      simp only [Scene.poll, h]
      rfl
    have hstage : (k.worker topology tier mode tick).consumer.poll (k.worker topology tier mode tick).tick
        ⟨scene, memory, []⟩ = (.ok (Scene.poll scene).1, ⟨(Scene.poll scene).2, memory, []⟩) := rfl
    rw [hstage, hscene]
  have hempty (h : scene.consumer.poll Scene.listener scene.bus scene.sweep = (none, a))
      (hn : a.consumer.pending = false → a.consumer.next? scene.bus = none) :
      Moves k topology tier ⟨scene, memory, ⟨.polling, state⟩, history⟩
        (k.soloMove topology tier mode tick ⟨scene, memory, ⟨.polling, state⟩, history⟩) := by
    have hmoved : Moved k topology tier g _ _ := .empty rfl (by rw [harrived]; exact hn)
    rw [harrived] at hmoved
    exact moves_of_move (Worker.move_of_none (hpoll (c := a.consumer) h) (unread_eq k hsuits)) hmoved rfl
  cases hpending : a.consumer.pending with
  | true =>
    refine hempty (if_pos hpending) fun h => ?_
    cases hpending.symm.trans h
  | false =>
    have hgiven : ¬ a.consumer.pending = true := by
      rw [hpending]
      exact Bool.false_ne_true
    cases hn : a.consumer.next? scene.bus with
    | none =>
      refine hempty ((if_neg hgiven).trans ?_) fun _ => hn
      rw [hn]
    | some e =>
      obtain ⟨r, c⟩ := e
      have hnext : scene.consumer.poll Scene.listener scene.bus scene.sweep =
          (some r, { a with consumer := c }) := by
        refine (if_neg hgiven).trans ?_
        rw [hn]
      have hmoved : Moved k topology tier g _ _ :=
        .read rfl (by rw [harrived]; exact hpending) (by rw [harrived]; exact Consumer.next?_eq_some hn)
      rw [harrived] at hmoved
      exact moves_of_move (Worker.move_of_some (hpoll hnext)) hmoved rfl

variable (k topology tier tick) in
theorem moves_judging (hm : Suits mode scene.sweep) (r : ConsumedRecord) :
    Moves k topology tier ⟨scene, memory, ⟨.judging r, state⟩, history⟩
      (k.soloMove topology tier mode tick ⟨scene, memory, ⟨.judging r, state⟩, history⟩) := by
  let x : Stage η := ⟨scene, memory, []⟩
  cases mode with
  | feed =>
    have ht : (k.worker topology tier .feed tick).takeUp state r x = ((state, .record r), x) := rfl
    have hnone (sweep : Sweep) (h : scene.sweep = some sweep) : False := nomatch hm.symm.trans h
    exact moves_of_move (Worker.move_judging ht) (.taken rfl fun sweep h => (hnone sweep h).elim) rfl
  | recovery =>
    obtain ⟨sweep, hsweep⟩ := hm
    cases hw : sweep.windows.get? r.partition with
    | none =>
      obtain ⟨stats, entries, ht⟩ := takeUp_unassigned k topology tier tick (s := state) (x := x) hsweep hw
      exact moves_of_move (Worker.move_judging ht) (.strange rfl hsweep hw) rfl
    | some w =>
      by_cases hin : w.drained = false ∧ r.offset ≤ w.last
      · have ht := takeUp_process k topology tier tick (s := state) (x := x) hsweep hw hin.1 hin.2
        refine moves_of_move (Worker.move_judging ht) (.taken rfl fun sweep' h => ?_) rfl
        obtain rfl := Option.some.inj (hsweep.symm.trans h)
        exact ⟨w, hw, hin⟩
      · have hpast : w.drained = true ∨ w.last < r.offset := by
          cases hd : w.drained with
          | true => exact .inl rfl
          | false => exact .inr (Int.not_le.mp fun ho => hin ⟨hd, ho⟩)
        obtain ⟨s', own, c, entries, ht, rfl, hhalted⟩ :=
          exists_takeUp_drained k topology tier tick (s := state) (x := x) hsweep hw hpast
        exact moves_of_move (Worker.move_judging ht) (.held rfl hsweep hw hpast hhalted) rfl

variable (k topology tier tick) in
theorem moves_looking (hm : Suits mode scene.sweep) (ps : List Int) :
    Moves k topology tier ⟨scene, memory, ⟨.looking ps, state⟩, history⟩
      (k.soloMove topology tier mode tick ⟨scene, memory, ⟨.looking ps, state⟩, history⟩) := by
  let x : Stage η := ⟨scene, memory, []⟩
  cases ps with
  | nil =>
    have h : (k.worker topology tier mode tick).move ⟨.looking [], state⟩ x = (⟨.inPhase .ready, state⟩, x) :=
      rfl
    exact moves_of_move h (.turned rfl) rfl
  | cons p ps =>
    cases mode with
    | feed =>
      have hl : (k.worker topology tier .feed tick).look p x = ((), x) := rfl
      exact moves_of_move (Worker.move_looking hl) (.glanced rfl hm) rfl
    | recovery =>
      obtain ⟨sweep, hsweep⟩ := hm
      obtain ⟨entries, hl⟩ := exists_look k topology tier tick (x := x) hsweep p
      exact moves_of_move (Worker.move_looking hl) (.looked rfl hsweep) rfl

variable (k topology tier mode tick) in
theorem moves_holding (r : ConsumedRecord) :
    Moves k topology tier ⟨scene, memory, ⟨.inPhase (.holding r), state⟩, history⟩
      (k.soloMove topology tier mode tick ⟨scene, memory, ⟨.inPhase (.holding r), state⟩, history⟩) := by
  obtain ⟨event, outcome, memory', entries, he⟩ := exists_evaluate k topology tier ⟨scene, memory, []⟩ r
  have ha := Worker.advance_holding (w := k.worker topology tier mode tick) (s := state) he
  exact moves_of_move (Worker.move_inPhase ha nofun) (.evaluated rfl) rfl

variable (k topology tier mode tick) in
theorem moves_handled (r : ConsumedRecord) (event : Option OrderReceived) (outcome : Outcome) :
    Moves k topology tier ⟨scene, memory, ⟨.inPhase (.handled r event outcome), state⟩, history⟩
      (k.soloMove topology tier mode tick
        ⟨scene, memory, ⟨.inPhase (.handled r event outcome), state⟩, history⟩) := by
  let x : Stage η := ⟨scene, memory, []⟩
  have hmove {resolution : Resolution} {y : Stage η}
      (h : (k.processor topology tier).carryOut ((k.processor topology tier).plan r (event, outcome)) x =
        (resolution, y)) :
      (k.worker topology tier mode tick).move ⟨.inPhase (.handled r event outcome), state⟩ x =
        (⟨.inPhase (.resolved r ((event.map (·.referenceUri)).getD "") resolution), state⟩, y) := by
    have ha := Worker.advance_handled (w := k.worker topology tier mode tick) (s := state) h
    exact Worker.move_inPhase ha nofun
  cases hplan : (k.processor topology tier).plan r (event, outcome) with
  | finish resolution =>
    have h := carryOut_finish k topology tier x resolution
    rw [← hplan] at h
    exact moves_of_move (hmove h) (.finished rfl hplan) rfl
  | escalate next key payload =>
    cases hpub : scene.bus.publish ⟨key, payload, topology.channelName next, scene.now⟩ with
    | ok v =>
      have h := carryOut_of_published k topology tier (x := x) hpub
      rw [← hplan] at h
      exact moves_of_move (hmove h) (.stored rfl hplan hpub) rfl
    | error err =>
      have h := carryOut_of_not_published k topology tier (x := x) hpub
      rw [← hplan] at h
      exact moves_of_move (hmove h) (.refused rfl hplan) rfl

variable (k topology tier tick) in
theorem exists_conclude_of_suits {x : Stage η} (hm : Suits mode x.scene.sweep) (s : Worker.State)
    (r : ConsumedRecord) (resolution : Resolution) : ∃ stats entries,
    (k.worker topology tier mode tick).conclude s r resolution x =
      ({ s with stats }, { x with scene := { x.scene with
        sweep := if resolution.isSettled then x.scene.sweep.map (·.hear (.settled r.partition r.offset))
          else x.scene.sweep
        entries } }) := by
  cases mode with
  | feed =>
    have hsweep : x.scene.sweep = none := hm
    refine ⟨s.stats.count resolution, x.scene.entries, ?_⟩
    rw [Worker.conclude_of_no_sweep rfl, hsweep, Option.map_none, ite_self, ← hsweep]
    rfl
  | recovery =>
    obtain ⟨sweep, hsweep⟩ := hm
    obtain ⟨stats, entries, h⟩ := exists_conclude_of_sweep k topology tier tick s hsweep r resolution
    refine ⟨stats, entries, h.trans ?_⟩
    rw [hsweep, Option.map_some]
    cases resolution.isSettled <;> rfl

variable (k topology tier tick) in
theorem moves_resolved (hm : Suits mode scene.sweep) (r : ConsumedRecord) (reference : String)
    (resolution : Resolution) :
    Moves k topology tier ⟨scene, memory, ⟨.inPhase (.resolved r reference resolution), state⟩, history⟩
      (k.soloMove topology tier mode tick
        ⟨scene, memory, ⟨.inPhase (.resolved r reference resolution), state⟩, history⟩) := by
  let reported : Stage η :=
    (Stage.report (Processor.resolvedEntry r reference resolution) ⟨scene, memory, []⟩).2
  have hmove {s' : Worker.State} {y z : Stage η}
      (hs : (k.processor topology tier).settle (Stage.subscription (topology.channelName tier)) r resolution
        reported = ((), y))
      (hc : (k.worker topology tier mode tick).conclude state r resolution y = (s', z)) :
      (k.worker topology tier mode tick).move ⟨.inPhase (.resolved r reference resolution), state⟩
        ⟨scene, memory, []⟩ = (⟨.inPhase .ready, s'⟩, z) := by
    have hr : (k.worker topology tier mode tick).processor.report
        (Processor.resolvedEntry r reference resolution) ⟨scene, memory, []⟩ = ((), reported) := rfl
    exact Worker.move_inPhase (Worker.advance_resolved hr hs hc) nofun
  cases hres : resolution.isSettled with
  | true =>
    have hs := settle_of_settled k topology tier reported (r := r) hres
    obtain ⟨stats, entries, hc⟩ := exists_conclude_of_suits k topology tier tick
      (x := { reported with
        scene := { reported.scene with bus := reported.scene.consumer.committedBy reported.scene.bus r }
        deeds := reported.deeds ++ [.committed r] }) hm state r resolution
    rw [hres] at hc
    exact moves_of_move (hmove hs hc) (.committed rfl hres) rfl
  | false =>
    have hs := settle_of_unsettled k topology tier reported (r := r) hres
    obtain ⟨stats, entries, hc⟩ := exists_conclude_of_suits k topology tier tick
      (x := { reported with
        scene := { reported.scene with consumer := reported.scene.consumer.rewind r }
        deeds := reported.deeds ++ [.rewound r] }) hm state r resolution
    rw [hres] at hc
    exact moves_of_move (hmove hs hc) (.rewound rfl hres) rfl

end Points

variable (k topology tier tick) in
/-- **What a move can do.** -/
theorem exists_moved (hm : Suits mode f.scene.sweep) :
    Moves k topology tier f (k.soloMove topology tier mode tick f) := by
  obtain ⟨scene, memory, ⟨point, state⟩, history⟩ := f
  rcases point with phase | _ | r | ps
  · cases phase with
    | ready => exact moves_ready k topology tier tick hm
    | holding r => exact moves_holding k topology tier mode tick r
    | handled r event outcome => exact moves_handled k topology tier mode tick r event outcome
    | resolved r reference resolution => exact moves_resolved k topology tier tick hm r reference resolution
    | stopped why =>
      have h : (k.worker topology tier mode tick).move ⟨.inPhase (.stopped why), state⟩ ⟨scene, memory, []⟩ =
          (⟨.inPhase (.stopped why), state⟩, ⟨scene, memory, []⟩) := rfl
      exact moves_of_move h (.stopped rfl) rfl
  · exact moves_polling k topology tier tick hm
  · exact moves_judging k topology tier tick hm r
  · exact moves_looking k topology tier tick hm ps

/-! ## What every move keeps -/

section Kept

variable {g g' : Sight} {es : List Happening}

theorem failing_of_moved (hm : Moved k topology tier g g' es) (c : String) :
    g'.bus.failing c = g.bus.failing c := by
  cases hm with
  | read => rw [← g.arrived_bus]
  | empty => rw [← g.arrived_bus]
  | stored handled plan publish =>
    obtain ⟨-, -, -, rfl⟩ := Bus.publishTo_eq_ok_iff.mp publish
    rfl
  | _ => rfl

theorem pending_of_moved (hm : Moved k topology tier g g' es)
    (h : g.consumer.pending = false) : g'.consumer.pending = false := by
  cases hm with
  | ended _ _ _ halted => exact halted.pending_eq.trans h
  | entered _ _ _ halted => exact halted.pending_eq.trans h
  | read _ given read => exact read.pending_eq.trans given
  | empty =>
    rw [Sight.arrived_of_not_pending h]
    exact h
  | held _ _ _ _ halted => exact (halted.pending_eq.trans (Consumer.pending_rewind _ _)).trans h
  | strange => exact (Consumer.pending_rewind _ _).trans h
  | rewound => exact (Consumer.pending_rewind _ _).trans h
  | _ => exact h

/-- Nothing happens after the worker has left its loop. -/
theorem eq_of_stopped (hm : Moved k topology tier g g' es) (h : g.point.Stopped) :
    g' = g ∧ es = [] := by
  obtain ⟨why, hwhy⟩ := h
  cases hm with
  | stopped => exact ⟨rfl, rfl⟩
  | _ => simp_all

end Kept

/-! ## Runs -/

theorem suits_of_moved {g g' : Sight} {es : List Happening} (h : Moved k topology tier g g' es)
    (hm : Suits mode g.sweep) : Suits mode g'.sweep := by
  have harrived : Suits mode g.arrived.sweep := by
    unfold Sight.arrived
    split
    · exact suits_assign hm _ _
    · exact hm
  have hear (n : Note) {sweep : Sweep} (hs : g.sweep = some sweep) : Suits mode (some (sweep.hear n)) := by
    cases mode with
    | feed => cases hm.symm.trans hs
    | recovery => exact ⟨_, rfl⟩
  cases h with
  | read => exact harrived
  | empty => exact harrived
  | held judging sweep_eq => exact hear _ sweep_eq
  | looked looking sweep_eq =>
    split
    · rw [← sweep_eq]
      exact hm
    · exact hear _ sweep_eq
  | committed =>
    cases mode with
    | feed =>
      have hnone : g.sweep = none := hm
      rw [hnone]
      rfl
    | recovery =>
      obtain ⟨sweep, hs⟩ := hm
      rw [hs]
      exact ⟨_, rfl⟩
  | _ => exact hm

theorem suits_rebalanced (hm : Suits mode f.scene.sweep) : Suits mode f.rebalanced.scene.sweep := by
  have hrevoked (ps : List Int) : Suits mode (Scene.listener.revoked ps f.scene.sweep) := by
    cases mode with
    | feed =>
      have hnone : f.scene.sweep = none := hm
      rw [hnone]
      rfl
    | recovery =>
      obtain ⟨sweep, hs⟩ := hm
      rw [hs]
      exact ⟨_, rfl⟩
  unfold Solo.rebalanced
  split
  · show Suits mode (Consumer.assign _ _ _ _).state
    split
    · exact suits_assign hm _ _
    · exact suits_assign (hrevoked _) _ _
  · exact hm

theorem suits_soloPerform (hm : Suits mode f.scene.sweep) (a : SoloAct η) :
    Suits mode (k.soloPerform topology tier mode tick f a).scene.sweep := by
  cases a with
  | move =>
    obtain ⟨es, h, -⟩ := exists_moved k topology tier tick hm
    exact suits_of_moved h hm
  | outside o => exact hm
  | askStop => exact hm
  | rebalance => exact suits_rebalanced hm

theorem suits_soloOpening (k : Handling η ε) (tick : Text.Duration) (b : Bus) (name : String) (prior : Sweep)
    (memory : η) (now : Int) :
    Suits mode (k.soloOpening topology tier mode tick b name prior memory now).scene.sweep := by
  have hprior : Suits mode (mode.sweep? prior) := by
    cases mode with
    | feed => rfl
    | recovery => exact ⟨_, rfl⟩
  exact suits_assign hprior b _

/-- What holds at first and is kept by every act of a run holds in the end. -/
theorem soloRun_induction {P : Solo η → Prop} (acts : List (SoloAct η))
    (hstep : ∀ f, ∀ a ∈ acts, Suits mode f.scene.sweep → P f → P (k.soloPerform topology tier mode tick f a))
    (hm : Suits mode f.scene.sweep) (h : P f) : P (k.soloRun topology tier mode tick f acts) := by
  induction acts generalizing f with
  | nil => exact h
  | cons a as ih =>
    exact ih (fun f b hb => hstep f b (List.mem_cons_of_mem _ hb)) (suits_soloPerform hm a)
      (hstep f a List.mem_cons_self hm h)

theorem suits_soloAfter (k : Handling η ε) (tick : Text.Duration) (b : Bus) (name : String) (prior : Sweep)
    (memory : η) (now : Int) (acts : List (SoloAct η)) :
    Suits mode (k.soloAfter topology tier mode tick b name prior memory now acts).scene.sweep := by
  have hopening : Suits mode (k.soloOpening topology tier mode tick b name prior memory now).scene.sweep :=
    suits_soloOpening k tick b name prior memory now
  exact soloRun_induction (P := fun f => Suits mode f.scene.sweep) acts
    (fun _ a _ hm _ => suits_soloPerform hm a) hopening hopening

end Handling

end OrderRelay
