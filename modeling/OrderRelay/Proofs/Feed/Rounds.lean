import OrderRelay.Proofs.Feed.AtLeastOnce
import OrderRelay.Proofs.Feed.Escalation
import OrderRelay.Proofs.Worker.Effect

/-!
# Workers that take turns round by round

The steps of several workers may come in any order. When a worker is left alone for a whole round, its steps are
the round of its loop, here with an account of what it did. So what holds of all runs of steps holds as well where
the workers take turns with whole rounds, and everything else happens between these.

* `Account.told`, what there is to tell of the deeds of a round, and `Crew.workRound`, the floor after a round;
* `Crew.Between`, a floor where nobody is in the middle of a round;
* `workRound_of_nothing`, `exists_workRound_of_record`: a round is one step or four;
* **`exists_rounds_eq_run`**: any run of rounds is a run of steps;
* **`covered_rounds`** and **`escalated_rounds`**: at least once and escalation, round by round.
-/

namespace OrderRelay

/-- What there is to tell of a deed in a round with this account. A record is resolved before it is settled. -/
def Account.told (t : Tier) (a : Account) : Deed → List Event
  | .stored e position => [(Deed.stored e position).event t (some a.record)]
  | .committed r => [.resolved t a.record a.resolution, .committed t r]
  | .rewound r => [.resolved t a.record a.resolution, .rewound t r]

/-- What there is to tell of a step from one task to another that leaves the stage like this. -/
def Worker.Task.told {η : Type} (t : Tier) (k k' : Worker.Task) (x : Stage η) : List Event :=
  x.deeds.map (Deed.event t k.phase.record?) ++ (k'.phase.resolution?.map fun e => .resolved t e.1 e.2).toList

namespace Floor

variable {η : Type} (f : Floor η)

/-- The floor after the worker of a tier has gone on to another task, and left its stage like this. -/
def after (t : Tier) (k : Worker.Task) (x : Stage η) (es : List Event) : Floor η :=
  { (f.sit t (some ⟨x.scene.consumer, k⟩)).tell es with
    bus := x.scene.bus, memory := x.memory, entries := x.scene.entries }

/-- The stage is one of a worker on this floor. -/
def Holds (x : Stage η) : Prop :=
  x.scene = ⟨x.scene.bus, none, x.scene.consumer, false, f.now, x.scene.entries⟩

end Floor

namespace Crew

variable {η ε : Type} (crew : Crew η ε) (f : Floor η)

/-- The floor after a round of the worker of a tier. -/
def workRound (t : Tier) : Floor η :=
  match f.seats t with
  | some ⟨c, .ready, state⟩ =>
    let (((state, stopped), account), x) := (crew.worker t).iterateTold state (f.stage c)
    f.after t ⟨stopped.elim .ready .stopped, state⟩ x
      (account.toList.flatMap fun a => x.deeds.flatMap (a.told t))
  | _ => f

/-- The floor after something has happened, where a worker works for a whole round. -/
def performRound : Act η → Floor η
  | .work t => crew.workRound f t
  | a => crew.perform f a

/-- The floor after several things have happened, with rounds for steps. -/
def rounds (acts : List (Act η)) : Floor η := acts.foldl crew.performRound f

/-- All workers read the channels of their tiers, and none is in the middle of a round. -/
structure Between : Prop where
  fit : crew.Fit f
  ready : ∀ t s, f.seats t = some s → s.task.phase = .ready

/-! ## Steps of a worker, one right after the other -/

section After

variable {crew f} {t : Tier} {k k₁ k₂ k₃ k₄ : Worker.Task} {x₁ x₂ x₃ x₄ : Stage η} {es : List Event}

theorem work_eq_after {c : Consumer} (hs : f.seats t = some ⟨c, k⟩)
    (ha : (crew.worker t).advance k (f.stage c) = (k₁, x₁)) : crew.work f t = f.after t k₁ x₁ (k.told t k₁ x₁) :=
  work_eq hs ha

/-- The next step finds the stage as the last one left it. What was told of its deeds is not told again. -/
theorem work_after (hx : f.Holds x₁) (ha : (crew.worker t).advance k₁ { x₁ with deeds := [] } = (k₂, x₂)) :
    crew.work (f.after t k₁ x₁ es) t = f.after t k₂ x₂ (es ++ k₁.told t k₂ x₂) := by
  have hs : (f.after t k₁ x₁ es).seats t = some ⟨x₁.scene.consumer, k₁⟩ := sit_seat f t _
  have hstage : (f.after t k₁ x₁ es).stage x₁.scene.consumer = { x₁ with deeds := [] } := by
    rw [show x₁.scene = _ from hx]
    rfl
  rw [work_eq_after hs (hstage ▸ ha)]
  simp only [Floor.after, Floor.sit, Floor.tell, Function.update_idem, List.append_assoc]

/-- Four steps, one right after the other. -/
theorem run_four {c : Consumer} (hs : f.seats t = some ⟨c, k⟩)
    (h₁ : (crew.worker t).advance k (f.stage c) = (k₁, x₁))
    (h₂ : (crew.worker t).advance k₁ { x₁ with deeds := [] } = (k₂, x₂))
    (h₃ : (crew.worker t).advance k₂ { x₂ with deeds := [] } = (k₃, x₃))
    (h₄ : (crew.worker t).advance k₃ { x₃ with deeds := [] } = (k₄, x₄))
    (hx₁ : f.Holds x₁) (hx₂ : f.Holds x₂) (hx₃ : f.Holds x₃) :
    crew.run f (.replicate 4 (.work t)) =
      f.after t k₄ x₄ (k.told t k₁ x₁ ++ k₁.told t k₂ x₂ ++ k₂.told t k₃ x₃ ++ k₃.told t k₄ x₄) := by
  show crew.work (crew.work (crew.work (crew.work f t) t) t) t = _
  rw [work_eq_after hs h₁, work_after hx₁ h₂, work_after hx₂ h₃, work_after hx₃ h₄]

end After

/-! ## Rounds are steps -/

section Round

variable {crew f} {t : Tier} {c : Consumer} {state : Worker.State}

/-- Settling is one deed, which is told after what became of the record. -/
theorem exists_settle (k : Handling η ε) (topology : Topology) (t : Tier) (a : Account) (scene : Scene)
    (memory : η) :
    ∃ scene' d, a.told t d = [.resolved t a.record a.resolution, d.event t (some a.record)] ∧
      ∀ deeds, (k.processor topology t).settle (Stage.subscription (topology.channelName t)) a.record
        a.resolution ⟨scene, memory, deeds⟩ = ((), ⟨scene', memory, deeds ++ [d]⟩) := by
  cases h : a.resolution.isSettled with
  | true =>
    exact ⟨{ scene with bus := scene.consumer.committedBy scene.bus a.record }, .committed a.record, rfl,
      fun deeds => Handling.settle_of_settled k topology t ⟨scene, memory, deeds⟩ h⟩
  | false =>
    exact ⟨{ scene with consumer := scene.consumer.rewind a.record }, .rewound a.record, rfl,
      fun deeds => Handling.settle_of_unsettled k topology t ⟨scene, memory, deeds⟩ h⟩

/-- Copies are told as they are stored, before the record is resolved. -/
theorem flatMap_told {a : Account} {stored : List Deed}
    (h : ∀ d ∈ stored, ∃ e position, d = .stored e position) :
    stored.flatMap (a.told t) = stored.map (Deed.event t (some a.record)) := by
  rw [List.map_eq_flatMap]
  refine List.flatMap_congr fun d hd => ?_
  obtain ⟨e, position, rfl⟩ := h d hd
  rfl

/-- A round without a record is one step. -/
theorem workRound_of_nothing (hs : f.seats t = some ⟨c, .ready, state⟩) (hp : c.pending = false)
    (hn : c.next? f.bus = none) : crew.workRound f t = f ∧ crew.run f [.work t] = f := by
  have hselect := Handling.select_feed_of_none (crew.handling t) crew.topology t crew.tick
    (x := f.stage c) state rfl hp hn
  have hround : (crew.worker t).iterateTold state (f.stage c) = _ := Worker.iterateTold_of_nothing hselect
  constructor
  · simp only [workRound, hs, hround]
    show ((f.sit t (some ⟨c, .ready, state⟩)).tell []) = f
    rw [sit_self hs]
    simp [Floor.tell]
  · exact work_eq_self crew hs (Worker.advance_ready hselect) rfl

/-- A round with a record is four steps. -/
theorem exists_workRound_of_record {r : ConsumedRecord} {c' : Consumer} (hs : f.seats t = some ⟨c, .ready, state⟩)
    (hp : c.pending = false) (hn : c.next? f.bus = some (r, c')) :
    ∃ state' x es, crew.workRound f t = f.after t ⟨.ready, state'⟩ x es ∧
      crew.run f (.replicate 4 (.work t)) = f.after t ⟨.ready, state'⟩ x es := by
  have hselect : (crew.worker t).select state (f.stage c) = ((state, .record r), f.stage c') :=
    Handling.select_feed_of_some (crew.handling t) crew.topology t crew.tick (x := f.stage c) state rfl hp hn
  obtain ⟨event, outcome, memory, entries, hevaluate⟩ :=
    Handling.exists_evaluate (crew.handling t) crew.topology t (f.stage c') r
  -- The stage when the event was handled.
  let x₂ : Stage η := { f.stage c' with scene := { (f.stage c').scene with entries }, memory }
  obtain ⟨stored, hstored, hcarried⟩ := Handling.exists_carryOut (crew.handling t) crew.topology t x₂
    ((crew.processor t).plan r (event, outcome))
  generalize Plan.resolution .. = resolution at hcarried
  generalize Plan.applied .. = bus at hcarried
  let x₃ : Stage η := { x₂ with scene := { x₂.scene with bus }, deeds := stored }
  let account : Account := ⟨r, (crew.processor t).plan r (event, outcome), resolution⟩
  let reference := (event.map (·.referenceUri)).getD ""
  obtain ⟨scene, d, htold, hsettled⟩ := exists_settle (crew.handling t) crew.topology t account
    { x₃.scene with entries := entries ++ [Processor.resolvedEntry r reference resolution] } memory
  let state' : Worker.State := { state with stats := state.stats.count resolution }
  have hconcluded := Worker.conclude_of_no_sweep (w := crew.worker t) (s := state) rfl r resolution
  have hround : (crew.worker t).iterateTold state (f.stage c) =
      (((state', none), some account), ⟨scene, memory, stored ++ [d]⟩) :=
    Worker.iterateTold_of_record hselect hevaluate rfl hcarried rfl (hsettled stored) (by rw [hconcluded]; rfl)
  refine ⟨state', ⟨scene, memory, stored ++ [d]⟩, stored.map (Deed.event t (some r)) ++
    [.resolved t r resolution, d.event t (some r)], ?_, ?_⟩
  · have hes : (stored ++ [d]).flatMap (account.told t) =
        stored.map (Deed.event t (some r)) ++ [.resolved t r resolution, d.event t (some r)] := by
      rw [List.flatMap_append, flatMap_told hstored, List.flatMap_singleton, htold]
    simp only [workRound, hs, hround, Option.toList_some, List.flatMap_singleton, hes]
    rfl
  · have hadvanced : (crew.worker t).advance ⟨.resolved r reference resolution, state⟩ { x₃ with deeds := [] } =
        (⟨.ready, state'⟩, ⟨scene, memory, [d]⟩) :=
      Worker.advance_resolved rfl (hsettled []) (by rw [hconcluded]; rfl)
    rw [run_four hs (Worker.advance_ready hselect) (Worker.advance_holding hevaluate)
      (Worker.advance_handled hcarried) hadvanced rfl rfl rfl]
    show f.after t ⟨.ready, state'⟩ ⟨scene, memory, [d]⟩
      (stored.map (Deed.event t (some r)) ++ [.resolved t r resolution] ++ [d.event t (some r)]) = _
    rw [List.append_assoc]
    rfl

end Round

/-! ## Runs of rounds are runs of steps -/

section Runs

variable {crew f}

theorem between_opening (crew : Crew η ε) (b : Bus) (memory : η) (now : Int) : crew.Between (.opening b memory now) :=
  ⟨fit_opening b memory now, fun _ _ h => nomatch h⟩

/-- What does not come from a worker does not bring one into the middle of a round. -/
theorem Between.perform (hb : crew.Between f) {a : Act η} (ha : ∀ t, a ≠ .work t) :
    crew.Between (crew.perform f a) := by
  refine ⟨fit_perform hb.fit a, fun u s hu => ?_⟩
  cases a with
  | work t => exact absurd rfl (ha t)
  | outside o => exact hb.ready u s hu
  | crash t =>
    rcases eq_or_of_sit hu with ⟨-, h⟩ | hu
    · exact nomatch h
    · exact hb.ready u s hu
  | join t name =>
    rw [Crew.perform] at hu
    cases hs : f.seats t with
    | some s' => exact hb.ready u s (by rwa [join_of_some crew name hs] at hu)
    | none =>
      obtain ⟨entries, hj⟩ := join_of_none crew name hs
      rw [hj] at hu
      rcases eq_or_of_sit hu with ⟨-, h⟩ | hu
      · exact Option.some.inj h ▸ rfl
      · exact hb.ready u s hu

/-- A round is one or more steps of its worker, and then nobody is in the middle of one. -/
theorem exists_workRound_eq_run (hb : crew.Between f) (t : Tier) : ∃ n, 0 < n ∧
    crew.workRound f t = crew.run f (.replicate n (.work t)) ∧ crew.Between (crew.workRound f t) := by
  have hfit (n : Nat) : crew.Fit (crew.run f (.replicate n (.work t))) :=
    run_induction (P := crew.Fit) _ (fun _ a _ h => fit_perform h a) hb.fit
  cases hs : f.seats t with
  | none =>
    have hround : crew.workRound f t = f := by rw [workRound, hs]
    exact ⟨1, Nat.one_pos, hround.trans (work_of_empty hs).symm, hround.symm ▸ hb⟩
  | some s =>
    obtain ⟨c, phase, state⟩ := s
    obtain rfl : phase = .ready := hb.ready t _ hs
    have hp : c.pending = false := (hb.fit t _ hs).pending_eq
    cases hn : c.next? f.bus with
    | none =>
      obtain ⟨hround, hstep⟩ := workRound_of_nothing hs hp hn
      exact ⟨1, Nat.one_pos, hround.trans hstep.symm, hround.symm ▸ hb⟩
    | some e =>
      obtain ⟨state', x, es, hround, hsteps⟩ := exists_workRound_of_record hs hp hn
      refine ⟨4, by decide, hround.trans hsteps.symm, ⟨?_, fun u s hu => ?_⟩⟩
      · rw [hround, ← hsteps]
        exact hfit 4
      · rw [hround] at hu
        rcases eq_or_of_sit hu with ⟨-, h⟩ | hu
        · exact Option.some.inj h ▸ rfl
        · exact hb.ready u s hu

theorem exists_performRound_eq_run (hb : crew.Between f) (a : Act η) : ∃ steps, (∀ b ∈ steps, b = a) ∧
    crew.performRound f a = crew.run f steps ∧ crew.Between (crew.performRound f a) := by
  have other (ha : ∀ t, a ≠ .work t) (hr : crew.performRound f a = crew.perform f a) :
      ∃ steps, (∀ b ∈ steps, b = a) ∧ crew.performRound f a = crew.run f steps ∧
        crew.Between (crew.performRound f a) :=
    ⟨[a], fun b h => List.mem_singleton.mp h, hr, hr ▸ hb.perform ha⟩
  cases a with
  | work t =>
    obtain ⟨n, -, hround, hb'⟩ := exists_workRound_eq_run hb t
    exact ⟨_, fun b h => List.eq_of_mem_replicate h, hround, hb'⟩
  | join t name => exact other (fun _ => nofun) rfl
  | crash t => exact other (fun _ => nofun) rfl
  | outside o => exact other (fun _ => nofun) rfl

/-- **A run of rounds is a run of steps**, in which nothing happens that does not happen in the rounds. -/
theorem exists_rounds_eq_run (hb : crew.Between f) (acts : List (Act η)) : ∃ steps, (∀ a ∈ steps, a ∈ acts) ∧
    crew.rounds f acts = crew.run f steps ∧ crew.Between (crew.rounds f acts) := by
  induction acts generalizing f with
  | nil => exact ⟨[], fun _ h => h, rfl, hb⟩
  | cons a as ih =>
    obtain ⟨first, hfirst, hone, hb'⟩ := exists_performRound_eq_run hb a
    obtain ⟨rest, hrest, hrun, hb''⟩ := ih hb'
    refine ⟨first ++ rest, fun b h => ?_, ?_, hb''⟩
    · rcases List.mem_append.mp h with h | h
      · exact hfirst b h ▸ List.mem_cons_self
      · exact List.mem_cons_of_mem _ (hrest b h)
    · rw [run_append, ← hone]
      exact hrun

end Runs

/-! ## What holds of rounds -/

theorem rounds_append (as bs : List (Act η)) :
    crew.rounds f (as ++ bs) = crew.rounds (crew.rounds f as) bs := List.foldl_append

/-- **At least once, round by round.** Whatever happens between the rounds of the workers, and crashes are among
it: an offset that a commit covers was settled before, or removed by retention, and no committed offset falls. -/
theorem covered_rounds (crew : Crew η ε) (start : Bus) (hstart : ∀ c g p, start.committed c g p = none)
    (memory : η) (now : Int) (acts : List (Act η)) :
    (∀ t p next, crew.committed? (crew.rounds (.opening start memory now) acts) t p = some next →
      ∀ o < next, Covered crew start t p o (crew.rounds (.opening start memory now) acts).history) ∧
    ∀ more c g p next,
      (crew.rounds (.opening start memory now) acts).bus.committed c g p = some next →
        ∃ next', (crew.rounds (.opening start memory now) (acts ++ more)).bus.committed c g p = some next' ∧
          next ≤ next' := by
  obtain ⟨steps, -, hrun, hb⟩ := exists_rounds_eq_run (between_opening crew start memory now) acts
  have hk : Kept crew start (crew.rounds (.opening start memory now) acts) :=
    hrun ▸ kept_run (kept_opening hstart memory now) steps
  refine ⟨hk.covered, fun more c g p next hn => ?_⟩
  obtain ⟨steps', -, hmore, -⟩ := exists_rounds_eq_run hb more
  rw [rounds_append, hmore]
  exact hk.committed_mono_run steps' hn

/-- A record is handled and committed in one round. -/
example : accepting.committed? (accepting.rounds (.opening (.ofPartitions 2) () 0)
    [.outside (.publish ⟨"k", [2, 97], "order-received", 0⟩ 1), .join .main "a", .work .main]) .main 1 =
      some 1 := by decide

/-- **Escalation, round by round.** Where no worker crashes, records are neither lost nor doubled. -/
theorem escalated_rounds (crew : Crew η ε) (start : Bus) (memory : η) (now : Int) (acts : List (Act η))
    (hacts : ∀ t, .crash t ∉ acts) :
    Escalated crew start (crew.rounds (.opening start memory now) acts).bus
      (crew.rounds (.opening start memory now) acts).history := by
  obtain ⟨steps, hsteps, hrun, -⟩ := exists_rounds_eq_run (between_opening crew start memory now) acts
  rw [hrun]
  exact Escalating.escalated <| run_induction (P := Escalating crew start) steps
    (fun _ _ ha hk => escalating_perform hk fun t h => hacts t (hsteps _ (h ▸ ha)))
    (escalating_opening start memory now)

end Crew

end OrderRelay
