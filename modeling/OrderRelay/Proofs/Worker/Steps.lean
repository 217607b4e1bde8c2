import OrderRelay.Worker.Loop

/-!
# A round in steps

Between two steps of a worker, anything else may happen to what it shares with others. A round has up to four
of them: select a record, have it handled, store its copy on the next tier if it has to move on, and settle it.

* `Phase`, where a worker stands in a round, and `Task`, the phase with what the worker keeps for itself;
* `advance`, the next step;
* **`iterate_eq_advance`**: a round is its steps, one right after the other;
* `advance_ready` and others, `select_of_some` and others: what a step and a selection come to;
* `select_of_no_sweep`, `conclude_of_no_sweep`: what a worker without a sweep does beside processing.
-/

namespace OrderRelay.Worker

/-- Where a worker stands in a round. -/
inductive Phase where
  /-- Before the round. -/
  | ready
  /-- It has selected a record. -/
  | holding (r : ConsumedRecord)
  /-- The record was handled, with this outcome. -/
  | handled (r : ConsumedRecord) (event : Option OrderReceived) (outcome : Outcome)
  /-- What becomes of the record is decided, and its copy is stored if it moved on. -/
  | resolved (r : ConsumedRecord) (reference : String) (resolution : Resolution)
  /-- It has left its loop. -/
  | stopped (why : Stop)
deriving DecidableEq, Repr

namespace Phase

/-- The phase after a selection. -/
def ofFinding : Finding → Phase
  | .stop why => stopped why
  | .nothing => ready
  | .record r => holding r

/-- The record that the worker has in hand. -/
def record? : Phase → Option ConsumedRecord
  | ready => none
  | holding r => some r
  | handled r _ _ => some r
  | resolved r _ _ => some r
  | stopped _ => none

end Phase

/-- A worker in the middle of its work. -/
structure Task where
  phase : Phase
  state : State

variable {σ ε : Type} (w : Worker σ ε)

/-- The next step of a worker. -/
def advance (k : Task) : StateM σ Task :=
  match k.phase with
  | .ready => do
    let (state, finding) ← w.select k.state
    return ⟨.ofFinding finding, state⟩
  | .holding r => do
    let (event, outcome) ← w.processor.evaluate r
    return ⟨.handled r event outcome, k.state⟩
  | .handled r event outcome => do
    let resolution ← w.processor.carryOut (w.processor.plan r (event, outcome))
    return ⟨.resolved r ((event.map (·.referenceUri)).getD "") resolution, k.state⟩
  | .resolved r reference resolution => do
    w.processor.report (Processor.resolvedEntry r reference resolution)
    w.processor.settle w.consumer r resolution
    return ⟨.ready, ← w.conclude k.state r resolution⟩
  | .stopped _ => return k

/-- Steps until the round is over. -/
def advanceRound (s : State) : StateM σ Task := do
  let k ← w.advance ⟨.ready, s⟩
  match k.phase with
  | .holding _ => do
    let handled ← w.advance k
    let resolved ← w.advance handled
    w.advance resolved
  | _ => return k

/-- The reason for which a worker in a phase has left its loop. -/
def Phase.stop? : Phase → Option Stop
  | stopped why => some why
  | _ => none

/-- **A round is its steps**, one right after the other. -/
theorem iterate_eq_advance (s : State) :
    w.iterate s = do
      let k ← w.advanceRound s
      return (k.state, k.phase.stop?) := by
  funext x
  simp only [iterate, advanceRound, advance, bind, StateT.bind]
  rcases w.select s x with ⟨⟨s', finding⟩, x'⟩
  cases finding with
  | stop why => rfl
  | nothing => rfl
  | record r => rfl

/-! ## What a step comes to -/

section Step

variable {w} {s s' : State} {r : ConsumedRecord} {event : Option OrderReceived} {outcome : Outcome}
  {resolution : Resolution} {x x₁ x₂ x₃ : σ}

theorem advance_ready {found : Finding} (h : w.select s x = ((s', found), x₁)) :
    w.advance ⟨.ready, s⟩ x = (⟨.ofFinding found, s'⟩, x₁) := by
  simp only [advance, bind, StateT.bind, h]
  rfl

theorem advance_holding (h : w.processor.evaluate r x = ((event, outcome), x₁)) :
    w.advance ⟨.holding r, s⟩ x = (⟨.handled r event outcome, s⟩, x₁) := by
  simp only [advance, bind, StateT.bind, h]
  rfl

theorem advance_handled
    (h : w.processor.carryOut (w.processor.plan r (event, outcome)) x = (resolution, x₁)) :
    w.advance ⟨.handled r event outcome, s⟩ x =
      (⟨.resolved r ((event.map (·.referenceUri)).getD "") resolution, s⟩, x₁) := by
  simp only [advance, bind, StateT.bind, h]
  rfl

theorem advance_resolved {reference : String}
    (hr : w.processor.report (Processor.resolvedEntry r reference resolution) x = ((), x₁))
    (hs : w.processor.settle w.consumer r resolution x₁ = ((), x₂))
    (hc : w.conclude s r resolution x₂ = (s', x₃)) :
    w.advance ⟨.resolved r reference resolution, s⟩ x = (⟨.ready, s'⟩, x₃) := by
  simp only [advance, bind, StateT.bind, hr, hs, hc]
  rfl

end Step

/-! ## What a round by steps comes to -/

section AdvanceRound

variable {w} {s : State} {k₁ k₂ k₃ : Task} {x x₁ x₂ x₃ : σ}

theorem advanceRound_of_holding {r : ConsumedRecord} (h₁ : w.advance ⟨.ready, s⟩ x = (k₁, x₁))
    (hphase : k₁.phase = .holding r) (h₂ : w.advance k₁ x₁ = (k₂, x₂)) (h₃ : w.advance k₂ x₂ = (k₃, x₃)) :
    w.advanceRound s x = w.advance k₃ x₃ := by
  simp only [advanceRound, bind, StateT.bind, h₁, hphase, h₂, h₃]

theorem advanceRound_of_not_holding (h₁ : w.advance ⟨.ready, s⟩ x = (k₁, x₁))
    (hphase : ∀ r, k₁.phase ≠ .holding r) : w.advanceRound s x = (k₁, x₁) := by
  simp only [advanceRound, bind, StateT.bind, h₁]
  rfl

end AdvanceRound

/-! ## What a selection comes to -/

section Select

variable {w} {s s₁ : State} {x x₁ x₂ x₃ x₄ : σ}

theorem select_of_asked (hs : w.stopRequested x = (true, x₁)) :
    w.select s x = ((s, .stop .requested), x₁) := by
  simp only [select, bind, StateT.bind, hs]
  rfl

theorem select_of_complete (hs : w.stopRequested x = (false, x₁))
    (hd : w.pauseDrained s x₁ = ((s₁, true), x₂))
    (hr : w.processor.report (Log.info .worker "recovery sweep complete; stopping" [w.nameField]) x₂ =
      ((), x₃)) :
    w.select s x = ((s₁, .stop .sweepComplete), x₃) := by
  simp only [select, bind, StateT.bind, hs, hd, Bool.false_eq_true, if_false, if_true, hr]
  rfl

theorem select_of_none (hs : w.stopRequested x = (false, x₁))
    (hd : w.pauseDrained s x₁ = ((s₁, false), x₂)) (hp : w.consumer.poll w.tick x₂ = (.ok none, x₃))
    (hc : w.checkRetention x₃ = ((), x₄)) :
    w.select s x = ((s₁, .nothing), x₄) := by
  simp only [select, bind, StateT.bind, hs, hd, Bool.false_eq_true, if_false, hp, hc]
  rfl

theorem select_of_some {r : ConsumedRecord} {answer : State × Finding}
    (hs : w.stopRequested x = (false, x₁)) (hd : w.pauseDrained s x₁ = ((s₁, false), x₂))
    (hp : w.consumer.poll w.tick x₂ = (.ok (some r), x₃)) (ht : w.takeUp s₁ r x₃ = (answer, x₄)) :
    w.select s x = (answer, x₄) := by
  simp only [select, bind, StateT.bind, hs, hd, Bool.false_eq_true, if_false, hp, ht]

end Select

/-! ## Without a sweep -/

section NoSweep

variable {w} {s : State}

/-- A worker without a sweep that nobody asked to stop takes up whatever it reads. -/
theorem select_of_no_sweep {a : Option ConsumedRecord} {x x₁ x₂ : σ} (hr : w.recovery = none)
    (hs : w.stopRequested x = (false, x₁)) (hp : w.consumer.poll w.tick x₁ = (.ok a, x₂)) :
    w.select s x = ((s, a.elim .nothing .record), x₂) := by
  have hd : w.pauseDrained s x₁ = ((s, false), x₁) := by
    rw [pauseDrained, hr]
    rfl
  cases a with
  | none => exact select_of_none hs hd hp (by rw [checkRetention, hr]; rfl)
  | some r => exact select_of_some hs hd hp (by rw [takeUp, hr]; rfl)

theorem conclude_of_no_sweep (hr : w.recovery = none) (r : ConsumedRecord) (resolution : Resolution) :
    w.conclude s r resolution = pure { s with stats := s.stats.count resolution } := by
  simp only [conclude, hr]

end NoSweep

end OrderRelay.Worker
