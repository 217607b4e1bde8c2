import OrderRelay.Proofs.Worker.Steps

/-!
# A round in moves

The selection of a record is one step of a round, but with a sweep it uses what the worker shares with others
several times. A *move* does so at most once: look for a reason to stop, poll, judge the record, look at one
partition. The other moves are the steps of a round.

* `Point`, where a worker stands between two moves, and `Stand`, the point with what the worker keeps for
  itself;
* `move`, the next move, and `moves`, several of them; `move_of_asked` and others: what a move comes to;
* `exists_moves_select`, `exists_moves_advance`, and **`exists_moves_iterate`**: a selection, a step and a round
  are some moves, one right after the other; `exists_moves_rest_iterate`: so is what comes after the first step.
-/

namespace OrderRelay.Worker

/-- Where a worker stands between two moves. -/
inductive Point where
  | inPhase (phase : Phase)
  /-- There is no reason to stop. -/
  | polling
  /-- A record was read. -/
  | judging (r : ConsumedRecord)
  /-- There was nothing to read, and these partitions are to be looked at. -/
  | looking (ps : List Int)
deriving DecidableEq, Repr

/-- The point after a round, with the reason to stop. -/
def Point.after : Option Stop → Point
  | none => .inPhase .ready
  | some why => .inPhase (.stopped why)

/-- A worker between two moves. -/
structure Stand where
  point : Point
  state : State

variable {σ ε : Type} (w : Worker σ ε)

/-! ## Moves -/

/-- Look for a reason to stop. -/
def enter (s : State) : StateM σ Stand := do
  if ← w.stopRequested then return ⟨.inPhase (.stopped .requested), s⟩
  let (s, complete) ← w.pauseDrained s
  if complete then
    w.processor.report (Log.info .worker "recovery sweep complete; stopping" [w.nameField])
    return ⟨.inPhase (.stopped .sweepComplete), s⟩
  return ⟨.polling, s⟩

/-- The partitions to be looked at after a poll that found nothing. -/
def unread : StateM σ (List Int) :=
  match w.recovery with
  | none => return []
  | some cell => do
    let sweep ← cell.read
    return sweep.pending

/-- Poll once. -/
def ask (s : State) : StateM σ Stand := do
  match ← w.consumer.poll w.tick with
  | .ok (some r) => return ⟨.judging r, s⟩
  | .ok none => return ⟨.looking (← w.unread), s⟩
  | .error .disconnected =>
    w.processor.report (Log.warn .worker "subscription disconnected; stopping" [w.nameField])
    return ⟨.inPhase (.stopped .disconnected), s⟩
  | .error err =>
    w.processor.report (Log.warn .worker "poll failed" [w.nameField, ("error", .text err.message)])
    return ⟨.inPhase .ready, s⟩

/-- Look at one partition. -/
def look (p : Int) : StateM σ Unit :=
  match w.recovery with
  | none => return
  | some cell => w.observe cell p

/-- The next move of a worker. -/
def move (k : Stand) : StateM σ Stand :=
  match k.point with
  | .inPhase .ready => w.enter k.state
  | .polling => w.ask k.state
  | .judging r => do
    let (state, finding) ← w.takeUp k.state r
    return ⟨.inPhase (.ofFinding finding), state⟩
  | .looking [] => return ⟨.inPhase .ready, k.state⟩
  | .looking (p :: ps) => do
    w.look p
    return ⟨.looking ps, k.state⟩
  | .inPhase phase => do
    let task ← w.advance ⟨phase, k.state⟩
    return ⟨.inPhase task.phase, task.state⟩

/-- Several moves, one right after the other. -/
def moves : Nat → Stand → StateM σ Stand
  | 0, k => return k
  | n + 1, k => do moves n (← w.move k)

/-! ## What a move comes to -/

section Move

variable {w} {s s₁ : State} {r : ConsumedRecord} {x x₁ x₂ x₃ : σ}

theorem move_of_asked (hs : w.stopRequested x = (true, x₁)) :
    w.move ⟨.inPhase .ready, s⟩ x = (⟨.inPhase (.stopped .requested), s⟩, x₁) := by
  simp only [move, enter, bind, StateT.bind, hs, if_true]
  rfl

theorem move_of_complete (hs : w.stopRequested x = (false, x₁)) (hd : w.pauseDrained s x₁ = ((s₁, true), x₂))
    (hr : w.processor.report (Log.info .worker "recovery sweep complete; stopping" [w.nameField]) x₂ =
      ((), x₃)) :
    w.move ⟨.inPhase .ready, s⟩ x = (⟨.inPhase (.stopped .sweepComplete), s₁⟩, x₃) := by
  simp only [move, enter, bind, StateT.bind, hs, hd, hr, Bool.false_eq_true, if_false, if_true]
  rfl

theorem move_of_incomplete (hs : w.stopRequested x = (false, x₁))
    (hd : w.pauseDrained s x₁ = ((s₁, false), x₂)) :
    w.move ⟨.inPhase .ready, s⟩ x = (⟨.polling, s₁⟩, x₂) := by
  simp only [move, enter, bind, StateT.bind, hs, hd, Bool.false_eq_true, if_false]
  rfl

theorem move_of_some (hp : w.consumer.poll w.tick x = (.ok (some r), x₁)) :
    w.move ⟨.polling, s⟩ x = (⟨.judging r, s⟩, x₁) := by
  simp only [move, ask, bind, StateT.bind, hp]
  rfl

theorem move_of_none {ps : List Int} (hp : w.consumer.poll w.tick x = (.ok none, x₁))
    (hu : w.unread x₁ = (ps, x₂)) : w.move ⟨.polling, s⟩ x = (⟨.looking ps, s⟩, x₂) := by
  simp only [move, ask, bind, StateT.bind, hp, hu]
  rfl

theorem move_judging {finding : Finding} (ht : w.takeUp s r x = ((s₁, finding), x₁)) :
    w.move ⟨.judging r, s⟩ x = (⟨.inPhase (.ofFinding finding), s₁⟩, x₁) := by
  simp only [move, bind, StateT.bind, ht]
  rfl

theorem move_looking {p : Int} {ps : List Int} (hl : w.look p x = ((), x₁)) :
    w.move ⟨.looking (p :: ps), s⟩ x = (⟨.looking ps, s⟩, x₁) := by
  simp only [move, bind, StateT.bind, hl]
  rfl

theorem move_inPhase {phase : Phase} {k : Task} (ha : w.advance ⟨phase, s⟩ x = (k, x₁))
    (hphase : phase ≠ .ready) :
    w.move ⟨.inPhase phase, s⟩ x = (⟨.inPhase k.phase, k.state⟩, x₁) := by
  cases phase with
  | ready => exact absurd rfl hphase
  | _ =>
    simp only [move, bind, StateT.bind, ha]
    rfl

end Move

/-! ## A round is its moves -/

section Runs

variable {w} {k k₁ k₂ : Stand} {x x₁ x₂ : σ}

theorem moves_succ {n : Nat} (h : w.move k x = (k₁, x₁)) : w.moves (n + 1) k x = w.moves n k₁ x₁ := by
  simp only [moves, bind, StateT.bind, h]

theorem moves_one (h : w.move k x = (k₁, x₁)) : w.moves 1 k x = (k₁, x₁) := moves_succ h

theorem moves_add {m n : Nat} (h : w.moves m k x = (k₁, x₁)) (h' : w.moves n k₁ x₁ = (k₂, x₂)) :
    w.moves (m + n) k x = (k₂, x₂) := by
  induction m generalizing k x with
  | zero =>
    obtain ⟨rfl, rfl⟩ := Prod.mk.inj h
    rw [Nat.zero_add]
    exact h'
  | succ m ih =>
    rw [Nat.succ_add]
    exact (moves_succ rfl).trans (ih ((moves_succ rfl).symm.trans h))

end Runs

/-- Looking at partitions one by one, and then the end of the round. -/
theorem moves_looking (ps : List Int) (s : State) (x : σ) :
    w.moves (ps.length + 1) ⟨.looking ps, s⟩ x = (⟨.inPhase .ready, s⟩, (ps.forM w.look x).2) := by
  induction ps generalizing x with
  | nil => rfl
  | cons p ps ih =>
    have hmove : w.move ⟨.looking (p :: ps), s⟩ x = (⟨.looking ps, s⟩, (w.look p x).2) := rfl
    exact (moves_succ hmove).trans (ih _)

/-- Looking at retention is looking at the partitions with something left to do. -/
theorem checkRetention_eq (x : σ) :
    w.checkRetention x = ((), ((w.unread x).1.forM w.look (w.unread x).2).2) := by
  cases hr : w.recovery with
  | none =>
    simp only [checkRetention, unread, hr]
    rfl
  | some cell =>
    have hlook : w.look = w.observe cell := by
      funext p
      simp only [look, hr]
    simp only [checkRetention, unread, hr, hlook]
    rfl

/-- A selection is some moves. -/
theorem exists_moves_select (s : State) (x : σ) :
    ∃ n, 0 < n ∧ w.moves n ⟨.inPhase .ready, s⟩ x =
      (⟨.inPhase (.ofFinding (w.select s x).1.2), (w.select s x).1.1⟩, (w.select s x).2) := by
  obtain ⟨asked, x₁, hs⟩ : ∃ asked x₁, w.stopRequested x = (asked, x₁) := ⟨_, _, rfl⟩
  cases asked with
  | true =>
    rw [select_of_asked hs]
    exact ⟨1, Nat.one_pos, moves_one (move_of_asked hs)⟩
  | false =>
    obtain ⟨s₁, complete, x₂, hd⟩ : ∃ s₁ complete x₂, w.pauseDrained s x₁ = ((s₁, complete), x₂) :=
      ⟨_, _, _, rfl⟩
    cases complete with
    | true =>
      rw [select_of_complete hs hd rfl]
      exact ⟨1, Nat.one_pos, moves_one (move_of_complete hs hd rfl)⟩
    | false =>
      have henter := move_of_incomplete hs hd
      obtain ⟨answer, x₃, hp⟩ : ∃ answer x₃, w.consumer.poll w.tick x₂ = (answer, x₃) := ⟨_, _, rfl⟩
      rcases answer with err | _ | r
      · refine ⟨2, Nat.two_pos, (moves_succ henter).trans (moves_one ?_)⟩
        simp only [move, ask, select, bind, StateT.bind, hs, hd, hp, Bool.false_eq_true, if_false]
        cases err <;> rfl
      · rw [select_of_none hs hd hp (w.checkRetention_eq x₃)]
        exact ⟨_, Nat.succ_pos _, (moves_succ henter).trans ((moves_succ (move_of_none hp rfl)).trans
          (w.moves_looking _ s₁ _))⟩
      · rw [select_of_some hs hd hp rfl]
        exact ⟨3, Nat.succ_pos 2, (moves_succ henter).trans ((moves_succ (move_of_some hp)).trans
          (moves_one (move_judging rfl)))⟩

/-- A step is some moves. -/
theorem exists_moves_advance (k : Task) (x : σ) :
    ∃ n, 0 < n ∧ w.moves n ⟨.inPhase k.phase, k.state⟩ x =
      (⟨.inPhase (w.advance k x).1.phase, (w.advance k x).1.state⟩, (w.advance k x).2) := by
  obtain ⟨phase, s⟩ := k
  cases phase with
  | ready =>
    obtain ⟨n, hn, h⟩ := w.exists_moves_select s x
    obtain ⟨s₁, found, x₁, hselect⟩ : ∃ s₁ found x₁, w.select s x = ((s₁, found), x₁) := ⟨_, _, _, rfl⟩
    rw [hselect] at h
    exact ⟨n, hn, by rw [h, advance_ready hselect]⟩
  | _ => exact ⟨1, Nat.one_pos, moves_one (move_inPhase rfl nofun)⟩

/-- After the first step of a round, the rest of it is some moves. -/
theorem exists_moves_rest {s : State} {k₁ : Task} {x x₁ : σ} (h₁ : w.advance ⟨.ready, s⟩ x = (k₁, x₁)) :
    ∃ n, w.moves n ⟨.inPhase k₁.phase, k₁.state⟩ x₁ =
      (⟨.inPhase (w.advanceRound s x).1.phase, (w.advanceRound s x).1.state⟩, (w.advanceRound s x).2) := by
  cases hphase : k₁.phase with
  | holding r =>
    obtain ⟨k₂, x₂, h₂⟩ : ∃ k₂ x₂, w.advance k₁ x₁ = (k₂, x₂) := ⟨_, _, rfl⟩
    obtain ⟨k₃, x₃, h₃⟩ : ∃ k₃ x₃, w.advance k₂ x₂ = (k₃, x₃) := ⟨_, _, rfl⟩
    obtain ⟨n₂, -, hm₂⟩ := w.exists_moves_advance k₁ x₁
    obtain ⟨n₃, -, hm₃⟩ := w.exists_moves_advance k₂ x₂
    obtain ⟨n₄, -, hm₄⟩ := w.exists_moves_advance k₃ x₃
    rw [h₂, hphase] at hm₂
    rw [h₃] at hm₃
    refine ⟨n₂ + (n₃ + n₄), ?_⟩
    rw [advanceRound_of_holding h₁ hphase h₂ h₃]
    exact moves_add hm₂ (moves_add hm₃ hm₄)
  | _ =>
    refine ⟨0, ?_⟩
    rw [advanceRound_of_not_holding h₁ (by rw [hphase]; exact nofun), hphase]
    rfl

/-- After a round by steps the worker is before the next one, or has left its loop. -/
theorem after_stop?_advanceRound (s : State) (x : σ) :
    Point.after (w.advanceRound s x).1.phase.stop? = .inPhase (w.advanceRound s x).1.phase := by
  simp only [advanceRound, advance, bind, StateT.bind]
  rcases w.select s x with ⟨⟨s', finding⟩, x'⟩
  cases finding <;> rfl

/-- After its first step, a round is the rest of its moves. -/
theorem exists_moves_rest_iterate {s : State} {k₁ : Task} {x x₁ : σ} (h₁ : w.advance ⟨.ready, s⟩ x = (k₁, x₁)) :
    ∃ n, w.moves n ⟨.inPhase k₁.phase, k₁.state⟩ x₁ =
      (⟨.after (w.iterate s x).1.2, (w.iterate s x).1.1⟩, (w.iterate s x).2) := by
  obtain ⟨n, h⟩ := w.exists_moves_rest h₁
  refine ⟨n, ?_⟩
  rw [h, ← after_stop?_advanceRound, iterate_eq_advance]
  rfl

/-- **A round is its moves**, one right after the other, and there is at least one. -/
theorem exists_moves_iterate (s : State) (x : σ) :
    ∃ n, 0 < n ∧ w.moves n ⟨.inPhase .ready, s⟩ x =
      (⟨.after (w.iterate s x).1.2, (w.iterate s x).1.1⟩, (w.iterate s x).2) := by
  obtain ⟨m, hm, hfirst⟩ := w.exists_moves_advance ⟨.ready, s⟩ x
  obtain ⟨n, hrest⟩ := w.exists_moves_rest_iterate (s := s) (x := x) rfl
  exact ⟨m + n, by omega, moves_add hfirst hrest⟩

end OrderRelay.Worker
