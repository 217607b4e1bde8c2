import OrderRelay.Proofs.Processing.Calls
import OrderRelay.Proofs.Worker.Alike

/-!
# The calls of a worker

The calls that a worker makes are noted as those of its processor are: by ports that do the same as before and write
the call down. What is noted changes nothing, since the worker that notes its calls goes through the same rounds.

* `Worker.noting`, the worker with all calls of its ports noted;
* `WorksAlike.loop`, `WorksAlike.run`: workers that act alike do so for any number of rounds;
* **`Worker.exists_run_noting`**: a run with noted calls is the run, and the calls.
-/

namespace OrderRelay

namespace Noted

variable {σ ε α : Type}

/-- A place in the state. -/
def cell (ε : Type) (c : Cell σ α) : Cell (Noted σ ε) α where
  get x := c.get x.state
  set a x := { x with state := c.set a x.state }

/-- The state with its calls is this state. -/
def Of (x : σ) (y : Noted σ ε) : Prop := x = y.state

theorem alike_quiet (m : StateM σ α) : Alike Of m (quiet m : StateM (Noted σ ε) α) := by
  rintro x y rfl
  exact ⟨rfl, rfl⟩

theorem alike_call (note : α → Call ε) (m : StateM σ α) : Alike Of m (call note m) := by
  rintro x y rfl
  exact ⟨rfl, rfl⟩

theorem same_cell (c : Cell σ α) : c.Same Of (cell ε c) where
  get h := congrArg c.get h
  set a h := congrArg (c.set a) h

end Noted

namespace Worker

variable {σ τ ε ε' : Type}

/-- The worker with the calls of its processor and of its consumer noted. -/
def noting (w : Worker σ ε) : Worker (Noted σ ε) ε where
  name := w.name
  processor := w.processor.noting
  consumer := w.consumer.noting ε
  recovery := w.recovery.map (Noted.cell ε)
  tick := w.tick
  stopRequested := Noted.quiet w.stopRequested

/-! ## Many rounds -/

namespace WorksAlike

variable {R : σ → τ → Prop} {w : Worker σ ε} {v : Worker τ ε'} (h : WorksAlike R w v)

include h

theorem iterate (s : State) : Alike R (w.iterate s) (v.iterate s) := by
  intro x y hxy
  rw [iterate_eq_iterateTold, iterate_eq_iterateTold]
  obtain ⟨hanswer, hstate⟩ := h.iterateTold s x y hxy
  exact ⟨congrArg Prod.fst hanswer, hstate⟩

theorem loop (n : Nat) (s : State) : Alike R (w.loop n s) (v.loop n s) := by
  induction n generalizing s with
  | zero => exact .pure _
  | succ n ih =>
    refine (h.iterate s).bind fun (s, stop) => ?_
    cases stop with
    | some why => exact .pure _
    | none => exact ih s

theorem startedEntry (hchannel : w.consumer.channel = v.consumer.channel) : w.startedEntry = v.startedEntry := by
  have hrecovery : w.recovery.isSome = v.recovery.isSome := by
    rcases h.recovery_cases with ⟨hw, hv⟩ | ⟨c, d, hw, hv, -⟩ <;> rw [hw, hv] <;> rfl
  unfold Worker.startedEntry
  rw [h.nameField, hchannel, h.tier, hrecovery]

theorem start (hchannel : w.consumer.channel = v.consumer.channel) : w.start = v.start := by
  unfold Worker.start
  rw [h.tier, hchannel]

theorem finish (s : State) : Alike R (w.finish s) (v.finish s) := by
  unfold Worker.finish stoppedEntry
  rw [h.nameField]
  exact (h.report _).bind fun _ => .pure _

/-- **Workers that act alike** do so from their start on. -/
theorem run (hchannel : w.consumer.channel = v.consumer.channel) (n : Nat) : Alike R (w.run n) (v.run n) := by
  unfold Worker.run
  rw [h.startedEntry hchannel, h.start hchannel]
  refine (h.report _).bind fun _ => (h.loop n _).bind fun (s, stop) => ?_
  cases stop with
  | none => exact .pure _
  | some why => exact h.finish s

end WorksAlike

/-! ## Rounds with noted calls -/

variable (w : Worker σ ε)

theorem worksAlike_noting : WorksAlike Noted.Of w w.noting where
  name := rfl
  codec := rfl
  recovery := by
    show Option.Rel _ w.recovery (w.recovery.map (Noted.cell ε))
    cases w.recovery with
    | none => exact .none
    | some cell => exact .some (Noted.same_cell cell)
  stopRequested := Noted.alike_quiet _
  poll := Noted.alike_call _ _
  rewind _ := Noted.alike_call _ _
  pause _ := Noted.alike_call _ _
  watermarks _ := Noted.alike_call _ _
  report _ := Noted.alike_quiet _
  tier := rfl
  republishKey := rfl
  evaluate := Alike.evaluate rfl rfl rfl rfl (fun _ => Noted.alike_quiet _) fun _ => Noted.alike_call _ _
  carryOut _ _ := Alike.carryOut (p := w.processor) (q := w.noting.processor) rfl (Noted.alike_quiet _)
    (fun _ => Noted.alike_call _ _) _
  commit _ := Noted.alike_call _ _

/-- **A run with noted calls** is the run, and the calls. -/
theorem exists_run_noting (n : Nat) (x : σ) :
    ∃ calls, w.noting.run n ⟨x, []⟩ = ((w.run n x).1, ⟨(w.run n x).2, calls⟩) := by
  obtain ⟨hanswer, hstate⟩ := w.worksAlike_noting.run rfl n x ⟨x, []⟩ rfl
  refine ⟨(w.noting.run n ⟨x, []⟩).2.calls, ?_⟩
  rw [hanswer, hstate]
  rfl

end Worker

end OrderRelay
