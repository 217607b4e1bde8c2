import OrderRelay.Proofs.Consumer.Reading
import OrderRelay.Proofs.Recovery.Assignment
import OrderRelay.Services

/-!
# Joining with a sweep

A consumer whose sweep listens to its assignment starts every partition at its first retained record, wherever
its group left off, and the window of the partition ends with its last one.

* `track_control`: what a bus answers;
* `exists_assigned` and **`exists_joined`**: the windows and the read positions of a consumer that has just got
  its partitions.
-/

namespace OrderRelay

namespace Sweep

variable {b : Bus} {channel : String}

theorem track_control (h : b.failing channel = false) (p : Int) :
    track (b.control channel) p = .ok ((b.log channel p).watermarks, b.low channel p) := by
  simp only [track, Bus.control, Bus.watermarks, h, Bool.false_eq_true, if_false]
  rfl

theorem track_control_failing (h : b.failing channel = true) (p : Int) :
    ∃ e, track (b.control channel) p = .error e := by
  refine ⟨⟨channel, p, "broker unreachable"⟩, ?_⟩
  simp only [track, Bus.control, Bus.watermarks, h, if_true]
  rfl

/-- An assignment on a bus can only go through when the bus answers. -/
theorem failing_eq_false {ps : List Int} {s : Sweep} {p : Int} (hp : p ∈ ps)
    (h : (assigned (b.control channel) ps s).failure = none) : b.failing channel = false := by
  cases hf : b.failing channel with
  | false => rfl
  | true =>
    cases ps with
    | nil => exact nomatch hp
    | cons q ps =>
      obtain ⟨e, he⟩ := track_control_failing hf q
      exact nomatch (assigned_cons_error he ps s).1.symm.trans h

end Sweep

/-- What an assignment that goes through leaves: windows over what is retained, and read positions at their
beginnings. Other partitions keep the window they had, and lose their position. -/
theorem exists_assigned {b : Bus} {c : Consumer} {prior : Sweep}
    (hp : (c.assign Scene.listener b (some prior)).consumer.pending = false) :
    ∃ sweep positions, (c.assign Scene.listener b (some prior)).state = some sweep ∧
      (c.assign Scene.listener b (some prior)).consumer =
        { c with positions, paused := .empty, pending := false } ∧
      (∀ p ∈ b.partitionList,
        sweep.windows.get? p = some (Sweep.windowOf (b.log c.channel.name p).watermarks) ∧
        positions.get? p = some (b.low c.channel.name p)) ∧
      ∀ p ∉ b.partitionList, sweep.windows.get? p = prior.windows.get? p ∧ positions.get? p = none := by
  let r := Sweep.assigned (b.control c.channel.name) b.partitionList prior
  obtain ⟨hstate, hconsumer⟩ := Consumer.assign_eq Scene.listener b c (some prior)
  have hanswer : Scene.listener.assigned (b.control c.channel.name) b.partitionList (some prior) =
      ⟨some r.state, r.seeks, r.failure, r.entries⟩ := rfl
  rw [hanswer] at hstate hconsumer
  cases hf : r.failure with
  | some e =>
    rw [hconsumer, hf] at hp
    exact nomatch hp
  | none =>
    rw [hf] at hconsumer
    refine ⟨r.state, _, hstate, hconsumer, fun p hpl => ?_, fun p hpl => ?_⟩
    · have ht := Sweep.track_control (Sweep.failing_eq_false hpl hf) p
      constructor
      · rw [Sweep.get?_assigned_of_success hf, if_pos hpl, Sweep.windowFrom?_ok ht]
      · refine (Sweep.get?_seeks_of_success hf _ p).trans ?_
        rw [if_pos hpl, Sweep.earliest?, ht]
    · constructor
      · rw [Sweep.get?_assigned_of_success hf, if_neg hpl]
      · refine (Sweep.get?_seeks_of_success hf _ p).trans ?_
        rw [if_neg hpl, Consumer.get?_starts, if_neg hpl]

/-- **What a consumer joins with**, if its assignment goes through: windows over what is retained, and read
positions at their beginnings. -/
theorem exists_joined {b : Bus} {channel : Channel} {name : String} {prior : Sweep}
    (hp : (Consumer.join Scene.listener b channel name (some prior)).consumer.pending = false) :
    ∃ sweep, (Consumer.join Scene.listener b channel name (some prior)).state = some sweep ∧
      (Consumer.join Scene.listener b channel name (some prior)).consumer.channel = channel ∧
      ∀ p ∈ b.partitionList,
        sweep.windows.get? p = some (Sweep.windowOf (b.log channel.name p).watermarks) ∧
        (Consumer.join Scene.listener b channel name (some prior)).consumer.positions.get? p =
          some (b.low channel.name p) := by
  obtain ⟨sweep, positions, hstate, hconsumer, hin, -⟩ := exists_assigned hp
  refine ⟨sweep, hstate, congrArg Consumer.channel hconsumer, fun p hpl => ⟨(hin p hpl).1, ?_⟩⟩
  exact (congrArg (fun c => c.positions.get? p) hconsumer).trans (hin p hpl).2

end OrderRelay
