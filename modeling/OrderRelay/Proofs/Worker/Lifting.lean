import OrderRelay.Proofs.Worker.Alike
import OrderRelay.Proofs.Worker.Solo

/-!
# Rounds of a worker by itself

A worker by itself goes on move by move, and its loop goes on round by round. A round is some moves. So whatever
is known of the moves of a worker holds of the rounds of its loop as well.

* `SelectsAlike.ask`, `WorksAlike.move` and others: two workers make the same moves if what they use is alike;
* `Stage.Same`, two stages that differ in their deeds only, and `worksAlike_same`: a worker takes no notice of them;
* `Solo.Between`, a worker by itself that stands between two rounds, and `between_outside`;
* **`exists_soloRun_iterate`**: a round of the loop is one or more moves of the worker by itself.
-/

namespace OrderRelay

/-! ## Moves -/

namespace Worker

variable {σ τ ε ε' : Type} {R : σ → τ → Prop} {w : Worker σ ε} {v : Worker τ ε'}

namespace SelectsAlike

variable (h : SelectsAlike R w v)

include h

theorem enter (s : State) : Alike R (w.enter s) (v.enter s) := by
  unfold Worker.enter
  rw [h.nameField]
  refine h.stopRequested.bind fun asked => ?_
  cases asked with
  | true => exact .pure _
  | false =>
    refine (h.pauseDrained s).bind fun (s, complete) => ?_
    cases complete with
    | true => exact (h.report _).bind fun _ => .pure _
    | false => exact .pure _

theorem unread : Alike R w.unread v.unread := by
  unfold Worker.unread
  rcases h.recovery_cases with ⟨hw, hv⟩ | ⟨c, d, hw, hv, hcell⟩ <;> rw [hw, hv]
  · exact .pure _
  · exact hcell.read.bind fun sweep => .pure _

theorem ask (s : State) : Alike R (w.ask s) (v.ask s) := by
  unfold Worker.ask
  rw [h.nameField]
  refine h.poll.bind fun answer => ?_
  rcases answer with err | _ | r
  · cases err <;> exact (h.report _).bind fun _ => .pure _
  · exact h.unread.bind fun ps => .pure _
  · exact .pure _

theorem look (p : Int) : Alike R (w.look p) (v.look p) := by
  unfold Worker.look
  rcases h.recovery_cases with ⟨hw, hv⟩ | ⟨c, d, hw, hv, hcell⟩ <;> rw [hw, hv]
  · exact .pure _
  · exact h.observe hcell p

end SelectsAlike

namespace WorksAlike

variable (h : WorksAlike R w v)

include h

theorem advance (k : Task) : Alike R (w.advance k) (v.advance k) := by
  unfold Worker.advance
  cases k.phase with
  | ready => exact (h.select _).bind fun (s, finding) => .pure _
  | holding r => exact (h.evaluate r).bind fun (event, outcome) => .pure _
  | handled r event outcome =>
    rw [h.plan]
    exact (h.carryOut r (event, outcome)).bind fun resolution => .pure _
  | resolved r reference resolution =>
    exact (h.report _).bind fun _ => (h.settle r resolution).bind fun _ =>
      (h.conclude _ r resolution).bind fun s => .pure _
  | stopped why => exact .pure _

/-- Two workers make the same moves if what they use is alike. -/
theorem move (k : Stand) : Alike R (w.move k) (v.move k) := by
  unfold Worker.move
  cases k.point with
  | inPhase phase =>
    cases phase with
    | ready => exact h.enter _
    | _ => exact (h.advance _).bind fun k => .pure _
  | polling => exact h.ask _
  | judging r => exact (h.takeUp _ r).bind fun (s, finding) => .pure _
  | looking ps =>
    cases ps with
    | nil => exact .pure _
    | cons p ps => exact (h.look p).bind fun _ => .pure _

end WorksAlike

end Worker

/-! ## Deeds are only noted -/

/-- Two stages are the same, but for the deeds that were noted. -/
structure Stage.Same {η : Type} (x y : Stage η) : Prop where
  scene : x.scene = y.scene
  memory : x.memory = y.memory

namespace Handling

variable {η ε : Type} {α : Type}

theorem alike_onScene (m : StateM Scene α) :
    Alike (Stage.Same : Stage η → Stage η → Prop) (Stage.onScene m) (Stage.onScene m) := by
  rintro ⟨scene, memory, deeds⟩ ⟨_, _, deeds'⟩ ⟨rfl, rfl⟩
  exact ⟨rfl, rfl, rfl⟩

theorem alike_onMemory (m : StateM η α) :
    Alike (Stage.Same : Stage η → Stage η → Prop) (Stage.onMemory m) (Stage.onMemory m) := by
  rintro ⟨scene, memory, deeds⟩ ⟨_, _, deeds'⟩ ⟨rfl, rfl⟩
  exact ⟨rfl, rfl, rfl⟩

theorem alike_note (d : Deed) :
    Alike (Stage.Same : Stage η → Stage η → Prop) (Stage.note d) (Stage.note d) := fun _ _ h => ⟨rfl, h.1, h.2⟩

theorem alike_publish (e : Envelope) :
    Alike (Stage.Same : Stage η → Stage η → Prop) (Stage.publish e) (Stage.publish e) := by
  refine (alike_onScene _).bind fun answer => ?_
  cases answer with
  | ok position => exact (alike_note _).bind fun _ => .pure _
  | error err => exact .pure _

variable (k : Handling η ε) (topology : Topology) (tier : Tier) (mode : Mode) (tick : Text.Duration)

/-- **A worker takes no notice** of what it did before. -/
theorem worksAlike_same : Worker.WorksAlike (Stage.Same : Stage η → Stage η → Prop)
    (k.worker topology tier mode tick) (k.worker topology tier mode tick) where
  name := rfl
  codec := rfl
  tier := rfl
  republishKey := rfl
  recovery := by
    cases mode with
    | feed => exact .none
    | recovery =>
      refine .some ⟨fun h => ?_, fun sweep h => ⟨?_, h.memory⟩⟩
      · exact congrArg (Scene.sweepCell (topology.channelName tier)).get h.scene
      · exact congrArg ((Scene.sweepCell (topology.channelName tier)).set sweep) h.scene
  stopRequested := alike_onScene _
  poll := alike_onScene _
  rewind _ := (alike_note _).bind fun _ => alike_onScene _
  pause _ := alike_onScene _
  watermarks _ := alike_onScene _
  report _ := alike_onScene _
  evaluate := Alike.evaluate rfl rfl rfl rfl (fun _ => alike_onScene _) fun e =>
    (alike_onMemory _).bind fun (answer, entries) => (Alike.forM (fun _ => alike_onScene _) entries).bind
      fun _ => .pure _
  carryOut _ _ := by
    refine Alike.carryOut rfl ?_ alike_publish _
    exact fun x y h => ⟨congrArg Scene.now h.scene, h⟩
  commit _ := (alike_note _).bind fun _ => alike_onScene _

end Handling

/-! ## Rounds -/

/-- The worker by itself stands between two rounds, or has left its loop for the reason `stop`. It keeps `s` for
itself, and `x` is what it has before it. -/
structure Solo.Between {η : Type} (f : Solo η) (stop : Option Stop) (s : Worker.State) (x : Stage η) : Prop where
  stand_eq : f.stand = ⟨.after stop, s⟩
  scene_eq : f.scene = x.scene
  memory_eq : f.memory = x.memory

/-- The stage after others have done something. -/
def Stage.around {η : Type} (x : Stage η) (o : Outside η) : Stage η :=
  { x with
    scene := { x.scene with bus := o.alter x.scene.bus, now := o.time x.scene.now }
    memory := o.mind x.memory }

namespace Handling

variable {η ε : Type} (k : Handling η ε) (topology : Topology) (tier : Tier) (mode : Mode) (tick : Text.Duration)

theorem between_outside {f : Solo η} {stop : Option Stop} {s : Worker.State} {x : Stage η}
    (h : f.Between stop s x) (o : Outside η) :
    (k.soloPerform topology tier mode tick f (.outside o)).Between stop s (x.around o) := by
  refine ⟨h.stand_eq, ?_, ?_⟩
  · show { f.scene with bus := o.alter f.scene.bus, now := o.time f.scene.now } = _
    rw [h.scene_eq]
    rfl
  · show o.mind f.memory = _
    rw [h.memory_eq]
    rfl

theorem soloRun_append (f : Solo η) (acts more : List (SoloAct η)) :
    k.soloRun topology tier mode tick f (acts ++ more) =
      k.soloRun topology tier mode tick (k.soloRun topology tier mode tick f acts) more := List.foldl_append

/-- What was told stays told. -/
theorem prefix_soloMove (f : Solo η) : f.history <+: (k.soloMove topology tier mode tick f).history := by
  show f.history <+: f.history ++ f.asking ++ _ ++ _
  rw [List.append_assoc, List.append_assoc]
  exact List.prefix_append _ _

theorem prefix_soloRun (n : Nat) (f : Solo η) :
    f.history <+: (k.soloRun topology tier mode tick f (List.replicate n .move)).history := by
  induction n generalizing f with
  | zero => exact List.prefix_rfl
  | succ n ih => exact (k.prefix_soloMove topology tier mode tick f).trans (ih _)

/-- Moves of the worker by itself, one right after the other. -/
theorem soloRun_moves (n : Nat) {f : Solo η} {x : Stage η} (hscene : f.scene = x.scene)
    (hmemory : f.memory = x.memory) :
    (k.soloRun topology tier mode tick f (List.replicate n .move)).stand =
        ((k.worker topology tier mode tick).moves n f.stand x).1 ∧
      (k.soloRun topology tier mode tick f (List.replicate n .move)).scene =
        ((k.worker topology tier mode tick).moves n f.stand x).2.scene ∧
      (k.soloRun topology tier mode tick f (List.replicate n .move)).memory =
        ((k.worker topology tier mode tick).moves n f.stand x).2.memory := by
  induction n generalizing f x with
  | zero => exact ⟨rfl, hscene, hmemory⟩
  | succ n ih =>
    obtain ⟨hstand, hsame⟩ := (k.worksAlike_same topology tier mode tick).move f.stand
      ⟨f.scene, f.memory, []⟩ x ⟨hscene, hmemory⟩
    have hmove : (k.worker topology tier mode tick).moves (n + 1) f.stand x =
        (k.worker topology tier mode tick).moves n (k.soloMove topology tier mode tick f).stand
          ((k.worker topology tier mode tick).move f.stand x).2 :=
      Worker.moves_succ (Prod.ext hstand.symm rfl)
    rw [hmove]
    exact ih hsame.scene hsame.memory

/-- **A round of the loop** is one or more moves of the worker by itself. -/
theorem exists_soloRun_iterate {f : Solo η} {s : Worker.State} {x : Stage η}
    (h : f.Between none s x) : ∃ n, 0 < n ∧
      (k.soloRun topology tier mode tick f (List.replicate n .move)).Between
        ((k.worker topology tier mode tick).iterate s x).1.2
        ((k.worker topology tier mode tick).iterate s x).1.1
        ((k.worker topology tier mode tick).iterate s x).2 := by
  obtain ⟨n, hn, hmoves⟩ := (k.worker topology tier mode tick).exists_moves_iterate s x
  obtain ⟨hstand, hscene, hmemory⟩ := k.soloRun_moves topology tier mode tick n h.scene_eq h.memory_eq
  rw [h.stand_eq, show Worker.Point.after none = .inPhase .ready from rfl, hmoves] at hstand hscene hmemory
  exact ⟨n, hn, hstand, hscene, hmemory⟩

end Handling

end OrderRelay
