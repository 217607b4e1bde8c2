import OrderRelay.Proofs.Bus.Journal
import OrderRelay.Proofs.Feed.Edges

/-!
# The history of a crew and the logs

The history of a run tells of every record that was appended in it: whatever workers and others do keeps the
correspondence of the history with the logs.

* `Crew.Worked.recorded`, `Crew.recorded_outside`.
-/

namespace OrderRelay.Crew

variable {η ε : Type} {crew : Crew η ε} {start b : Bus} {h : List Event} {f f' : Floor η} {t : Tier}

theorem Worked.recorded (hw : Worked crew f t f') (hr : Recorded start f.bus f.history) :
    Recorded start f'.bus f'.history := by
  have quiet (e : Event) (he : e.Quiet) {b' : Bus} (hlog : ∀ c p, b'.log c p = f.bus.log c p) :
      Recorded start b' (f.history ++ [e]) :=
    hr.quiet [e] (fun e' he' => List.mem_singleton.mp he' ▸ he) hlog
  cases hw with
  | idle => exact hr
  | took => exact hr
  | evaluated => exact hr
  | finished => exact quiet (.resolved t _ _) trivial fun _ _ => rfl
  | @moved _ _ r _ _ _ next _ _ position bus _ _ publish =>
    have h : Recorded start bus _ :=
      (hr.publishTo publish (some (t, r))).quiet [.resolved t r (.republished next position)]
        (fun e he => List.mem_singleton.mp he ▸ trivial) fun _ _ => rfl
    rwa [List.append_assoc] at h
  | refused => exact quiet (.resolved t _ _) trivial fun _ _ => rfl
  | committed => exact quiet (.committed t _) trivial fun _ _ => rfl
  | rewound => exact quiet (.rewound t _) trivial fun _ _ => rfl

theorem recorded_outside (hr : Recorded start b h) (a : Outside η) :
    Recorded start (a.alter b) (h ++ a.events b) := by
  rcases a.alter_cases b with ⟨e, p, position, hb, he⟩ | ⟨c, p, offset, hb, he⟩ | ⟨hlog, -, he⟩
  · rw [he]
    exact hr.publishTo hb none
  · rw [he, hb]
    exact (hr.truncate c p offset).quiet [.removed c p _ _]
      (fun e he => List.mem_singleton.mp he ▸ trivial) fun _ _ => rfl
  · rw [he]
    exact hr.quiet [] (fun _ he => nomatch he) hlog

end OrderRelay.Crew
