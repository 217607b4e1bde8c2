import Mathlib.Data.List.Induction
import OrderRelay.Proofs.Recovery.Assignment

/-!
# The history of a sweep

All that a sweep answers follows from what was done to it so far. A partition is *active* from the moment it got a
window until the next attempt to give it one, or until it is revoked. What counts of an active partition are its
watermarks at that first moment and what was heard of it since.

* `Call`, what can be done to a sweep, and `Moment`, what this comes to for single partitions;
* `Active` and `Spent`, said of the moments alone;
* `meet`, a sweep after one moment, and `performAll_eq`: calls are no more than their moments;
* `Mirrors`, the invariant: a partition has a window exactly while it is active, and the window is drained
  exactly when the partition is spent;
* `Ignores` and `Tracks`, all that a sweep answers about a partition, and `Determined`, which says when it does;
* **`determined_run`**: the answers of a sweep after any calls, said of its history.
-/

namespace OrderRelay

/-- The note says that nothing is left below the offset `high`. -/
def Note.Closes (high : Int) : Note → Prop
  | judged _ offset => high ≤ offset
  | settled _ offset => high - 1 ≤ offset
  | observed _ low => high ≤ low

/-- A note closes what lies below an offset exactly when it reaches the last offset there. -/
theorem Note.closes_iff_reaches (n : Note) (high : Int) : n.Closes high ↔ n.reaches (high - 1) = true := by
  cases n with
  | judged q offset =>
    show high ≤ offset ↔ decide (high - 1 < offset) = true
    rw [decide_eq_true_iff]
    omega
  | settled q offset =>
    show high - 1 ≤ offset ↔ decide (high - 1 ≤ offset) = true
    rw [decide_eq_true_iff]
  | observed q low =>
    show high ≤ low ↔ decide (high - 1 < low) = true
    rw [decide_eq_true_iff]
    omega

/-- An element of a list with one more at its end is that one, or has it after itself. -/
theorem snoc_eq_split {α : Type} {xs before after : List α} {x y : α}
    (h : xs ++ [x] = before ++ y :: after) :
    (after = [] ∧ xs = before ∧ x = y) ∨ ∃ init, after = init ++ [x] ∧ xs = before ++ y :: init := by
  rcases List.eq_nil_or_concat after with rfl | ⟨init, z, rfl⟩
  · obtain ⟨hxs, hx⟩ := List.append_inj' h rfl
    exact .inl ⟨rfl, hxs, (List.cons.inj hx).1⟩
  · rw [List.concat_eq_append, ← List.cons_append, ← List.append_assoc] at h
    obtain ⟨hxs, hx⟩ := List.append_inj' h rfl
    exact .inr ⟨init, by rw [List.concat_eq_append, (List.cons.inj hx).1], hxs⟩

namespace Sweep

/-! ## Histories -/

/-- What can be done to a sweep. A control whose answers change in the course of an assignment makes it several
assignments, one after the other. -/
inductive Call where
  | assigned (control : Control) (ps : List Int)
  | revoked (ps : List Int)
  | heard (n : Note)

/-- What can happen to a partition of a sweep. -/
inductive Moment where
  /-- The partition could be asked, and got its window. -/
  | tracked (p : Int) (marks : Watermarks)
  /-- The partition could not be asked. -/
  | failed (p : Int)
  | revoked (p : Int)
  | heard (n : Note)

namespace Moment

/-- The partition is not what it was before: it was asked for its window, or was revoked. -/
def Ends (p : Int) : Moment → Prop
  | tracked q _ => q = p
  | failed q => q = p
  | revoked q => q = p
  | heard _ => False

/-- The attempts of an assignment. A partition gets its window when both its range and its earliest record can be
asked for. The first attempt that fails is the last. -/
def attempts (control : Control) : List Int → List Moment
  | [] => []
  | p :: ps => match control.watermarks p, control.seekEarliest p with
    | .ok marks, .ok _ => tracked p marks :: attempts control ps
    | _, _ => [failed p]

end Moment

namespace Call

/-- What a call comes to. -/
def moments : Call → List Moment
  | assigned control ps => Moment.attempts control ps
  | revoked ps => ps.map .revoked
  | heard n => [.heard n]

/-- What several calls come to. -/
def history (calls : List Call) : List Moment := calls.flatMap moments

theorem history_append (calls later : List Call) : history (calls ++ later) = history calls ++ history later :=
  List.flatMap_append

end Call

/-! ## Activations -/

/-- The partition got its last window with the watermarks `marks`, and `since` came after it. -/
def Active (h : List Moment) (p : Int) (marks : Watermarks) (since : List Moment) : Prop :=
  ∃ before, h = before ++ .tracked p marks :: since ∧ ∀ m ∈ since, ¬ m.Ends p

/-- Nothing was there for the partition in the beginning, or a note says that nothing is left. -/
def Spent (p : Int) (marks : Watermarks) (since : List Moment) : Prop :=
  marks.high ≤ marks.low ∨ ∃ n, .heard n ∈ since ∧ n.partition = p ∧ n.Closes marks.high

section Active

variable {h : List Moment} {p : Int} {marks : Watermarks} {since : List Moment} {m : Moment}

theorem not_active_nil : ¬ Active [] p marks since := by
  rintro ⟨before, h, -⟩
  simp at h

theorem Active.append (ha : Active h p marks since) {later : List Moment} (hl : ∀ m ∈ later, ¬ m.Ends p) :
    Active (h ++ later) p marks (since ++ later) := by
  obtain ⟨before, rfl, hs⟩ := ha
  refine ⟨before, by simp, fun m hm => ?_⟩
  rcases List.mem_append.mp hm with hm | hm
  · exact hs m hm
  · exact hl m hm

/-- **Activations** begin with the moment, or go on with it. -/
theorem active_snoc_iff : Active (h ++ [m]) p marks since ↔
    (m = .tracked p marks ∧ since = []) ∨
      ¬ m.Ends p ∧ ∃ earlier, since = earlier ++ [m] ∧ Active h p marks earlier := by
  constructor
  · rintro ⟨before, heq, hs⟩
    rcases snoc_eq_split heq with ⟨rfl, -, rfl⟩ | ⟨earlier, rfl, rfl⟩
    · exact .inl ⟨rfl, rfl⟩
    · exact .inr ⟨hs m (by simp), earlier, rfl, before, rfl, fun x hx => hs x (List.mem_append_left _ hx)⟩
  · rintro (⟨rfl, rfl⟩ | ⟨hm, earlier, rfl, ha⟩)
    · exact ⟨h, rfl, fun _ hm => nomatch hm⟩
    · exact ha.append fun x hx => List.mem_singleton.mp hx ▸ hm

/-- There is at most one activation at a time. -/
theorem Active.unique (ha : Active h p marks since) {marks' : Watermarks} {since' : List Moment}
    (ha' : Active h p marks' since') : marks' = marks ∧ since' = since := by
  induction h using List.reverseRecOn generalizing since since' with
  | nil => exact absurd ha not_active_nil
  | append_singleton h m ih =>
    rcases active_snoc_iff.mp ha with ⟨rfl, rfl⟩ | ⟨hm, earlier, rfl, hb⟩
    · rcases active_snoc_iff.mp ha' with ⟨heq, rfl⟩ | ⟨hm, -⟩
      · cases heq
        exact ⟨rfl, rfl⟩
      · exact absurd rfl hm
    · rcases active_snoc_iff.mp ha' with ⟨rfl, -⟩ | ⟨-, earlier', rfl, hb'⟩
      · exact absurd rfl hm
      · obtain ⟨rfl, rfl⟩ := ih hb hb'
        exact ⟨rfl, rfl⟩

theorem Active.not_ended (hm : m.Ends p) (hq : m ≠ .tracked p marks) : ¬ Active (h ++ [m]) p marks since := by
  intro ha
  rcases active_snoc_iff.mp ha with ⟨rfl, -⟩ | ⟨hn, -⟩
  · exact hq rfl
  · exact hn hm

theorem spent_nil_iff : Spent p marks [] ↔ marks.high ≤ marks.low := by
  simp [Spent]

/-- A partition that is spent was so before, or was closed by the last moment. -/
theorem spent_snoc_iff : Spent p marks (since ++ [m]) ↔
    Spent p marks since ∨ ∃ n, m = .heard n ∧ n.partition = p ∧ n.Closes marks.high := by
  unfold Spent
  constructor
  · rintro (hl | ⟨n, hn, hp, hc⟩)
    · exact .inl (.inl hl)
    · rcases List.mem_append.mp hn with hn | hn
      · exact .inl (.inr ⟨n, hn, hp, hc⟩)
      · exact .inr ⟨n, (List.mem_singleton.mp hn).symm, hp, hc⟩
  · rintro ((hl | ⟨n, hn, hp, hc⟩) | ⟨n, rfl, hp, hc⟩)
    · exact .inl hl
    · exact .inr ⟨n, List.mem_append_left _ hn, hp, hc⟩
    · exact .inr ⟨n, by simp, hp, hc⟩

theorem Spent.append (hs : Spent p marks since) (later : List Moment) : Spent p marks (since ++ later) :=
  hs.imp_right fun ⟨n, hn, hp, hc⟩ => ⟨n, List.mem_append_left later hn, hp, hc⟩

end Active

/-! ## Calls, moment by moment -/

/-- The sweep after a call. -/
def perform (s : Sweep) : Call → Sweep
  | .assigned control ps => (assigned control ps s).state
  | .revoked ps => s.revoked ps
  | .heard n => s.hear n

/-- The sweep after several calls. -/
def performAll (s : Sweep) (calls : List Call) : Sweep := calls.foldl perform s

/-- The sweep after a moment. -/
def meet (s : Sweep) : Moment → Sweep
  | .tracked p marks => { s with windows := s.windows.insert p (windowOf marks) }
  | .failed p => { s with windows := s.windows.erase p }
  | .revoked p => { s with windows := s.windows.erase p }
  | .heard n => s.hear n

theorem assigned_eq_foldl_meet (control : Control) (ps : List Int) (s : Sweep) :
    (assigned control ps s).state = (Moment.attempts control ps).foldl meet s := by
  induction ps generalizing s with
  | nil => rfl
  | cons p ps ih =>
    unfold assigned track Moment.attempts
    cases control.watermarks p with
    | error e => rfl
    | ok marks =>
      cases control.seekEarliest p with
      | error e => rfl
      | ok earliest => exact ih { s with windows := s.windows.insert p (windowOf marks) }

theorem revoked_eq_foldl_meet (ps : List Int) (s : Sweep) :
    s.revoked ps = (ps.map Moment.revoked).foldl meet s := by
  induction ps generalizing s with
  | nil => rfl
  | cons p ps ih => exact ih { s with windows := s.windows.erase p }

theorem perform_eq (s : Sweep) (c : Call) : s.perform c = c.moments.foldl meet s := by
  cases c with
  | assigned control ps => exact assigned_eq_foldl_meet control ps s
  | revoked ps => exact revoked_eq_foldl_meet ps s
  | heard n => rfl

/-- Calls are no more than their moments. -/
theorem performAll_eq (s : Sweep) (calls : List Call) :
    s.performAll calls = (Call.history calls).foldl meet s := by
  induction calls generalizing s with
  | nil => rfl
  | cons c calls ih =>
    show (s.perform c).performAll calls = (c.moments ++ Call.history calls).foldl meet s
    rw [ih, perform_eq, List.foldl_append]

/-! ## The windows mirror the history -/

/-- A partition has no window while it is not active. Its window ends with its last offset, and is drained once it
is spent. -/
def Pictures (h : List Moment) (p : Int) : Option Window → Prop
  | none => ∀ marks since, ¬ Active h p marks since
  | some w => ∃ marks since, Active h p marks since ∧ w.last = marks.high - 1 ∧
      (w.drained = true ↔ Spent p marks since)

/-- The windows of a sweep show what happened to it. -/
def Mirrors (h : List Moment) (s : Sweep) : Prop := ∀ p, Pictures h p (s.windows.get? p)

theorem mirrors_start (channel : String) : Mirrors [] (start channel) := fun _ _ _ => not_active_nil

section Step

variable {h : List Moment} {p : Int} {m : Moment} {o : Option Window}

theorem pictures_tracked (h : List Moment) (p : Int) (marks : Watermarks) :
    Pictures (h ++ [.tracked p marks]) p (some (windowOf marks)) :=
  ⟨marks, [], active_snoc_iff.mpr (.inl ⟨rfl, rfl⟩), rfl, (windowOf_drained marks).trans spent_nil_iff.symm⟩

theorem pictures_ended (hm : m.Ends p) (hq : ∀ marks, m ≠ .tracked p marks) : Pictures (h ++ [m]) p none :=
  fun marks _ => Active.not_ended hm (hq marks)

/-- A moment that does not end the activation can only close the window. -/
theorem Pictures.goes_on (hp : Pictures h p o) (hm : ¬ m.Ends p) {f : Window → Window}
    (hlast : ∀ w, (f w).last = w.last)
    (hf : ∀ w, (f w).drained = true ↔
      w.drained = true ∨ ∃ n, m = .heard n ∧ n.partition = p ∧ n.Closes (w.last + 1)) :
    Pictures (h ++ [m]) p (o.map f) := by
  cases o with
  | none =>
    intro marks since ha
    rcases active_snoc_iff.mp ha with ⟨rfl, -⟩ | ⟨-, earlier, -, hb⟩
    · exact hm rfl
    · exact hp marks earlier hb
  | some w =>
    obtain ⟨marks, since, ha, hw, hd⟩ := hp
    refine ⟨marks, since ++ [m], active_snoc_iff.mpr (.inr ⟨hm, since, rfl, ha⟩), (hlast w).trans hw, ?_⟩
    rw [hf, hd, hw, Int.sub_add_cancel, spent_snoc_iff]

theorem Pictures.unheard (hp : Pictures h p o) (hm : ¬ m.Ends p) (hn : ∀ n, m ≠ .heard n) :
    Pictures (h ++ [m]) p o := by
  have hid := hp.goes_on hm (fun w => rfl) fun w =>
    ⟨.inl, fun hw => hw.resolve_right fun ⟨n, hmn, _⟩ => hn n hmn⟩
  rwa [Option.map_id'] at hid

theorem Pictures.heard (hp : Pictures h p o) (n : Note) :
    Pictures (h ++ [.heard n]) p (o.map fun w => if n.partition = p ∧ n.drains w then w.close else w) := by
  refine hp.goes_on id (fun w => ?_) fun w => ?_
  · split <;> rfl
  · have hc : (∃ k, Moment.heard n = .heard k ∧ k.partition = p ∧ k.Closes (w.last + 1)) ↔
        n.partition = p ∧ n.reaches w.last = true := by
      simp [Note.closes_iff_reaches]
    rw [hc]
    split
    · rename_i hd
      have hr : n.reaches w.last = true := (Bool.and_eq_true_iff.mp hd.2).2
      exact iff_of_true rfl (.inr ⟨hd.1, hr⟩)
    · rename_i hd
      refine ⟨.inl, ?_⟩
      rintro (hw | ⟨hq, hr⟩)
      · exact hw
      · by_contra hw
        exact hd ⟨hq, by simp [Note.drains, hw, hr]⟩

end Step

/-- The windows go on mirroring the history, whatever comes next. -/
theorem Mirrors.meet {h : List Moment} {s : Sweep} (hs : Mirrors h s) (m : Moment) :
    Mirrors (h ++ [m]) (s.meet m) := by
  intro p
  cases m with
  | tracked q marks =>
    show Pictures _ p ((s.windows.insert q (windowOf marks)).get? p)
    rw [PartitionMap.get?_insert]
    split
    · rename_i hq
      exact hq ▸ pictures_tracked h q marks
    · rename_i hq
      exact (hs p).unheard hq nofun
  | failed q | revoked q =>
    show Pictures _ p ((s.windows.erase q).get? p)
    rw [PartitionMap.get?_erase]
    split
    · rename_i hq
      exact pictures_ended hq nofun
    · rename_i hq
      exact (hs p).unheard hq nofun
  | heard n =>
    show Pictures _ p ((s.hear n).windows.get? p)
    rw [get?_hear]
    exact (hs p).heard n

theorem Mirrors.foldl_meet {h : List Moment} {s : Sweep} (hs : Mirrors h s) (ms : List Moment) :
    Mirrors (h ++ ms) (ms.foldl Sweep.meet s) := by
  induction ms generalizing h s with
  | nil => exact (List.append_nil h).symm ▸ hs
  | cons m ms ih => exact List.append_cons h m ms ▸ ih (hs.meet m)

/-- After any calls, the windows show the history. -/
theorem mirrors_performAll (channel : String) (calls : List Call) :
    Mirrors (Call.history calls) ((start channel).performAll calls) := by
  rw [performAll_eq]
  exact (mirrors_start channel).foldl_meet (Call.history calls)

/-! ## What a sweep answers -/

/-- The sweep knows nothing of the partition, and does not listen to what it hears of it. -/
structure Ignores (s : Sweep) (p : Int) : Prop where
  not_pending : p ∉ s.pending
  not_drained : p ∉ s.drained
  not_snapshots : ∀ last, (p, last) ∉ s.snapshots
  snapshot? : s.snapshot? p = none
  judge : ∀ offset, s.judge p offset = (.unassigned, s)
  settle : ∀ offset, s.settle p offset = (false, s)
  observeLow : ∀ low, s.observeLow p low = (false, s)

/-- The sweep goes over what the partition retained, up to the offset before `marks.high`. It is done with it when
`spent` holds. -/
structure Tracks (s : Sweep) (p : Int) (marks : Watermarks) (spent : Prop) : Prop where
  pending : p ∈ s.pending ↔ ¬ spent
  drained : p ∈ s.drained ↔ spent
  snapshots : ∀ last, (p, last) ∈ s.snapshots ↔ last = marks.high - 1
  snapshot? : s.snapshot? p = some (marks.high - 1)
  process : ∀ offset, (s.judge p offset).1 = .process ↔ ¬ spent ∧ offset < marks.high
  done : ∀ offset, (s.judge p offset).1 = .drained ↔ spent ∨ marks.high ≤ offset
  settle : ∀ offset, (s.settle p offset).1 = true ↔ ¬ spent ∧ marks.high - 1 ≤ offset
  observeLow : ∀ low, (s.observeLow p low).1 = true ↔ ¬ spent ∧ marks.high ≤ low

theorem mem_snapshots_iff {s : Sweep} {p last : Int} : (p, last) ∈ s.snapshots ↔ s.snapshot? p = some last := by
  unfold snapshots snapshot?
  rw [List.mem_map, Option.map_eq_some_iff]
  constructor
  · rintro ⟨⟨q, w⟩, he, heq⟩
    cases heq
    exact ⟨w, PartitionMap.mem_entries_iff.mp he, rfl⟩
  · rintro ⟨w, hw, rfl⟩
    exact ⟨(p, w), PartitionMap.mem_entries_iff.mpr hw, rfl⟩

theorem ignores_of_none {s : Sweep} {p : Int} (h : s.windows.get? p = none) : s.Ignores p where
  not_pending hp := by
    obtain ⟨w, hw, -⟩ := mem_pending_iff.mp hp
    exact nomatch h.symm.trans hw
  not_drained hp := by
    obtain ⟨w, hw, -⟩ := mem_drained_iff.mp hp
    exact nomatch h.symm.trans hw
  not_snapshots last := by simp [mem_snapshots_iff, snapshot?, h]
  snapshot? := by simp [snapshot?, h]
  judge offset := by simp [judge, h]
  settle offset := by simp [settle, h]
  observeLow low := by simp [observeLow, h]

section Window

variable {s : Sweep} {p : Int} {w : Window} (h : s.windows.get? p = some w)
include h

theorem judge_eq_of_some (offset : Int) :
    (s.judge p offset).1 = if w.drained = true ∨ w.last < offset then .drained else .process := by
  unfold judge
  rw [h]
  dsimp only
  cases hd : w.drained with
  | true => simp
  | false =>
    by_cases ho : offset ≤ w.last
    · simp [ho, Int.not_lt.mpr ho]
    · simp [ho, Int.not_le.mp ho]

/-- Working off a record is answered by whether this drains the window. -/
theorem settle_eq_of_some (offset : Int) : (s.settle p offset).1 = (Note.settled p offset).drains w := by
  unfold settle Note.drains Note.reaches
  rw [h]
  dsimp only
  cases hd : w.drained with
  | true => simp
  | false =>
    by_cases ho : offset < w.last
    · simp [ho, Int.not_le.mpr ho]
    · simp [ho, Int.not_lt.mp ho]

/-- A look at the low end is answered by whether this drains the window. -/
theorem observeLow_eq_of_some (low : Int) : (s.observeLow p low).1 = (Note.observed p low).drains w := by
  unfold observeLow Note.drains Note.reaches
  rw [h]
  dsimp only
  cases hd : w.drained with
  | true => simp
  | false =>
    by_cases ho : low ≤ w.last
    · simp [ho, Int.not_lt.mpr ho]
    · simp [ho, Int.not_le.mp ho]

theorem tracks_of_some {marks : Watermarks} {spent : Prop} (hlast : w.last = marks.high - 1)
    (hd : w.drained = true ↔ spent) : s.Tracks p marks spent := by
  have hopen : w.drained = false ↔ ¬ spent := by rw [← hd, Bool.not_eq_true]
  have hdone : ∀ offset, (s.judge p offset).1 = .drained ↔ spent ∨ marks.high ≤ offset := by
    intro offset
    have hlt : w.last < offset ↔ marks.high ≤ offset := by omega
    rw [judge_eq_of_some h, ← hd, ← hlt]
    split
    · rename_i ho
      exact iff_of_true rfl ho
    · rename_i ho
      exact iff_of_false nofun ho
  have hdrains : ∀ n : Note, n.drains w = true ↔ ¬ spent ∧ n.Closes marks.high := by
    intro n
    rw [Note.closes_iff_reaches, ← hlast, ← hopen]
    simp [Note.drains]
  exact {
    pending := by simp [mem_pending_iff, h, hopen]
    drained := by simp [mem_drained_iff, h, hd]
    snapshots := fun last => by simp [mem_snapshots_iff, snapshot?, h, hlast, eq_comm]
    snapshot? := by simp [snapshot?, h, hlast]
    process := fun offset => by
      have hnot : (s.judge p offset).1 = .process ↔ ¬ (s.judge p offset).1 = .drained := by
        rw [judge_eq_of_some h]
        split <;> simp
      rw [hnot, hdone, not_or, Int.not_le]
    done := hdone
    settle := fun offset => by
      rw [settle_eq_of_some h, hdrains]
      rfl
    observeLow := fun low => by
      rw [observeLow_eq_of_some h, hdrains]
      rfl
  }

end Window

/-- What a sweep answers after a history. -/
structure Determined (h : List Moment) (s : Sweep) : Prop where
  outside : ∀ p, (∀ marks since, ¬ Active h p marks since) → s.Ignores p
  inside : ∀ p marks since, Active h p marks since → s.Tracks p marks (Spent p marks since)
  pending_sorted : s.pending.Pairwise (· < ·)
  drained_sorted : s.drained.Pairwise (· < ·)
  snapshots_sorted : s.snapshots.Pairwise fun a b => a.1 < b.1
  isComplete : s.isComplete = true ↔ (∃ p marks since, Active h p marks since) ∧
    ∀ p marks since, Active h p marks since → Spent p marks since

namespace Mirrors

variable {h : List Moment} {s : Sweep} (hs : Mirrors h s) {p : Int}
include hs

theorem get?_eq_none (hn : ∀ marks since, ¬ Active h p marks since) : s.windows.get? p = none := by
  have hp := hs p
  cases hw : s.windows.get? p with
  | none => rfl
  | some w =>
    rw [hw] at hp
    obtain ⟨marks, since, ha, -⟩ := hp
    exact absurd ha (hn marks since)

theorem exists_window {marks : Watermarks} {since : List Moment} (ha : Active h p marks since) :
    ∃ w, s.windows.get? p = some w ∧ w.last = marks.high - 1 ∧ (w.drained = true ↔ Spent p marks since) := by
  have hp := hs p
  cases hw : s.windows.get? p with
  | none =>
    rw [hw] at hp
    exact absurd ha (hp marks since)
  | some w =>
    rw [hw] at hp
    obtain ⟨marks', since', ha', hlast, hd⟩ := hp
    obtain ⟨rfl, rfl⟩ := ha.unique ha'
    exact ⟨w, rfl, hlast, hd⟩

theorem exists_active {w : Window} (hw : s.windows.get? p = some w) :
    ∃ marks since, Active h p marks since ∧ (w.drained = true ↔ Spent p marks since) := by
  have hp := hs p
  rw [hw] at hp
  obtain ⟨marks, since, ha, -, hd⟩ := hp
  exact ⟨marks, since, ha, hd⟩

theorem isComplete_iff : s.isComplete = true ↔ (∃ p marks since, Active h p marks since) ∧
    ∀ p marks since, Active h p marks since → Spent p marks since := by
  rw [Sweep.isComplete_iff]
  refine and_congr ?_ ?_
  · constructor
    · rintro ⟨p, w, hw⟩
      obtain ⟨marks, since, ha, -⟩ := hs.exists_active hw
      exact ⟨p, marks, since, ha⟩
    · rintro ⟨p, marks, since, ha⟩
      obtain ⟨w, hw, -⟩ := hs.exists_window ha
      exact ⟨p, w, hw⟩
  · constructor
    · intro hall p marks since ha
      obtain ⟨w, hw, -, hd⟩ := hs.exists_window ha
      exact hd.mp (hall p w hw)
    · intro hall p w hw
      obtain ⟨marks, since, ha, hd⟩ := hs.exists_active hw
      exact hd.mpr (hall p marks since ha)

theorem determined : Determined h s where
  outside _ hn := ignores_of_none (hs.get?_eq_none hn)
  inside _ _ _ ha := by
    obtain ⟨w, hw, hlast, hd⟩ := hs.exists_window ha
    exact tracks_of_some hw hlast hd
  pending_sorted := List.pairwise_map.mpr (s.windows.filter fun _ w => !w.drained).sorted
  drained_sorted := List.pairwise_map.mpr (s.windows.filter fun _ w => w.drained).sorted
  snapshots_sorted := List.pairwise_map.mpr s.windows.sorted
  isComplete := hs.isComplete_iff

end Mirrors

/-- A partition that is drained stays so until it is asked again or revoked. -/
theorem drained_append {channel : String} {calls later : List Call} {p : Int}
    (hp : p ∈ ((start channel).performAll calls).drained) (hl : ∀ m ∈ Call.history later, ¬ m.Ends p) :
    p ∈ ((start channel).performAll (calls ++ later)).drained := by
  obtain ⟨w, hw, hdrained⟩ := mem_drained_iff.mp hp
  obtain ⟨marks, since, ha, hd⟩ := (mirrors_performAll channel calls).exists_active hw
  have hlater := mirrors_performAll channel (calls ++ later)
  rw [Call.history_append] at hlater
  exact (hlater.determined.inside p marks _ (ha.append hl)).drained.mpr ((hd.mp hdrained).append _)

/-- **All that a sweep answers follows from its history.** After any calls it ignores what is not active, and tracks
what is: with the watermarks of its activation, and done exactly once the partition is spent. A partition that is
drained stays so for the rest of its activation. -/
theorem determined_run (channel : String) (calls : List Call) :
    Determined (Call.history calls) ((start channel).performAll calls) ∧
      ∀ p later, (∀ m ∈ Call.history later, ¬ m.Ends p) → p ∈ ((start channel).performAll calls).drained →
        p ∈ ((start channel).performAll (calls ++ later)).drained :=
  ⟨(mirrors_performAll channel calls).determined, fun _ _ hl hp => drained_append hp hl⟩

end Sweep

end OrderRelay
