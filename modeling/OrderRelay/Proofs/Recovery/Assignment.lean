import Mathlib.Logic.Basic
import OrderRelay.Proofs.Recovery.Windows

/-!
# Windows after an assignment

An assignment goes through a list of partitions and gives each its window. It stops at the first one that
cannot be asked, which then has no window. The partitions before it have theirs, and those after it keep what
they had.

* `windowFrom?`, the window that the answers for a partition make;
* `get?_assigned_of_success`, `get?_seeks_of_success`: the windows and the read positions after an assignment
  that went through;
* `StoppedAt`, what an assignment leaves that failed at a partition, and `exists_failing`;
* **`incomplete_after_failure_iff`**: when a failed assignment keeps the sweep from being complete.
-/

namespace OrderRelay.Sweep

variable (control : Control)

/-- The window of a partition, if the partition can be asked. -/
def windowFrom? (p : Int) : Option Window :=
  match track control p with
  | .ok (marks, _) => some (windowOf marks)
  | .error _ => none

variable {control}

theorem windowFrom?_ok {p : Int} {marks : Watermarks} {earliest : Int}
    (h : track control p = .ok (marks, earliest)) : windowFrom? control p = some (windowOf marks) := by
  rw [windowFrom?, h]

/-! ## One partition after the other -/

theorem assigned_cons_error {p : Int} {e : OffsetQueryError} (h : track control p = .error e)
    (ps : List Int) (s : Sweep) :
    (assigned control (p :: ps) s).failure = some e ∧
      (assigned control (p :: ps) s).state.windows = s.windows.erase p := by
  simp only [assigned, h, and_self]

theorem assigned_cons_ok {p : Int} {marks : Watermarks} {earliest : Int}
    (h : track control p = .ok (marks, earliest)) (ps : List Int) (s : Sweep) :
    let r := assigned control ps { s with windows := s.windows.insert p (windowOf marks) }
    (assigned control (p :: ps) s).failure = r.failure ∧
      (assigned control (p :: ps) s).state = r.state ∧
      (assigned control (p :: ps) s).seeks = (p, earliest) :: r.seeks := by
  simp only [assigned, h, and_self]

/-- After an assignment that went through, its partitions have the windows their answers make. -/
theorem get?_assigned_of_success {ps : List Int} {s : Sweep} (h : (assigned control ps s).failure = none)
    (p : Int) :
    (assigned control ps s).state.windows.get? p =
      if p ∈ ps then windowFrom? control p else s.windows.get? p := by
  induction ps generalizing s with
  | nil => simp [assigned]
  | cons q ps ih =>
    cases hq : track control q with
    | error e => simp [(assigned_cons_error hq ps s).1] at h
    | ok m =>
      obtain ⟨marks, earliest⟩ := m
      obtain ⟨hf, hs, _⟩ := assigned_cons_ok hq ps s
      rw [hs, ih (hf ▸ h), PartitionMap.get?_insert]
      by_cases hpq : q = p
      · subst hpq
        simp [windowFrom?_ok hq]
      · have hqp : p ≠ q := fun h => hpq h.symm
        simp [hpq, hqp]

/-- The earliest offset of a partition, if the partition can be asked. -/
def earliest? (control : Control) (p : Int) : Option Int :=
  match track control p with
  | .ok (_, earliest) => some earliest
  | .error _ => none

/-- An assignment that went through goes back to the earliest record of every partition of its list. -/
theorem get?_seeks_of_success {ps : List Int} {s : Sweep} (h : (assigned control ps s).failure = none)
    (m : PartitionMap Int) (p : Int) :
    ((assigned control ps s).seeks.foldl (fun m e => m.insert e.1 e.2) m).get? p =
      if p ∈ ps then earliest? control p else m.get? p := by
  induction ps generalizing s m with
  | nil => simp [assigned]
  | cons q ps ih =>
    cases hq : track control q with
    | error e => simp [(assigned_cons_error hq ps s).1] at h
    | ok answer =>
      obtain ⟨marks, earliest⟩ := answer
      obtain ⟨hf, _, hseeks⟩ := assigned_cons_ok hq ps s
      rw [hseeks, List.foldl_cons, ih (hf ▸ h), PartitionMap.get?_insert]
      by_cases hpq : q = p
      · subst hpq
        simp [earliest?, hq]
      · have hqp : p ≠ q := fun h => hpq h.symm
        simp [hpq, hqp]

/-- What an assignment makes of a sweep `s` when it fails at the partition `q`, after those of `before`. -/
structure StoppedAt (control : Control) (before : List Int) (q : Int) (s s' : Sweep) : Prop where
  asked : ∀ p ∈ before, ∃ m, track control p = .ok m
  failing : ∃ e, track control q = .error e
  get?_eq : ∀ p, s'.windows.get? p =
    if p = q then none else if p ∈ before then windowFrom? control p else s.windows.get? p

/-- An assignment that failed did so at one partition, and got no further. -/
theorem exists_failing {ps : List Int} {s : Sweep} {e : OffsetQueryError}
    (h : (assigned control ps s).failure = some e) :
    ∃ before q after, ps = before ++ q :: after ∧ track control q = .error e ∧
      StoppedAt control before q s (assigned control ps s).state := by
  induction ps generalizing s with
  | nil => simp [assigned] at h
  | cons q ps ih =>
    cases hq : track control q with
    | error e' =>
      obtain ⟨hf, hw⟩ := assigned_cons_error hq ps s
      rw [hf, Option.some.injEq] at h
      subst h
      refine ⟨[], q, ps, rfl, hq, by simp, ⟨_, hq⟩, fun p => ?_⟩
      rw [hw, PartitionMap.get?_erase]
      simp [eq_comm]
    | ok m =>
      obtain ⟨marks, earliest⟩ := m
      obtain ⟨hf, hs, _⟩ := assigned_cons_ok hq ps s
      obtain ⟨before, q', after, rfl, hq', hstopped⟩ := ih (hf ▸ h)
      refine ⟨q :: before, q', after, rfl, hq', ?_, ⟨e, hq'⟩, fun p => ?_⟩
      · intro p hp
        rcases List.mem_cons.mp hp with rfl | hp
        · exact ⟨_, hq⟩
        · exact hstopped.asked p hp
      · rw [hs, hstopped.get?_eq, PartitionMap.get?_insert]
        by_cases hpq : q = p
        · subst hpq
          simp [windowFrom?_ok hq]
        · have hqp : p ≠ q := fun h => hpq h.symm
          simp [hpq, hqp]

theorem windowOf_drained (marks : Watermarks) :
    (windowOf marks).drained = true ↔ marks.high ≤ marks.low := by
  simp [windowOf]

namespace StoppedAt

variable {before : List Int} {q : Int} {s s' : Sweep} (h : StoppedAt control before q s s')
include h

theorem get?_failing : s'.windows.get? q = none := by
  rw [h.get?_eq, if_pos rfl]

/-- A partition before the one that failed has the window its answers make. -/
theorem get?_before {p earliest : Int} {marks : Watermarks} (hp : p ∈ before)
    (hm : track control p = .ok (marks, earliest)) : s'.windows.get? p = some (windowOf marks) := by
  have hpq : p ≠ q := by
    rintro rfl
    obtain ⟨e, he⟩ := h.failing
    exact nomatch hm.symm.trans he
  rw [h.get?_eq, if_neg hpq, if_pos hp, windowFrom?_ok hm]

/-- All other partitions keep what they had. -/
theorem get?_other {p : Int} (hpq : p ≠ q) (hp : p ∉ before) :
    s'.windows.get? p = s.windows.get? p := by
  rw [h.get?_eq, if_neg hpq, if_neg hp]

theorem forall_eq_none_iff :
    (∀ p, s'.windows.get? p = none) ↔ before = [] ∧ ∀ p, p ≠ q → s.windows.get? p = none := by
  constructor
  · intro hn
    have hnil : before = [] := by
      rw [List.eq_nil_iff_forall_not_mem]
      intro p hp
      obtain ⟨⟨marks, earliest⟩, hm⟩ := h.asked p hp
      exact nomatch (h.get?_before hp hm).symm.trans (hn p)
    refine ⟨hnil, fun p hpq => ?_⟩
    rw [← h.get?_other hpq (hnil ▸ List.not_mem_nil)]
    exact hn p
  · rintro ⟨rfl, hn⟩ p
    by_cases hpq : p = q
    · rw [hpq, h.get?_failing]
    · rw [h.get?_other hpq List.not_mem_nil, hn p hpq]

theorem exists_eq_some_iff :
    (∃ p w, s'.windows.get? p = some w) ↔ before ≠ [] ∨ ∃ p, p ≠ q ∧ s.windows.get? p ≠ none := by
  have hnone := not_congr h.forall_eq_none_iff
  simp only [not_forall, not_and_or, exists_prop] at hnone
  exact (exists_congr fun p => Option.ne_none_iff_exists'.symm).trans hnone

theorem forall_drained_iff :
    (∀ p w, s'.windows.get? p = some w → w.drained = true) ↔
      (∀ p ∈ before, ∀ marks earliest, track control p = .ok (marks, earliest) →
        marks.high ≤ marks.low) ∧
      ∀ p w, p ≠ q → p ∉ before → s.windows.get? p = some w → w.drained = true := by
  constructor
  · refine fun hall => ⟨fun p hp marks earliest hm => ?_, fun p w hpq hpb hp => ?_⟩
    · exact (windowOf_drained marks).mp (hall p _ (h.get?_before hp hm))
    · exact hall p w ((h.get?_other hpq hpb).trans hp)
  · rintro ⟨hempty, hold⟩ p w hp
    by_cases hpq : p = q
    · rw [hpq, h.get?_failing] at hp
      exact nomatch hp
    by_cases hpb : p ∈ before
    · obtain ⟨⟨marks, earliest⟩, hm⟩ := h.asked p hpb
      rw [h.get?_before hpb hm, Option.some.injEq] at hp
      exact hp ▸ (windowOf_drained marks).mpr (hempty p hpb marks earliest hm)
    · exact hold p w hpq hpb ((h.get?_other hpq hpb).symm.trans hp)

end StoppedAt

/-! ## A failed assignment and the end of the sweep -/

/-- Whatever a sweep hears, it stays short of completeness exactly as long as it has no window. -/
theorem hearAll_incomplete_iff (s : Sweep) :
    (∀ ns, (s.hearAll ns).isComplete = false) ↔ ∀ p, s.windows.get? p = none := by
  constructor
  · intro h p
    cases hp : s.windows.get? p with
    | none => rfl
    | some w =>
      obtain ⟨ns, hc⟩ := exists_hearAll_isComplete hp
      exact nomatch (h ns).symm.trans hc
  · intro h ns
    rw [Bool.eq_false_iff, ne_eq, isComplete_iff]
    rintro ⟨⟨p, w, hw⟩, _⟩
    exact nomatch hw.symm.trans ((get?_hearAll_eq_none_iff s ns p).mpr (h p))

/-- **After a failed assignment** the sweep stays incomplete, whatever it hears, exactly when the assignment
failed at the first partition of its list and no other partition had a window. It is complete at once when
there is another window, all partitions before the failing one are empty, and all windows kept from before are
drained. -/
theorem incomplete_after_failure_iff (control : Control) (ps : List Int) (s : Sweep) (e : OffsetQueryError)
    (h : (assigned control ps s).failure = some e) :
    ∃ before q after, ps = before ++ q :: after ∧ (∀ p ∈ before, ∃ m, track control p = .ok m) ∧
      track control q = .error e ∧
      ((∀ ns, ((assigned control ps s).state.hearAll ns).isComplete = false) ↔
        before = [] ∧ ∀ p, p ≠ q → s.windows.get? p = none) ∧
      ((assigned control ps s).state.isComplete = true ↔
        (before ≠ [] ∨ ∃ p, p ≠ q ∧ s.windows.get? p ≠ none) ∧
        (∀ p ∈ before, ∀ marks earliest, track control p = .ok (marks, earliest) →
          marks.high ≤ marks.low) ∧
        ∀ p w, p ≠ q → p ∉ before → s.windows.get? p = some w → w.drained = true) := by
  obtain ⟨before, q, after, hps, hq, hstopped⟩ := exists_failing h
  refine ⟨before, q, after, hps, hstopped.asked, hq, ?_, ?_⟩
  · rw [hearAll_incomplete_iff]
    exact hstopped.forall_eq_none_iff
  · rw [isComplete_iff]
    exact and_congr hstopped.exists_eq_some_iff hstopped.forall_drained_iff

/-- Partition `1` cannot be asked, and all others are empty. -/
def silentSecond : Control where
  watermarks p := if p = 1 then .error ⟨"order-received-error", p, "broker unreachable"⟩ else .ok ⟨0, 0⟩
  seekEarliest p := if p = 1 then .error ⟨"order-received-error", p, "broker unreachable"⟩ else .ok 0

/-- An assignment that fails at its first partition leaves a new sweep without windows: it stays incomplete
whatever it hears. -/
theorem incomplete_after_first_failure :
    (assigned silentSecond [1, 0] (.start "order-received-error")).failure =
        some ⟨"order-received-error", 1, "broker unreachable"⟩ ∧
      ∀ ns, ((assigned silentSecond [1, 0] (.start "order-received-error")).state.hearAll ns).isComplete =
        false := by
  have h : (assigned silentSecond [1, 0] (.start "order-received-error")).failure =
      some ⟨"order-received-error", 1, "broker unreachable"⟩ := by decide
  refine ⟨h, ?_⟩
  obtain ⟨before, q, after, hps, hb, -, hiff, -⟩ :=
    incomplete_after_failure_iff silentSecond [1, 0] (.start "order-received-error") _ h
  have hnil : before = [] := by
    rw [List.eq_nil_iff_forall_not_mem]
    intro p hp
    obtain ⟨m, hm⟩ := hb 1 (by
      cases before with
      | nil => cases hp
      | cons r rs => simp [(List.cons.inj hps).1])
    exact absurd hm (by intro hm; cases hm)
  exact hiff.mpr ⟨hnil, fun p _ => rfl⟩

/-- The first partition is empty and the second one cannot be asked: the assignment fails, and the sweep is
complete although the second partition was never swept. -/
theorem complete_after_failure :
    (assigned silentSecond [0, 1] (.start "order-received-error")).failure =
        some ⟨"order-received-error", 1, "broker unreachable"⟩ ∧
      (assigned silentSecond [0, 1] (.start "order-received-error")).state.windows.get? 1 = none ∧
      (assigned silentSecond [0, 1] (.start "order-received-error")).state.isComplete = true := by
  decide

end OrderRelay.Sweep
