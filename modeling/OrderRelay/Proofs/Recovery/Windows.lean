import OrderRelay.Recovery.Sweep

/-!
# The windows of a sweep

Between two assignments a sweep hears of records to judge, of records that were worked off, and of low ends
that were looked at. Each of them drains one window or changes nothing.

* `Note`, what a sweep hears of, `Sweep.hear` and `Sweep.hearAll`;
* `get?_hear`: the windows after a note, for all three kinds at once, and `exists_reaches`: why a window is
  drained;
* `isComplete_iff`, `mem_pending_iff`, `mem_drained_iff`: what can be seen of a sweep, said of its windows;
* **`exists_hearAll_isComplete`**: a sweep with a window can always be brought to its end.
-/

namespace OrderRelay

/-- What a sweep hears of between two assignments. -/
inductive Note where
  /-- A record is to be judged. -/
  | judged (p offset : Int)
  /-- A record was worked off. -/
  | settled (p offset : Int)
  /-- The low end of a partition was looked at. -/
  | observed (p low : Int)
deriving DecidableEq, Repr

namespace Note

/-- The partition a note is about. -/
def partition : Note → Int
  | judged p _ => p
  | settled p _ => p
  | observed p _ => p

/-- The note says that nothing is left to do up to the offset `last`. -/
def reaches (last : Int) : Note → Bool
  | judged _ offset => last < offset
  | settled _ offset => last ≤ offset
  | observed _ low => last < low

/-- The note drains a window of its partition. -/
def drains (w : Window) (n : Note) : Bool := !w.drained && n.reaches w.last

end Note

namespace Window

/-- The window without anything left to do. -/
def close (w : Window) : Window := { w with drained := true }

theorem close_drained (w : Window) : w.close.drained = true := rfl

end Window

namespace Sweep

/-! ## Hearing -/

/-- The sweep after a note. -/
def hear (s : Sweep) : Note → Sweep
  | .judged p offset => (s.judge p offset).2
  | .settled p offset => (s.settle p offset).2
  | .observed p low => (s.observeLow p low).2

/-- The sweep after several notes. -/
def hearAll (s : Sweep) (ns : List Note) : Sweep := ns.foldl hear s

theorem hearAll_nil (s : Sweep) : s.hearAll [] = s := rfl

theorem hearAll_cons (s : Sweep) (n : Note) (ns : List Note) :
    s.hearAll (n :: ns) = (s.hear n).hearAll ns := rfl

theorem hearAll_append (s : Sweep) (ns ms : List Note) :
    s.hearAll (ns ++ ms) = (s.hearAll ns).hearAll ms := List.foldl_append

theorem get?_drain (s : Sweep) (p q : Int) (w : Window) :
    (s.drain p w).windows.get? q = if p = q then some w.close else s.windows.get? q :=
  PartitionMap.get?_insert _ _ _ _

/-- A note drains the window of its partition, or nothing changes. -/
theorem hear_eq (s : Sweep) (n : Note) :
    s.hear n = match s.windows.get? n.partition with
      | none => s
      | some w => if n.drains w then s.drain n.partition w else s := by
  cases n with
  | judged p offset =>
    simp only [hear, judge, Note.partition, Note.drains, Note.reaches]
    cases s.windows.get? p with
    | none => rfl
    | some w =>
      cases hd : w.drained with
      | true => simp [hd]
      | false =>
        by_cases ho : offset ≤ w.last
        · simp [hd, ho, Int.not_lt.mpr ho]
        · simp [hd, ho, Int.not_le.mp ho]
  | settled p offset =>
    simp only [hear, settle, Note.partition, Note.drains, Note.reaches]
    cases s.windows.get? p with
    | none => rfl
    | some w =>
      cases hd : w.drained with
      | true => simp [hd]
      | false =>
        by_cases ho : offset < w.last
        · simp [hd, ho, Int.not_le.mpr ho]
        · simp [hd, ho, Int.not_lt.mp ho]
  | observed p low =>
    simp only [hear, observeLow, Note.partition, Note.drains, Note.reaches]
    cases s.windows.get? p with
    | none => rfl
    | some w =>
      cases hd : w.drained with
      | true => simp [hd]
      | false =>
        by_cases ho : low ≤ w.last
        · simp [hd, ho, Int.not_lt.mpr ho]
        · simp [hd, ho, Int.not_le.mp ho]

/-- The windows after a note. -/
theorem get?_hear (s : Sweep) (n : Note) (p : Int) :
    (s.hear n).windows.get? p =
      (s.windows.get? p).map fun w => if n.partition = p ∧ n.drains w then w.close else w := by
  rw [hear_eq]
  by_cases hp : n.partition = p
  · subst hp
    cases hw : s.windows.get? n.partition with
    | none => simp [hw]
    | some w => by_cases hd : n.drains w = true <;> simp [hd, hw, get?_drain]
  · have hid : ∀ o : Option Window,
        (o.map fun w => if n.partition = p ∧ n.drains w then w.close else w) = o := by
      intro o
      cases o <;> simp [hp]
    rw [hid]
    cases s.windows.get? n.partition with
    | none => rfl
    | some w =>
      dsimp only
      split
      · rw [get?_drain, if_neg hp]
      · rfl

/-- A note gives no partition a window and takes none away. -/
theorem get?_hear_eq_none_iff (s : Sweep) (n : Note) (p : Int) :
    (s.hear n).windows.get? p = none ↔ s.windows.get? p = none := by
  rw [get?_hear, Option.map_eq_none_iff]

theorem get?_hearAll_eq_none_iff (s : Sweep) (ns : List Note) (p : Int) :
    (s.hearAll ns).windows.get? p = none ↔ s.windows.get? p = none := by
  induction ns generalizing s with
  | nil => rfl
  | cons n ns ih => rw [hearAll_cons, ih, get?_hear_eq_none_iff]

/-- A note moves no window, and a drained one stays drained. -/
theorem exists_get?_hear {s : Sweep} {p : Int} {w : Window} (h : s.windows.get? p = some w) (n : Note) :
    ∃ w', (s.hear n).windows.get? p = some w' ∧ w'.last = w.last ∧
      (w.drained = true → w'.drained = true) := by
  rw [get?_hear, h]
  refine ⟨_, rfl, ?_, ?_⟩
  · dsimp only
    split <;> rfl
  · intro hd
    dsimp only
    split
    · rfl
    · exact hd

theorem exists_get?_hearAll {s : Sweep} {p : Int} {w : Window} (h : s.windows.get? p = some w)
    (ns : List Note) :
    ∃ w', (s.hearAll ns).windows.get? p = some w' ∧ w'.last = w.last ∧
      (w.drained = true → w'.drained = true) := by
  induction ns generalizing s w with
  | nil => exact ⟨w, h, rfl, id⟩
  | cons n ns ih =>
    obtain ⟨w₁, h₁, hl₁, hd₁⟩ := exists_get?_hear h n
    obtain ⟨w₂, h₂, hl₂, hd₂⟩ := ih h₁
    exact ⟨w₂, h₂, hl₂.trans hl₁, fun hd => hd₂ (hd₁ hd)⟩

/-- A window that is drained was so before, or a note of its partition reaches its end. -/
theorem exists_reaches {s : Sweep} {p : Int} {w w' : Window} (h : s.windows.get? p = some w)
    {ns : List Note} (h' : (s.hearAll ns).windows.get? p = some w') (hd : w'.drained = true) :
    w.drained = true ∨ ∃ n ∈ ns, n.partition = p ∧ n.reaches w.last = true := by
  induction ns generalizing s w with
  | nil =>
    obtain rfl := Option.some.inj (h.symm.trans h')
    exact .inl hd
  | cons n ns ih =>
    obtain ⟨w₁, h₁, hl, -⟩ := exists_get?_hear h n
    rcases ih h₁ h' with hd₁ | ⟨m, hm, hp, hr⟩
    · rw [get?_hear, h, Option.map_some, Option.some.injEq] at h₁
      by_cases hn : n.partition = p ∧ n.drains w = true
      · have := hn.2
        simp only [Note.drains, Bool.and_eq_true] at this
        exact .inr ⟨n, List.mem_cons_self, hn.1, this.2⟩
      · rw [if_neg hn] at h₁
        exact .inl (h₁ ▸ hd₁)
    · exact .inr ⟨m, List.mem_cons_of_mem n hm, hp, hl ▸ hr⟩

/-! ## What can be seen, said of the windows -/

/-- A sweep is complete when it has a window and all its windows are drained. -/
theorem isComplete_iff (s : Sweep) :
    s.isComplete = true ↔ (∃ p w, s.windows.get? p = some w) ∧
      ∀ p w, s.windows.get? p = some w → w.drained = true := by
  unfold isComplete
  rw [Bool.and_eq_true, List.all_eq_true]
  refine and_congr ?_ ?_
  · constructor
    · intro h
      obtain ⟨e, he⟩ := List.exists_mem_of_ne_nil s.windows.entries (by simpa using h)
      exact ⟨e.1, e.2, PartitionMap.mem_entries_iff.mp he⟩
    · rintro ⟨p, w, h⟩
      have := List.ne_nil_of_mem (PartitionMap.mem_entries_iff.mpr h)
      simpa using this
  · constructor
    · intro h p w hw
      exact h (p, w) (PartitionMap.mem_entries_iff.mpr hw)
    · rintro h ⟨p, w⟩ he
      exact h p w (PartitionMap.mem_entries_iff.mp he)

theorem mem_pending_iff {s : Sweep} {p : Int} :
    p ∈ s.pending ↔ ∃ w, s.windows.get? p = some w ∧ w.drained = false := by
  simp [pending, PartitionMap.mem_keys_filter_iff]

theorem mem_drained_iff {s : Sweep} {p : Int} :
    p ∈ s.drained ↔ ∃ w, s.windows.get? p = some w ∧ w.drained = true := by
  simp [drained, PartitionMap.mem_keys_filter_iff]

theorem not_mem_drained_of_open {s : Sweep} {p : Int} {w : Window} (hw : s.windows.get? p = some w)
    (hd : w.drained = false) : p ∉ s.drained := by
  intro hp
  obtain ⟨w', hw', hd'⟩ := mem_drained_iff.mp hp
  obtain rfl := Option.some.inj (hw.symm.trans hw')
  exact Bool.false_ne_true (hd.symm.trans hd')

/-! ## The end of a sweep -/

/-- Once the last record of a window was worked off, the window is drained. -/
theorem drained_hearAll_of_mem {s : Sweep} {p : Int} {w : Window} (h : s.windows.get? p = some w)
    {ns : List Note} (hn : .settled p w.last ∈ ns) :
    ∃ w', (s.hearAll ns).windows.get? p = some w' ∧ w'.drained = true := by
  induction ns generalizing s w with
  | nil => cases hn
  | cons n ns ih =>
    obtain ⟨w₁, h₁, hl, _⟩ := exists_get?_hear h n
    rw [hearAll_cons]
    rcases List.mem_cons.mp hn with rfl | hn
    · have hd : w₁.drained = true := by
        rw [get?_hear, h, Option.map_some, Option.some.injEq] at h₁
        rw [← h₁]
        cases hw : w.drained <;> simp [Note.partition, Note.drains, Note.reaches, Window.close_drained, hw]
      obtain ⟨w₂, h₂, _, hd₂⟩ := exists_get?_hearAll h₁ ns
      exact ⟨w₂, h₂, hd₂ hd⟩
    · exact ih h₁ (hl.symm ▸ hn)

/-- **A sweep with a window can be brought to its end** by working off the last records of its windows. -/
theorem exists_hearAll_isComplete {s : Sweep} {p : Int} {w : Window} (h : s.windows.get? p = some w) :
    ∃ ns, (s.hearAll ns).isComplete = true := by
  refine ⟨s.windows.entries.map fun e => .settled e.1 e.2.last, (isComplete_iff _).mpr ⟨?_, ?_⟩⟩
  · obtain ⟨w', h', _⟩ := exists_get?_hearAll h _
    exact ⟨p, w', h'⟩
  · intro q w' hq
    cases hw : s.windows.get? q with
    | none => simp [(get?_hearAll_eq_none_iff _ _ _).mpr hw] at hq
    | some w₀ =>
      have hm : Note.settled q w₀.last ∈ s.windows.entries.map fun e => .settled e.1 e.2.last :=
        List.mem_map.mpr ⟨(q, w₀), PartitionMap.mem_entries_iff.mpr hw, rfl⟩
      obtain ⟨w₁, h₁, hd⟩ := drained_hearAll_of_mem hw hm
      rw [h₁] at hq
      cases hq
      exact hd

end Sweep

end OrderRelay
