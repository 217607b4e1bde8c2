import OrderRelay.Proofs.Worker.Steps

/-!
# Workers that act alike

A worker knows its state only through what it uses: its consumer, its processor, its sweep. Two workers for
which all of this answers alike therefore go through the same rounds, even on states of different types.

* `Alike R m m'`: two actions answer alike and keep their states related by `R`;
* `Account`, what was done about a record, and `Worker.iterateTold`, a round that gives account;
  `iterate_eq_iterateTold`: apart from that it is a round;
* `Worker.SelectsAlike`, `Worker.WorksAlike`: all that two workers use is alike;
* **`SelectsAlike.select`** and **`WorksAlike.iterateTold`**: then they find the same to do, and do the same.
-/

namespace OrderRelay

variable {σ τ α β : Type} {R : σ → τ → Prop}

/-! ## Actions -/

/-- Two actions answer alike, and keep states related by `R` that were so. -/
def Alike (R : σ → τ → Prop) (m : StateM σ α) (m' : StateM τ α) : Prop :=
  ∀ x y, R x y → (m x).1 = (m' y).1 ∧ R (m x).2 (m' y).2

namespace Alike

protected theorem pure (a : α) : Alike R (Pure.pure a : StateM σ α) (Pure.pure a) := fun _ _ h => ⟨rfl, h⟩

/-- An action keeps what it keeps. -/
theorem of_keeps {P : σ → Prop} {m : StateM σ α} (h : ∀ x, P x → P (m x).2) :
    Alike (fun x y => x = y ∧ P x) m m := by
  rintro x _ ⟨rfl, hx⟩
  exact ⟨rfl, rfl, h x hx⟩

protected theorem bind {m : StateM σ α} {m' : StateM τ α} {f : α → StateM σ β} {f' : α → StateM τ β}
    (hm : Alike R m m') (hf : ∀ a, Alike R (f a) (f' a)) : Alike R (m >>= f) (m' >>= f') := by
  intro x y h
  obtain ⟨ha, h'⟩ := hm x y h
  have hrest := hf (m x).1 _ _ h'
  rw [ha] at hrest
  change (f (m x).1 (m x).2).1 = (f' (m' y).1 (m' y).2).1 ∧ R (f (m x).1 (m x).2).2 (f' (m' y).1 (m' y).2).2
  rw [ha]
  exact hrest

protected theorem forM {f : α → StateM σ PUnit} {f' : α → StateM τ PUnit} (h : ∀ a, Alike R (f a) (f' a))
    (as : List α) : Alike R (as.forM f) (as.forM f') := by
  induction as with
  | nil => exact .pure _
  | cons a as ih => exact (h a).bind fun _ => ih

protected theorem foldlM {f : β → α → StateM σ β} {f' : β → α → StateM τ β}
    (h : ∀ b a, Alike R (f b a) (f' b a)) (as : List α) (b : β) :
    Alike R (as.foldlM f b) (as.foldlM f' b) := by
  induction as generalizing b with
  | nil => exact .pure _
  | cons a as ih =>
    rw [List.foldlM_cons, List.foldlM_cons]
    exact (h b a).bind ih

end Alike

/-- Two places hold the same in related states. -/
structure Cell.Same (R : σ → τ → Prop) (c : Cell σ α) (d : Cell τ α) : Prop where
  get : ∀ {x y}, R x y → c.get x = d.get y
  set : ∀ {x y} a, R x y → R (c.set a x) (d.set a y)

namespace Cell.Same

variable {c : Cell σ α} {d : Cell τ α}

theorem read (h : c.Same R d) : Alike R c.read d.read := fun _ _ hxy => ⟨h.get hxy, hxy⟩

theorem update (h : c.Same R d) (f : α → β × α) : Alike R (c.update f) (d.update f) := by
  intro x y hxy
  unfold Cell.update
  rw [h.get hxy]
  exact ⟨rfl, h.set _ hxy⟩

end Cell.Same

/-! ## Processors -/

section Processors

variable {ε : Type} {p : Processor σ ε} {q : Processor τ ε}

/-- Two processors for which events read, handled and judged alike read and handle a record alike. -/
theorem Alike.evaluate (htier : p.tier = q.tier) (hcodec : p.codec = q.codec)
    (hclassify : p.classify = q.classify) (hdescribe : p.describe = q.describe)
    (hreport : ∀ e, Alike R (p.report e) (q.report e))
    (hhandle : ∀ e, Alike R (p.handle e) (q.handle e)) (r : ConsumedRecord) :
    Alike R (p.evaluate r) (q.evaluate r) := by
  have hreceived (e : OrderReceived) : p.receivedEntry r e = q.receivedEntry r e := by
    unfold Processor.receivedEntry
    rw [htier]
  have houtcome : p.outcomeOf = q.outcomeOf := by
    funext answer
    cases answer with
    | ok => rfl
    | error err => rw [Processor.outcomeOf, Processor.outcomeOf, hclassify, hdescribe]
  unfold Processor.evaluate
  rw [hcodec]
  cases q.codec.decode r.payload with
  | error err => exact .pure _
  | ok e =>
    simp only [hreceived, houtcome]
    exact (hreport _).bind fun _ => (hhandle e).bind fun answer => .pure _

theorem Alike.carryOut (htopology : p.topology = q.topology) (hclock : Alike R p.clock q.clock)
    (hpublish : ∀ e, Alike R (p.publish e) (q.publish e)) (plan : Plan) :
    Alike R (p.carryOut plan) (q.carryOut plan) := by
  cases plan with
  | finish resolution => exact .pure _
  | escalate next key payload =>
    unfold Processor.carryOut Processor.envelope
    rw [htopology]
    exact hclock.bind fun now => (hpublish _).bind fun answer => .pure _

end Processors

/-! ## Rounds with an account -/

/-- What was done about a record: how it was decided on, and what became of it. -/
structure Account where
  record : ConsumedRecord
  plan : Plan
  resolution : Resolution
deriving DecidableEq, Repr

namespace Worker

section Told

variable {ε : Type} (w : Worker σ ε)

/-- Process a record from beginning to end, and give account of it. -/
def processTold (s : State) (r : ConsumedRecord) : StateM σ (State × Account) := do
  let (event, outcome) ← w.processor.evaluate r
  let plan := w.processor.plan r (event, outcome)
  let resolution ← w.processor.carryOut plan
  w.processor.report (Processor.resolvedEntry r ((event.map (·.referenceUri)).getD "") resolution)
  w.processor.settle w.consumer r resolution
  return (← w.conclude s r resolution, ⟨r, plan, resolution⟩)

/-- One round, with an account of the record that was processed in it, if one was. -/
def iterateTold (s : State) : StateM σ ((State × Option Stop) × Option Account) := do
  match ← w.select s with
  | (s, .stop why) => return ((s, some why), none)
  | (s, .nothing) => return ((s, none), none)
  | (s, .record r) => do
    let (s, account) ← w.processTold s r
    return ((s, none), some account)

/-- The account is all that is added to a round. -/
theorem iterate_eq_iterateTold (s : State) (x : σ) :
    w.iterate s x = ((w.iterateTold s x).1.1, (w.iterateTold s x).2) := by
  simp only [iterate, iterateTold, bind, StateT.bind]
  rcases w.select s x with ⟨⟨s', finding⟩, x'⟩
  cases finding with
  | stop why => rfl
  | nothing => rfl
  | record r => rfl

section Rounds

variable {w} {s s₁ s₂ : State} {x x₁ x₂ x₃ x₄ x₅ x₆ : σ}

theorem iterateTold_of_stop {why : Stop} (h : w.select s x = ((s₁, .stop why), x₁)) :
    w.iterateTold s x = (((s₁, some why), none), x₁) := by
  simp only [iterateTold, bind, StateT.bind, h]
  rfl

theorem iterateTold_of_nothing (h : w.select s x = ((s₁, .nothing), x₁)) :
    w.iterateTold s x = (((s₁, none), none), x₁) := by
  simp only [iterateTold, bind, StateT.bind, h]
  rfl

theorem iterateTold_of_record {r : ConsumedRecord} {event : Option OrderReceived} {outcome : Outcome}
    {plan : Plan} {resolution : Resolution} (hs : w.select s x = ((s₁, .record r), x₁))
    (he : w.processor.evaluate r x₁ = ((event, outcome), x₂)) (hp : w.processor.plan r (event, outcome) = plan)
    (hc : w.processor.carryOut plan x₂ = (resolution, x₃))
    (hr : w.processor.report
      (Processor.resolvedEntry r ((event.map (·.referenceUri)).getD "") resolution) x₃ = ((), x₄))
    (hd : w.processor.settle w.consumer r resolution x₄ = ((), x₅))
    (hn : w.conclude s₁ r resolution x₅ = (s₂, x₆)) :
    w.iterateTold s x = (((s₂, none), some ⟨r, plan, resolution⟩), x₆) := by
  subst hp
  simp only [iterateTold, processTold, bind, StateT.bind, hs, he, hc, hr, hd, hn]
  rfl

/-- A record that is taken up is accounted for. -/
theorem exists_account_of_record {r : ConsumedRecord} (hs : w.select s x = ((s₁, .record r), x₁)) :
    ∃ a, a.record = r ∧ (w.iterateTold s x).1.2 = some a := by
  refine ⟨(w.processTold s₁ r x₁).1.2, rfl, ?_⟩
  simp only [iterateTold, bind, StateT.bind, hs]
  rfl

end Rounds

theorem eq_of_takeUp {s s' : State} {r r' : ConsumedRecord} {x x' : σ}
    (h : w.takeUp s r x = ((s', .record r'), x')) : r' = r := by
  unfold takeUp at h
  cases hw : w.recovery with
  | none =>
    rw [hw] at h
    exact (Finding.record.inj (Prod.mk.inj (Prod.mk.inj h).1).2).symm
  | some cell =>
    rw [hw] at h
    simp only [bind, StateT.bind, Cell.update] at h
    cases hj : ((cell.get x).judge r.partition r.offset).1 with
    | process =>
      rw [hj] at h
      exact (Finding.record.inj (Prod.mk.inj (Prod.mk.inj h).1).2).symm
    | drained =>
      rw [hj] at h
      exact nomatch (Prod.mk.inj (Prod.mk.inj h).1).2
    | unassigned =>
      rw [hj] at h
      exact nomatch (Prod.mk.inj (Prod.mk.inj h).1).2

/-- What a worker takes up it has read, after stopping to read the drained partitions. -/
theorem poll_of_select {s s' : State} {r : ConsumedRecord} {x x' : σ}
    (h : w.select s x = ((s', .record r), x')) :
    (w.consumer.poll w.tick (w.pauseDrained s (w.stopRequested x).2).2).1 = .ok (some r) := by
  obtain ⟨asked, x₁, hs⟩ : ∃ asked x₁, w.stopRequested x = (asked, x₁) := ⟨_, _, rfl⟩
  obtain ⟨s₁, complete, x₂, hd⟩ : ∃ s₁ complete x₂, w.pauseDrained s x₁ = ((s₁, complete), x₂) :=
    ⟨_, _, _, rfl⟩
  obtain ⟨answer, x₃, hp⟩ : ∃ answer x₃, w.consumer.poll w.tick x₂ = (answer, x₃) := ⟨_, _, rfl⟩
  rw [hs, hd, hp]
  cases asked with
  | true =>
    rw [select_of_asked hs] at h
    cases h
  | false =>
    cases complete with
    | true =>
      rw [select_of_complete hs hd rfl] at h
      cases h
    | false =>
      rcases answer with err | _ | r'
      · simp only [select, bind, StateT.bind, hs, hd, hp, Bool.false_eq_true, if_false] at h
        cases err <;> cases h
      · rw [select_of_none hs hd hp rfl] at h
        cases h
      · rw [select_of_some hs hd hp rfl] at h
        rw [w.eq_of_takeUp h]

end Told

/-! ## Workers -/

variable {ε ε' : Type}

/-- What two workers use to find out what is to be done is alike. -/
structure SelectsAlike (R : σ → τ → Prop) (w : Worker σ ε) (v : Worker τ ε') : Prop where
  name : w.name = v.name
  codec : w.processor.codec = v.processor.codec
  recovery : Option.Rel (Cell.Same R) w.recovery v.recovery
  stopRequested : Alike R w.stopRequested v.stopRequested
  poll : Alike R (w.consumer.poll w.tick) (v.consumer.poll v.tick)
  rewind : ∀ r, Alike R (w.consumer.rewind r) (v.consumer.rewind r)
  pause : ∀ p, Alike R (w.consumer.pause p) (v.consumer.pause p)
  watermarks : ∀ p, Alike R (w.consumer.watermarks p) (v.consumer.watermarks p)
  report : ∀ e, Alike R (w.processor.report e) (v.processor.report e)

/-- All that two workers use is alike. -/
structure WorksAlike (R : σ → τ → Prop) (w : Worker σ ε) (v : Worker τ ε') : Prop
    extends SelectsAlike R w v where
  tier : w.processor.tier = v.processor.tier
  republishKey : w.processor.republishKey = v.processor.republishKey
  evaluate : ∀ r, Alike R (w.processor.evaluate r) (v.processor.evaluate r)
  carryOut : ∀ r answer, Alike R (w.processor.carryOut (v.processor.plan r answer))
    (v.processor.carryOut (v.processor.plan r answer))
  commit : ∀ r, Alike R (w.consumer.commit r) (v.consumer.commit r)

namespace SelectsAlike

variable {w : Worker σ ε} {v : Worker τ ε'} (h : SelectsAlike R w v)

include h

theorem nameField : w.nameField = v.nameField := congrArg (fun n => ("worker", Log.Value.text n)) h.name

theorem recordFields (r : ConsumedRecord) (outcome : String) :
    w.recordFields r outcome = v.recordFields r outcome := by
  unfold Worker.recordFields Processor.referenceOf
  rw [h.nameField, h.codec]

theorem pausePartition (s : State) (p : Int) : Alike R (w.pause s p) (v.pause s p) := by
  unfold Worker.pause
  rw [h.nameField]
  split
  · exact .pure _
  · refine (h.pause p).bind fun answer => ?_
    cases answer with
    | ok => exact .pure _
    | error err => exact (h.report _).bind fun _ => .pure _

theorem recovery_cases : w.recovery = none ∧ v.recovery = none ∨
    ∃ c d, w.recovery = some c ∧ v.recovery = some d ∧ c.Same R d := by
  have hrecovery := h.recovery
  cases hw : w.recovery <;> cases hv : v.recovery <;> rw [hw, hv] at hrecovery
  · exact .inl ⟨rfl, rfl⟩
  · exact nomatch hrecovery
  · exact nomatch hrecovery
  · cases hrecovery with
    | some hcell => exact .inr ⟨_, _, rfl, rfl, hcell⟩

theorem pauseDrained (s : State) : Alike R (w.pauseDrained s) (v.pauseDrained s) := by
  unfold Worker.pauseDrained
  rcases h.recovery_cases with ⟨hw, hv⟩ | ⟨c, d, hw, hv, hcell⟩ <;> rw [hw, hv]
  · exact .pure _
  · refine hcell.read.bind fun sweep => ?_
    exact (Alike.foldlM h.pausePartition _ _).bind fun s => .pure _

theorem observe {c : Cell σ Sweep} {d : Cell τ Sweep} (hcell : c.Same R d) (p : Int) :
    Alike R (w.observe c p) (v.observe d p) := by
  unfold Worker.observe
  rw [h.nameField]
  refine (h.watermarks p).bind fun answer => ?_
  cases answer with
  | ok marks => exact (hcell.update _).bind fun entries => .forM h.report _
  | error err => exact h.report _

theorem checkRetention : Alike R w.checkRetention v.checkRetention := by
  unfold Worker.checkRetention
  rcases h.recovery_cases with ⟨hw, hv⟩ | ⟨c, d, hw, hv, hcell⟩ <;> rw [hw, hv]
  · exact .pure _
  · exact hcell.read.bind fun sweep => .forM (h.observe hcell) _

theorem holdBack (s : State) (r : ConsumedRecord) : Alike R (w.holdBack s r) (v.holdBack s r) := by
  unfold Worker.holdBack
  rw [h.nameField, h.recordFields]
  refine (h.report _).bind fun _ => (h.rewind r).bind fun answer => ?_
  cases answer with
  | ok => exact .pure _
  | error err => exact (h.report _).bind fun _ => .pure _

theorem takeUp (s : State) (r : ConsumedRecord) : Alike R (w.takeUp s r) (v.takeUp s r) := by
  unfold Worker.takeUp
  rcases h.recovery_cases with ⟨hw, hv⟩ | ⟨c, d, hw, hv, hcell⟩ <;> rw [hw, hv]
  · exact .pure _
  · refine (hcell.update _).bind fun verdict => (Alike.forM h.report _).bind fun _ => ?_
    cases verdict.1 with
    | process => exact .pure _
    | drained => exact (h.holdBack s r).bind fun s => (h.pausePartition s _).bind fun s => .pure _
    | unassigned => exact (h.holdBack s r).bind fun s => .pure _

/-- **Two workers find the same to do** if what they use is alike. -/
theorem select (s : State) : Alike R (w.select s) (v.select s) := by
  unfold Worker.select
  rw [h.nameField]
  refine h.stopRequested.bind fun asked => ?_
  cases asked with
  | true => exact .pure _
  | false =>
    refine (h.pauseDrained s).bind fun (s, complete) => ?_
    cases complete with
    | true => exact (h.report _).bind fun _ => .pure _
    | false =>
      refine h.poll.bind fun answer => ?_
      rcases answer with err | _ | r
      · cases err <;> exact (h.report _).bind fun _ => .pure _
      · exact h.checkRetention.bind fun _ => .pure _
      · exact h.takeUp s r

theorem conclude (s : State) (r : ConsumedRecord) (resolution : Resolution) :
    Alike R (w.conclude s r resolution) (v.conclude s r resolution) := by
  have hdrained : w.drainedEntry r = v.drainedEntry r := by
    unfold drainedEntry
    rw [h.recordFields]
  unfold Worker.conclude
  rw [hdrained]
  rcases h.recovery_cases with ⟨hw, hv⟩ | ⟨c, d, hw, hv, hcell⟩ <;> rw [hw, hv]
  · exact .pure _
  · cases resolution.isSettled with
    | false => exact .pure _
    | true =>
      refine (hcell.update _).bind fun last => ?_
      cases last with
      | false => exact .pure _
      | true => exact (h.report _).bind fun _ => .pure _

end SelectsAlike

namespace WorksAlike

variable {w : Worker σ ε} {v : Worker τ ε'} (h : WorksAlike R w v)

include h

theorem plan : w.processor.plan = v.processor.plan := by
  funext r answer
  unfold Processor.plan Processor.escalation
  rw [h.codec, h.tier, h.republishKey]

theorem settle (r : ConsumedRecord) (resolution : Resolution) :
    Alike R (w.processor.settle w.consumer r resolution) (v.processor.settle v.consumer r resolution) := by
  unfold Processor.settle
  cases resolution.isSettled
  case' true => refine (h.commit r).bind fun answer => ?_
  case' false => refine (h.rewind r).bind fun answer => ?_
  all_goals
    cases answer with
    | ok => exact .pure _
    | error err => exact h.report _

theorem processTold (s : State) (r : ConsumedRecord) : Alike R (w.processTold s r) (v.processTold s r) := by
  unfold Worker.processTold
  refine (h.evaluate r).bind fun answer => ?_
  rw [h.plan]
  refine (h.carryOut r answer).bind fun resolution => (h.report _).bind fun _ => ?_
  exact (h.settle r resolution).bind fun _ => (h.conclude s r resolution).bind fun s => .pure _

/-- **Two workers do the same in a round** if what they use is alike. -/
theorem iterateTold (s : State) : Alike R (w.iterateTold s) (v.iterateTold s) := by
  unfold Worker.iterateTold
  refine (h.select s).bind fun (s, finding) => ?_
  cases finding with
  | stop why => exact .pure _
  | nothing => exact .pure _
  | record r => exact (h.processTold s r).bind fun told => .pure _

end WorksAlike

end Worker

end OrderRelay
