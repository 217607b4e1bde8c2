import OrderRelay.Proofs.Worker.Noting

/-!
# The counters account for every record

What a worker counts is what it has done: every record that it read is counted once, as processed or as held back, and
what was processed is counted once more by what became of it. Each of these counts is the number of calls of one kind.
This holds after every round, whatever the ports of the worker are, and so also if others change the state at any time.

* `Balanced`: the counters and the calls agree;
* `Debt`, what is still to be done about a record that was read, and `Tallied`: they agree but for that;
* `Noted.Leads`, what holds of the calls after an action, given what held of them before it;
* `leads_handleRecord`, `leads_select`, `leads_iterate`: processing, the search for something to do, a round;
* `Worker.amid`, a worker among others;
* **`Worker.counts_everything`**: after any number of rounds, with or without others.
-/

namespace OrderRelay

/-! ## Counting calls -/

namespace Call

variable {ε : Type}

/-- A record was read. -/
def reads : Call ε → Bool
  | polled (.ok (some _)) => true
  | _ => false

/-- An envelope was stored. -/
def stores : Call ε → Bool
  | published _ (.ok _) => true
  | _ => false

/-- An envelope could not be stored. -/
def fails : Call ε → Bool
  | published _ (.error _) => true
  | _ => false

/-- The consumer was asked to commit. -/
def commits : Call ε → Bool
  | committed .. => true
  | _ => false

/-- The consumer was asked to rewind. -/
def rewinds : Call ε → Bool
  | rewound .. => true
  | _ => false

/-- The call is none of these. -/
def Idle (c : Call ε) : Prop :=
  c.reads = false ∧ c.stores = false ∧ c.fails = false ∧ c.commits = false ∧ c.rewinds = false

theorem countP_single (p : Call ε → Bool) (c : Call ε) : [c].countP p = (p c).toNat := by
  rw [List.countP_singleton]
  cases p c <;> rfl

end Call

namespace Stats

variable (s : Stats) (resolution : Resolution)

theorem processed_count : (s.count resolution).processed = s.processed + 1 := by cases resolution <;> rfl

theorem heldBack_count : (s.count resolution).heldBack = s.heldBack := by cases resolution <;> rfl

theorem finished_count : (s.count resolution).finished = s.finished := by cases resolution <;> rfl

theorem settled_count :
    (s.count resolution).succeeded + (s.count resolution).republished + (s.count resolution).dropped =
      s.succeeded + s.republished + s.dropped + resolution.isSettled.toNat := by
  cases resolution <;> simp only [count, Resolution.isSettled, Bool.toNat_true, Bool.toNat_false] <;> omega

theorem redelivered_count :
    (s.count resolution).redelivered = s.redelivered + (!resolution.isSettled).toNat := by
  cases resolution <;> rfl

end Stats

/-- The counters of a worker, which has a sweep or not, are what its calls amount to. -/
structure Balanced {ε : Type} (sweeps : Bool) (s : Stats) (calls : List (Call ε)) : Prop where
  processed : s.processed = s.succeeded + s.republished + s.dropped + s.redelivered
  /-- Every record that was read is processed or held back. -/
  read : s.processed + s.heldBack = calls.countP Call.reads
  republished : s.republished = calls.countP Call.stores
  redelivered : s.redelivered = calls.countP Call.fails
  committed : s.succeeded + s.republished + s.dropped = calls.countP Call.commits
  rewound : s.redelivered + s.heldBack = calls.countP Call.rewinds
  /-- Nothing is held back without a sweep. -/
  heldBack : sweeps = false → s.heldBack = 0

/-- What is still to be done about a record that was read. -/
inductive Debt where
  | nothing
  /-- The record is to be counted. -/
  | counting
  /-- The record is counted, and is to be settled as it was resolved. -/
  | settling (resolution : Resolution)

namespace Debt

/-- The records to be counted. -/
def records : Debt → Nat
  | counting => 1
  | _ => 0

/-- The calls to be made that commit a record. -/
def commits : Debt → Nat
  | settling resolution => resolution.isSettled.toNat
  | _ => 0

/-- The calls to be made that rewind a record. -/
def rewinds : Debt → Nat
  | settling resolution => (!resolution.isSettled).toNat
  | _ => 0

/-- What the answer to a poll leaves to be done. -/
def ofPoll : Except ConsumeError (Option ConsumedRecord) → Debt
  | .ok (some _) => counting
  | _ => nothing

/-- What is to be done about the record that was found, if there is one. -/
def ofFinding : Finding → Debt
  | .record _ => counting
  | _ => nothing

end Debt

/-- The counters are what the calls amount to, but for what is still to be done. The worker is not finished. -/
structure Tallied {ε : Type} (sweeps : Bool) (debt : Debt) (s : Stats) (calls : List (Call ε)) : Prop where
  processed : s.processed = s.succeeded + s.republished + s.dropped + s.redelivered
  read : s.processed + s.heldBack + debt.records = calls.countP Call.reads
  republished : s.republished = calls.countP Call.stores
  redelivered : s.redelivered = calls.countP Call.fails
  committed : s.succeeded + s.republished + s.dropped = calls.countP Call.commits + debt.commits
  rewound : s.redelivered + s.heldBack = calls.countP Call.rewinds + debt.rewinds
  heldBack : sweeps = false → s.heldBack = 0
  running : s.finished = false

namespace Tallied

variable {ε : Type} {sweeps : Bool} {debt : Debt} {s : Stats} {calls : List (Call ε)}

theorem balanced (h : Tallied sweeps .nothing s calls) : Balanced sweeps s calls :=
  { h with }

theorem start (tier : Tier) (channel : String) : Tallied sweeps .nothing (.start tier channel) ([] : List (Call ε)) :=
  ⟨rfl, rfl, rfl, rfl, rfl, rfl, fun _ => rfl, rfl⟩

/-- A call that no counter follows makes a debt, or pays one. -/
theorem append (h : Tallied sweeps debt s calls) {c : Call ε} {debt' : Debt}
    (hrecords : debt'.records = debt.records + c.reads.toNat) (hstores : c.stores = false) (hfails : c.fails = false)
    (hcommits : debt.commits = c.commits.toNat + debt'.commits)
    (hrewinds : debt.rewinds = c.rewinds.toNat + debt'.rewinds) : Tallied sweeps debt' s (calls ++ [c]) where
  processed := h.processed
  read := by rw [List.countP_append, Call.countP_single, ← h.read, hrecords, ← Nat.add_assoc]
  republished := by rw [List.countP_append, Call.countP_single, hstores, h.republished]; rfl
  redelivered := by rw [List.countP_append, Call.countP_single, hfails, h.redelivered]; rfl
  committed := by rw [h.committed, List.countP_append, Call.countP_single, hcommits, Nat.add_assoc]
  rewound := by rw [h.rewound, List.countP_append, Call.countP_single, hrewinds, Nat.add_assoc]
  heldBack := h.heldBack
  running := h.running

theorem idle (h : Tallied sweeps debt s calls) {c : Call ε} (hc : c.Idle) : Tallied sweeps debt s (calls ++ [c]) := by
  obtain ⟨hreads, hstores, hfails, hcommits, hrewinds⟩ := hc
  exact h.append (by simp [hreads]) hstores hfails (by simp [hcommits]) (by simp [hrewinds])

/-- A record that is read is to be counted. -/
theorem reading (h : Tallied sweeps .nothing s calls) (r : ConsumedRecord) :
    Tallied sweeps .counting s (calls ++ [.polled (.ok (some r))]) := h.append rfl rfl rfl rfl rfl

/-- A record is settled by one call. -/
theorem settling {resolution : Resolution} (h : Tallied sweeps (.settling resolution) s calls) (r : ConsumedRecord)
    (answer : Except ConsumeError Unit) : Tallied sweeps .nothing s (calls ++ [.settling r resolution answer]) := by
  obtain ⟨hreads, hstores, hfails, hcommits, hrewinds⟩ :
      (Call.settling r resolution answer : Call ε).reads = false ∧
        (Call.settling r resolution answer : Call ε).stores = false ∧
        (Call.settling r resolution answer : Call ε).fails = false ∧
        (Call.settling r resolution answer : Call ε).commits = resolution.isSettled ∧
        (Call.settling r resolution answer : Call ε).rewinds = !resolution.isSettled := by
    unfold Call.settling
    cases resolution.isSettled <;> exact ⟨rfl, rfl, rfl, rfl, rfl⟩
  exact h.append (by rw [hreads]; rfl) hstores hfails (by rw [hcommits]; rfl) (by rw [hrewinds]; rfl)

/-- A record that is held back is counted and rewound. This takes a sweep. -/
theorem holdingBack (h : Tallied true .counting s calls) (r : ConsumedRecord) (answer : Except ConsumeError Unit) :
    Tallied true .nothing s.countHeldBack (calls ++ [.rewound r answer]) where
  processed := h.processed
  read := by simpa [Call.reads, Debt.records, Stats.countHeldBack, Nat.add_assoc] using h.read
  republished := by simp [Call.stores, h.republished, Stats.countHeldBack]
  redelivered := by simp [Call.fails, h.redelivered, Stats.countHeldBack]
  committed := by simp [Call.commits, h.committed, Debt.commits, Stats.countHeldBack]
  rewound := by simp [Call.rewinds, Debt.rewinds, Stats.countHeldBack, ← Nat.add_assoc, h.rewound]
  heldBack := nofun
  running := h.running

/-- A record is counted as it was resolved. The calls for it so far say whether it moved on, or was to. -/
theorem resolving (h : Tallied sweeps .counting s calls) {resolution : Resolution} {cs : List (Call ε)}
    (hreads : cs.countP Call.reads = 0) (hcommits : cs.countP Call.commits = 0)
    (hrewinds : cs.countP Call.rewinds = 0)
    (hstores : (s.count resolution).republished = s.republished + cs.countP Call.stores)
    (hfails : (!resolution.isSettled).toNat = cs.countP Call.fails) :
    Tallied sweeps (.settling resolution) (s.count resolution) (calls ++ cs) where
  processed := by
    rw [s.processed_count, s.settled_count, s.redelivered_count, h.processed]
    have hone : resolution.isSettled.toNat + (!resolution.isSettled).toNat = 1 := by cases resolution.isSettled <;> rfl
    omega
  read := by
    have hread := h.read
    rw [s.processed_count, s.heldBack_count, List.countP_append, hreads, ← hread]
    simp only [Debt.records]
    omega
  republished := by rw [hstores, List.countP_append, h.republished]
  redelivered := by rw [s.redelivered_count, List.countP_append, hfails, h.redelivered]
  committed := by
    rw [s.settled_count, h.committed, List.countP_append, hcommits]
    rfl
  rewound := by
    have hrewound := h.rewound
    rw [s.redelivered_count, s.heldBack_count, List.countP_append, hrewinds]
    simp only [Debt.rewinds] at hrewound ⊢
    omega
  heldBack hs := (s.heldBack_count resolution).trans (h.heldBack hs)
  running := (s.finished_count resolution).trans h.running

/-- No call is made for a record that does not move on. -/
theorem finishing (h : Tallied sweeps .counting s calls) {resolution : Resolution}
    (hr : resolution = .completed ∨ ∃ kind cause, resolution = .dropped kind cause) :
    Tallied sweeps (.settling resolution) (s.count resolution) calls := by
  have hnone : Tallied sweeps (.settling resolution) (s.count resolution) (calls ++ []) := by
    rcases hr with rfl | ⟨kind, cause, rfl⟩
    · exact h.resolving rfl rfl rfl rfl rfl
    · exact h.resolving rfl rfl rfl rfl rfl
  rwa [List.append_nil] at hnone

/-- A record that is to move on is counted by what the publisher answers. -/
theorem publishing (h : Tallied sweeps .counting s calls) (e : Envelope) (next : Tier)
    (answer : Except PublishError Position) :
    Tallied sweeps (.settling (Processor.resolutionOf next answer)) (s.count (Processor.resolutionOf next answer))
      (calls ++ [.published e answer]) := by
  cases answer with
  | ok position => exact h.resolving rfl rfl rfl rfl rfl
  | error err => exact h.resolving rfl rfl rfl rfl rfl

end Tallied

/-! ## Actions and their calls -/

namespace Noted

variable {σ ε α β : Type}

/-- After calls of which `P` holds, the action comes to calls of which `Q` holds with its answer. -/
def Leads (P : List (Call ε) → Prop) (m : StateM (Noted σ ε) α) (Q : α → List (Call ε) → Prop) : Prop :=
  ∀ x, P x.calls → Q (m x).1 (m x).2.calls

namespace Leads

variable {P : List (Call ε) → Prop} {Q : α → List (Call ε) → Prop} {a : α}

protected theorem pure (h : ∀ calls, P calls → Q a calls) : Leads P (Pure.pure a : StateM (Noted σ ε) α) Q :=
  fun x hx => h x.calls hx

protected theorem bind {m : StateM (Noted σ ε) α} {f : α → StateM (Noted σ ε) β} {S : β → List (Call ε) → Prop}
    (hm : Leads P m Q) (hf : ∀ a, Leads (Q a) (f a) S) : Leads P (m >>= f) S :=
  fun x hx => hf (m x).1 (m x).2 (hm x hx)

/-- An action that is no call changes nothing of what holds. -/
protected theorem quiet (m : StateM σ α) : Leads P (Noted.quiet m) fun _ => P := fun _ hx => hx

protected theorem call {note : α → Call ε} {m : StateM σ α} (h : ∀ a calls, P calls → Q a (calls ++ [note a])) :
    Leads P (Noted.call note m) Q := fun x hx => h (m x.state).1 x.calls hx

/-- Nor does the use of a place in the state. -/
protected theorem read (c : Cell σ α) : Leads P (cell ε c).read fun _ => P := fun _ hx => hx

protected theorem update (c : Cell σ α) (f : α → β × α) : Leads P ((cell ε c).update f) fun _ => P := fun _ hx => hx

protected theorem forM {f : β → StateM (Noted σ ε) PUnit} (h : ∀ b, Leads P (f b) fun _ => P) (bs : List β) :
    Leads P (bs.forM f) fun _ => P := by
  induction bs with
  | nil => exact .pure fun _ => id
  | cons b bs ih => exact (h b).bind fun _ => ih

protected theorem foldlM {f : α → β → StateM (Noted σ ε) α} (h : ∀ a b, Leads (Q a) (f a b) Q) (bs : List β)
    (a : α) : Leads (Q a) (bs.foldlM f a) Q := by
  induction bs generalizing a with
  | nil => exact .pure fun _ => id
  | cons b bs ih =>
    rw [List.foldlM_cons]
    exact (h a b).bind ih

end Leads

end Noted

/-! ## Processing -/

namespace Processor

variable {σ ε : Type} (p : Processor σ ε) {sweeps : Bool} {s : Stats}

theorem leads_evaluate (r : ConsumedRecord) :
    Noted.Leads (Tallied sweeps .counting s) (p.noting.evaluate r) fun _ => Tallied sweeps .counting s := by
  unfold evaluate
  cases p.noting.codec.decode r.payload with
  | error err => exact .pure fun _ => id
  | ok e =>
    refine (Noted.Leads.quiet _).bind fun _ => ?_
    refine (Noted.Leads.call fun answer calls h => h.idle ⟨rfl, rfl, rfl, rfl, rfl⟩).bind fun answer => ?_
    exact .pure fun _ => id

theorem leads_carryOut (r : ConsumedRecord) (answer : Option OrderReceived × Outcome) :
    Noted.Leads (Tallied sweeps .counting s) (p.noting.carryOut (p.noting.plan r answer))
      fun resolution => Tallied sweeps (.settling resolution) (s.count resolution) := by
  cases hplan : p.noting.plan r answer with
  | finish resolution => exact .pure fun _ h => h.finishing (plan_eq_finish hplan)
  | escalate next key payload =>
    refine (Noted.Leads.quiet _).bind fun now => ?_
    refine (Noted.Leads.call fun answer calls h => h.publishing _ next answer).bind fun answer => ?_
    exact .pure fun _ => id

theorem leads_settle (c : Subscription σ) (r : ConsumedRecord) (resolution : Resolution) :
    Noted.Leads (Tallied sweeps (.settling resolution) s) (p.noting.settle (c.noting ε) r resolution)
      fun _ => Tallied sweeps .nothing s := by
  intro x hx
  obtain ⟨answer, y, -, hnoting⟩ := exists_settle_noting p r c resolution x.state
  rw [hnoting]
  exact hx.settling r answer

/-- **A record is counted as it is resolved**, once it is processed from beginning to end. -/
theorem leads_handleRecord (c : Subscription σ) (r : ConsumedRecord) :
    Noted.Leads (Tallied sweeps .counting s) (p.noting.handleRecord (c.noting ε) r)
      fun resolution => Tallied sweeps .nothing (s.count resolution) := by
  have hresolve : Noted.Leads (Tallied sweeps .counting s) (p.noting.resolve r)
      fun answer => Tallied sweeps (.settling answer.2) (s.count answer.2) :=
    (p.leads_evaluate r).bind fun answer => (p.leads_carryOut r answer).bind fun resolution => .pure fun _ => id
  refine hresolve.bind fun (reference, resolution) => ?_
  refine (Noted.Leads.quiet _).bind fun _ => ?_
  exact (p.leads_settle c r resolution).bind fun _ => .pure fun _ => id

end Processor

/-! ## Rounds -/

namespace Worker

variable {σ ε : Type} (w : Worker σ ε)

/-- What holds of the calls of a worker: its counters are what they amount to, but for a debt. -/
def Tells (debt : Debt) (s : State) : List (Call ε) → Prop := Tallied w.recovery.isSome debt s.stats

theorem leads_pause (debt : Debt) (s : State) (p : Int) :
    Noted.Leads (w.Tells debt s) (w.noting.pause s p) (w.Tells debt) := by
  unfold pause
  split
  · exact .pure fun _ => id
  · refine (Noted.Leads.call fun answer calls h => Tallied.idle h ⟨rfl, rfl, rfl, rfl, rfl⟩).bind fun answer => ?_
    cases answer with
    | ok => exact .pure fun _ => id
    | error err => exact (Noted.Leads.quiet _).bind fun _ => .pure fun _ => id

theorem recovery_noting : w.noting.recovery = w.recovery.map (Noted.cell ε) := rfl

theorem leads_pauseDrained (s : State) :
    Noted.Leads (w.Tells .nothing s) (w.noting.pauseDrained s) fun answer => w.Tells .nothing answer.1 := by
  unfold pauseDrained
  rw [recovery_noting]
  cases w.recovery with
  | none => exact .pure fun _ => id
  | some cell =>
    refine (Noted.Leads.read cell).bind fun sweep => ?_
    -- The set of paused partitions is no part of what is counted.
    have hpause (paused : PartitionSet) : Noted.Leads (w.Tells .nothing s)
        (sweep.drained.foldlM w.noting.pause { s with paused }) (w.Tells .nothing) :=
      Noted.Leads.foldlM (w.leads_pause .nothing) sweep.drained { s with paused }
    exact (hpause _).bind fun s => .pure fun _ => id

theorem leads_checkRetention (s : State) :
    Noted.Leads (w.Tells .nothing s) w.noting.checkRetention fun _ => w.Tells .nothing s := by
  unfold checkRetention
  rw [recovery_noting]
  cases w.recovery with
  | none => exact .pure fun _ => id
  | some cell =>
    refine (Noted.Leads.read cell).bind fun sweep => .forM (fun p => ?_) _
    refine (Noted.Leads.call fun answer calls h => Tallied.idle h ⟨rfl, rfl, rfl, rfl, rfl⟩).bind fun answer => ?_
    cases answer with
    | ok marks => exact (Noted.Leads.update cell _).bind fun entries => .forM (fun _ => .quiet _) _
    | error err => exact .quiet _

/-- With a sweep a record can be held back. -/
theorem leads_holdBack (hr : w.recovery.isSome = true) (s : State) (r : ConsumedRecord) :
    Noted.Leads (w.Tells .counting s) (w.noting.holdBack s r) (w.Tells .nothing) := by
  unfold holdBack Tells
  rw [hr]
  refine (Noted.Leads.quiet _).bind fun _ => ?_
  refine (Noted.Leads.call fun answer calls h => Tallied.holdingBack h r answer).bind fun answer => ?_
  cases answer with
  | ok => exact .pure fun _ => id
  | error err => exact (Noted.Leads.quiet _).bind fun _ => .pure fun _ => id

theorem leads_takeUp (s : State) (r : ConsumedRecord) :
    Noted.Leads (w.Tells .counting s) (w.noting.takeUp s r) fun answer => w.Tells (.ofFinding answer.2) answer.1 := by
  unfold takeUp
  rw [recovery_noting]
  cases hr : w.recovery with
  | none => exact .pure fun _ => id
  | some cell =>
    have hsweeps : w.recovery.isSome = true := by rw [hr]; rfl
    refine (Noted.Leads.update cell _).bind fun (admission, entries) => ?_
    refine (Noted.Leads.forM (fun _ => .quiet _) _).bind fun _ => ?_
    cases admission with
    | process => exact .pure fun _ => id
    | drained =>
      refine (w.leads_holdBack hsweeps s r).bind fun s => ?_
      exact (w.leads_pause .nothing s r.partition).bind fun s => .pure fun _ => id
    | unassigned => exact (w.leads_holdBack hsweeps s r).bind fun s => .pure fun _ => id

theorem leads_poll (s : State) :
    Noted.Leads (w.Tells .nothing s) (w.noting.consumer.poll w.noting.tick)
      fun answer => w.Tells (.ofPoll answer) s := by
  refine Noted.Leads.call fun answer calls h => ?_
  rcases answer with err | _ | r
  · exact Tallied.idle h ⟨rfl, rfl, rfl, rfl, rfl⟩
  · exact Tallied.idle h ⟨rfl, rfl, rfl, rfl, rfl⟩
  · exact Tallied.reading h r

/-- **What is found to be done** is nothing, or a record to be counted. -/
theorem leads_select (s : State) :
    Noted.Leads (w.Tells .nothing s) (w.noting.select s) fun answer => w.Tells (.ofFinding answer.2) answer.1 := by
  unfold select
  refine (Noted.Leads.quiet _).bind fun asked => ?_
  cases asked with
  | true => exact .pure fun _ => id
  | false =>
    refine (w.leads_pauseDrained s).bind fun (s, complete) => ?_
    cases complete with
    | true => exact (Noted.Leads.quiet _).bind fun _ => .pure fun _ => id
    | false =>
      refine (w.leads_poll s).bind fun answer => ?_
      rcases answer with err | _ | r
      · cases err <;> exact (Noted.Leads.quiet _).bind fun _ => .pure fun _ => id
      · exact (w.leads_checkRetention s).bind fun _ => .pure fun _ => id
      · exact w.leads_takeUp s r

theorem leads_conclude (s : State) (r : ConsumedRecord) (resolution : Resolution) :
    Noted.Leads (w.Tells .nothing { s with stats := s.stats.count resolution }) (w.noting.conclude s r resolution)
      (w.Tells .nothing) := by
  unfold conclude
  rw [recovery_noting]
  cases w.recovery with
  | none => exact .pure fun _ => id
  | some cell =>
    cases resolution.isSettled with
    | false => exact .pure fun _ => id
    | true =>
      refine (Noted.Leads.update cell _).bind fun drained => ?_
      cases drained with
      | false => exact .pure fun _ => id
      | true => exact (Noted.Leads.quiet _).bind fun _ => .pure fun _ => id

/-- **After a round** the counters are again what the calls amount to. -/
theorem leads_iterate (s : State) :
    Noted.Leads (w.Tells .nothing s) (w.noting.iterate s) fun answer => w.Tells .nothing answer.1 := by
  unfold iterate
  refine (w.leads_select s).bind fun (s, finding) => ?_
  cases finding with
  | stop why => exact .pure fun _ => id
  | nothing => exact .pure fun _ => id
  | record r =>
    have hprocess : Noted.Leads (w.Tells .counting s) (w.noting.process s r) (w.Tells .nothing) :=
      (w.processor.leads_handleRecord w.consumer r).bind (w.leads_conclude s r)
    exact hprocess.bind fun s => .pure fun _ => id

theorem leads_loop (n : Nat) (s : State) :
    Noted.Leads (w.Tells .nothing s) (w.noting.loop n s) fun answer => w.Tells .nothing answer.1 := by
  induction n generalizing s with
  | zero => exact .pure fun _ => id
  | succ n ih =>
    refine (w.leads_iterate s).bind fun (s, stop) => ?_
    cases stop with
    | some why => exact .pure fun _ => id
    | none => exact ih s

/-! ## Runs -/

/-- The reason for which the worker leaves its loop within `n` rounds, if it does. -/
def stopWithin? (n : Nat) (x : σ) : Option Stop :=
  (w.loop n w.start (w.processor.report w.startedEntry x).2).1.2

/-- After `n` rounds the counters are what the calls of the worker amount to, and they say whether it has left its
loop. That its calls are noted makes no difference to the run. -/
def CountsEverything (n : Nat) (x : σ) : Prop :=
  ∃ calls, w.noting.run n ⟨x, []⟩ = ((w.run n x).1, ⟨(w.run n x).2, calls⟩) ∧
    Balanced w.recovery.isSome (w.run n x).1.stats calls ∧
    ((w.run n x).1.stats.finished = true ↔ ∃ why, w.stopWithin? n x = some why)

section Run

variable {w} {n : Nat} {s : State} {x y z : σ}

theorem run_of_none (hr : w.processor.report w.startedEntry x = ((), y)) (h : w.loop n w.start y = ((s, none), z)) :
    w.run n x = (s, z) ∧ w.stopWithin? n x = none := by
  simp only [run, stopWithin?, bind, StateT.bind, hr, h, and_true]
  rfl

theorem run_of_some {why : Stop} (hr : w.processor.report w.startedEntry x = ((), y))
    (h : w.loop n w.start y = ((s, some why), z)) : w.run n x = w.finish s z ∧ w.stopWithin? n x = some why := by
  simp only [run, stopWithin?, bind, StateT.bind, hr, h, and_true]

end Run

theorem stopWithin?_noting (n : Nat) (x : σ) : w.noting.stopWithin? n ⟨x, []⟩ = w.stopWithin? n x := by
  have halike := w.worksAlike_noting
  unfold stopWithin?
  rw [← halike.startedEntry rfl, ← halike.start rfl]
  obtain ⟨-, hreport⟩ := halike.report w.startedEntry x ⟨x, []⟩ rfl
  exact (congrArg Prod.snd (halike.loop n w.start _ _ hreport).1).symm

/-- What is known of a run with noted calls. -/
theorem balanced_run_noting (n : Nat) (x : σ) :
    Balanced w.recovery.isSome (w.noting.run n ⟨x, []⟩).1.stats (w.noting.run n ⟨x, []⟩).2.calls ∧
      ((w.noting.run n ⟨x, []⟩).1.stats.finished = true ↔ ∃ why, w.noting.stopWithin? n ⟨x, []⟩ = some why) := by
  obtain ⟨y, hreport⟩ : ∃ y, w.noting.processor.report w.noting.startedEntry ⟨x, []⟩ = ((), ⟨y, []⟩) := ⟨_, rfl⟩
  obtain ⟨s, stop, z, hloop⟩ : ∃ s stop z, w.noting.loop n w.noting.start ⟨y, []⟩ = ((s, stop), z) := ⟨_, _, _, rfl⟩
  have htells : w.Tells .nothing s z.calls := by
    have hend := w.leads_loop n w.noting.start ⟨y, []⟩ (.start _ _)
    rwa [hloop] at hend
  cases stop with
  | none =>
    obtain ⟨hrun, hstop⟩ := run_of_none hreport hloop
    rw [hrun, hstop]
    exact ⟨htells.balanced, by simp [htells.running]⟩
  | some why =>
    obtain ⟨hrun, hstop⟩ := run_of_some hreport hloop
    rw [hrun, hstop]
    exact ⟨{ htells.balanced with }, fun _ => ⟨why, rfl⟩, fun _ => rfl⟩

theorem countsEverything (n : Nat) (x : σ) : w.CountsEverything n x := by
  obtain ⟨calls, hrun⟩ := w.exists_run_noting n x
  have hnoting := w.balanced_run_noting n x
  rw [stopWithin?_noting, hrun] at hnoting
  exact ⟨calls, hrun, hnoting⟩

end Worker

/-! ## Among others -/

section Others

variable {σ ε α : Type}

/-- A state that others change as well, and how many turns they had. -/
structure Shared (σ : Type) where
  state : σ
  turns : Nat

variable (others : Nat → σ → σ)

/-- An action among others, who have a turn before it and one after it. -/
def Shared.amid (m : StateM σ α) : StateM (Shared σ) α := fun x =>
  let (a, y) := m (others x.turns x.state)
  (a, ⟨others (x.turns + 1) y, x.turns + 2⟩)

/-- The processor among others. -/
def Processor.amid (p : Processor σ ε) : Processor (Shared σ) ε where
  tier := p.tier
  topology := p.topology
  codec := p.codec
  handle e := Shared.amid others (p.handle e)
  classify := p.classify
  describe := p.describe
  publish e := Shared.amid others (p.publish e)
  clock := Shared.amid others p.clock
  republishKey := p.republishKey
  report e := Shared.amid others (p.report e)

/-- The consumer among others. -/
def Subscription.amid (c : Subscription σ) : Subscription (Shared σ) where
  channel := c.channel
  poll tick := Shared.amid others (c.poll tick)
  commit r := Shared.amid others (c.commit r)
  rewind r := Shared.amid others (c.rewind r)
  pause p := Shared.amid others (c.pause p)
  watermarks p := Shared.amid others (c.watermarks p)

/-- The worker among others. Whatever it does, others can change the bus before and after, move its sweep, or ask it
to stop. -/
def Worker.amid (w : Worker σ ε) : Worker (Shared σ) ε where
  name := w.name
  processor := w.processor.amid others
  consumer := w.consumer.amid others
  recovery := w.recovery.map fun c => ⟨fun x => c.get x.state, fun a x => { x with state := c.set a x.state }⟩
  tick := w.tick
  stopRequested := Shared.amid others w.stopRequested

end Others

/-- **The counters account for every record**, after any number of rounds of any worker, whether it is by itself or
others change what it works with at any time. -/
theorem Worker.counts_everything {σ ε : Type} (w : Worker σ ε) (others : Nat → σ → σ) (n : Nat) (x : σ) :
    w.CountsEverything n x ∧ (w.amid others).CountsEverything n ⟨x, 0⟩ :=
  ⟨w.countsEverything n x, (w.amid others).countsEverything n ⟨x, 0⟩⟩

end OrderRelay
