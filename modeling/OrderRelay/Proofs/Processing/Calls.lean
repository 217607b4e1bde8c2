import OrderRelay.Proofs.Processing.Plan

/-!
# The calls of a processor

While a processor works a record off, it calls its handler, its publisher and the consumer of the record. The
calls are noted here with their answers, in order, by ports that do the same as before and write the call down.

* `Call`, a call with its answer, and `Noted`, a state with the calls made so far;
* `Processor.noting`, `Subscription.noting`, the same ports with every call noted;
* `Course`, the four courses that the work on a record can take, and `exists_course`: there are no others;
* `WorkedOff`, what the calls say of the resolution, and the resolution of the calls;
* **`settlement_law`**: the calls made for a record, whatever handler, publisher and consumer are plugged in.
-/

namespace OrderRelay

open Log

/-- A call with its answer. Handling can fail with an `ε`. -/
inductive Call (ε : Type) where
  | handled (e : OrderReceived) (answer : Except ε Unit)
  | published (e : Envelope) (answer : Except PublishError Position)
  | polled (answer : Except ConsumeError (Option ConsumedRecord))
  | committed (r : ConsumedRecord) (answer : Except ConsumeError Unit)
  | rewound (r : ConsumedRecord) (answer : Except ConsumeError Unit)
  | paused (p : Int) (answer : Except ConsumeError Unit)
  | asked (p : Int) (answer : Except OffsetQueryError Watermarks)

namespace Call

variable {ε : Type}

/-- The event that the handler was called with. -/
def event? : Call ε → Option OrderReceived
  | handled e _ => some e
  | _ => none

/-- The envelope that the publisher was called with. -/
def envelope? : Call ε → Option Envelope
  | published e _ => some e
  | _ => none

/-- The call that settles a record which was resolved in a given way. -/
def settling (r : ConsumedRecord) (resolution : Resolution) (answer : Except ConsumeError Unit) : Call ε :=
  if resolution.isSettled then committed r answer else rewound r answer

end Call

/-- A state with the calls that were made so far. -/
structure Noted (σ ε : Type) where
  state : σ
  calls : List (Call ε)

namespace Noted

variable {σ ε α : Type}

/-- An action that is a call, which is noted with its answer. -/
def call (note : α → Call ε) (m : StateM σ α) : StateM (Noted σ ε) α := fun x =>
  let (a, state) := m x.state
  (a, ⟨state, x.calls ++ [note a]⟩)

/-- An action that is no call. -/
def quiet (m : StateM σ α) : StateM (Noted σ ε) α := fun x =>
  let (a, state) := m x.state
  (a, ⟨state, x.calls⟩)

end Noted

section Ports

variable {σ ε : Type}

/-- The processor with its calls noted. -/
def Processor.noting (p : Processor σ ε) : Processor (Noted σ ε) ε where
  tier := p.tier
  topology := p.topology
  codec := p.codec
  handle e := Noted.call (.handled e) (p.handle e)
  classify := p.classify
  describe := p.describe
  publish e := Noted.call (.published e) (p.publish e)
  clock := Noted.quiet p.clock
  republishKey := p.republishKey
  report e := Noted.quiet (p.report e)

/-- The consumer with all calls of it noted. -/
def Subscription.noting (ε : Type) (c : Subscription σ) : Subscription (Noted σ ε) where
  channel := c.channel
  poll tick := Noted.call .polled (c.poll tick)
  commit r := Noted.call (.committed r) (c.commit r)
  rewind r := Noted.call (.rewound r) (c.rewind r)
  pause p := Noted.call (.paused p) (c.pause p)
  watermarks p := Noted.call (.asked p) (c.watermarks p)

end Ports

namespace Processor

variable {σ ε : Type} (p : Processor σ ε) (r : ConsumedRecord)

/-! ## What the calls say -/

/-- What has to hold for a record to move on to the tier `next` with a payload: it was read, the handler
failed, as `calls` tells, for a passing reason, and the event without blanks could be written. -/
structure MovesOn (calls : List (Call ε)) (next : Tier) (payload : List UInt8) : Prop where
  next : p.tier.next = some next
  exists_event : ∃ e err, p.codec.decode r.payload = .ok e ∧ .handled e (.error err) ∈ calls ∧
    p.classify err = .transient ∧ p.codec.encode e.trimmed = .ok payload

/-- What is to hold of the calls that are made before a record is settled, and of its resolution. -/
structure WorkedOff (calls : List (Call ε)) (resolution : Resolution) : Prop where
  /-- The handler is called once with the event of the record, and not at all if there is none. -/
  handled : calls.filterMap Call.event? = (p.codec.decode r.payload).toOption.toList
  /-- The publisher is called at most once. -/
  published_once : (calls.filterMap Call.envelope?).length ≤ 1
  /-- It is called exactly when the record is to move on. -/
  published_iff : (∃ e answer, .published e answer ∈ calls) ↔ ∃ next payload, p.MovesOn r calls next payload
  /-- It is called with the payload, under the key of the policy and for the channel of the next tier. -/
  envelope_eq : ∀ e answer next payload, .published e answer ∈ calls → p.MovesOn r calls next payload →
    e.payload = payload ∧ e.key = p.republishKey.resolve (r.key.getD "") ∧
      e.destination = p.topology.channelName next
  /-- It is the last that is called. -/
  published_last : ∀ before e answer after, calls = before ++ .published e answer :: after → after = []
  /-- There are no other calls, and nothing is settled yet. -/
  no_others : ∀ c ∈ calls, (∃ e answer, c = .handled e answer) ∨ ∃ e answer, c = .published e answer
  completed_iff : resolution = .completed ↔ ∃ e, .handled e (.ok ()) ∈ calls
  /-- The record is to be read again exactly when the publisher was called and failed. -/
  redeliver_iff : (∃ cause, resolution = .redeliver cause) ↔ ∃ e err, .published e (.error err) ∈ calls
  republished_iff : ∀ next position, resolution = .republished next position ↔
    p.tier.next = some next ∧ ∃ e, .published e (.ok position) ∈ calls
  /-- Nothing moves on from the last tier. -/
  last : p.tier = .error → ∀ e answer, .published e answer ∉ calls

/-! ## Courses -/

/-- The courses that the work on a record can take before it is settled. -/
inductive Course : List (Call ε) → Resolution → Prop where
  /-- There is no event in the record. -/
  | unreadable {err : CodecError} (decode : p.codec.decode r.payload = .error err) :
      Course [] (.dropped .permanent err.message)
  | done {e : OrderReceived} (decode : p.codec.decode r.payload = .ok e) :
      Course [.handled e (.ok ())] .completed
  /-- Handling failed, and the record does not move on. -/
  | stays {e : OrderReceived} {err : ε} {kind : FailureKind} {cause : String}
      (decode : p.codec.decode r.payload = .ok e)
      (plan : p.plan r (some e, p.outcomeOf (.error err)) = .finish (.dropped kind cause)) :
      Course [.handled e (.error err)] (.dropped kind cause)
  /-- Handling failed, and the record is to move on. -/
  | moves {e : OrderReceived} {err : ε} {next : Tier} {key : String} {payload : List UInt8} {now : Int}
      {answer : Except PublishError Position} (decode : p.codec.decode r.payload = .ok e)
      (plan : p.plan r (some e, p.outcomeOf (.error err)) = .escalate next key payload) :
      Course [.handled e (.error err), .published (p.envelope next key payload now) answer]
        (resolutionOf next answer)

variable {p r}

/-- A failure for a passing reason moves an event on that can be written, if there is a next tier. -/
theorem plan_of_transient {e : OrderReceived} {err : ε} {next : Tier} {payload : List UInt8}
    (hkind : p.classify err = .transient) (hnext : p.tier.next = some next)
    (hencode : p.codec.encode e.trimmed = .ok payload) :
    p.plan r (some e, p.outcomeOf (.error err)) =
      .escalate next (p.republishKey.resolve (r.key.getD "")) payload := by
  simp only [plan, outcomeOf, hkind, hnext, escalation, hencode]

/-- What moves on does so for a passing reason, and under the key of the policy. -/
theorem transient_of_plan {e : OrderReceived} {err : ε} {next : Tier} {key : String} {payload : List UInt8}
    (h : p.plan r (some e, p.outcomeOf (.error err)) = .escalate next key payload) :
    p.classify err = .transient ∧ key = p.republishKey.resolve (r.key.getD "") := by
  cases hkind : p.classify err with
  | permanent => simp [plan, outcomeOf, hkind] at h
  | transient =>
    obtain ⟨hnext, e', he, hencode⟩ := plan_eq_escalate h
    obtain rfl := Option.some.inj he
    rw [plan_of_transient hkind hnext hencode] at h
    exact ⟨rfl, (Plan.escalate.inj h).2.1.symm⟩

/-- A record that could not be handled and does not move on is given up. -/
theorem exists_dropped_of_plan {e : OrderReceived} {err : ε} {resolution : Resolution}
    (h : p.plan r (some e, p.outcomeOf (.error err)) = .finish resolution) :
    ∃ kind cause, resolution = .dropped kind cause := by
  rcases plan_eq_finish h with rfl | hdropped
  · simp only [plan, outcomeOf] at h
    cases hkind : p.classify err with
    | permanent => simp [hkind] at h
    | transient =>
      cases hnext : p.tier.next with
      | none => simp [hkind, hnext] at h
      | some next => cases hencode : p.codec.encode e.trimmed <;> simp [hkind, hnext, escalation, hencode] at h
  · exact hdropped

/-- With one call of the handler, which failed, it is known what the record moves on with. -/
theorem MovesOn.plan_eq {calls : List (Call ε)} {e : OrderReceived} {err : ε} {next : Tier}
    {payload : List UInt8} (h : p.MovesOn r calls next payload)
    (hcalls : ∀ e' err', .handled e' (.error err') ∈ calls → e' = e ∧ err' = err) :
    p.plan r (some e, p.outcomeOf (.error err)) =
      .escalate next (p.republishKey.resolve (r.key.getD "")) payload := by
  obtain ⟨e', err', -, hm, hkind, hencode⟩ := h.exists_event
  obtain ⟨rfl, rfl⟩ := hcalls e' err' hm
  exact plan_of_transient hkind h.next hencode

section Courses

variable {calls : List (Call ε)} {resolution : Resolution}

theorem workedOff_unreadable {err : CodecError} (hd : p.codec.decode r.payload = .error err) :
    p.WorkedOff r [] (.dropped .permanent err.message) where
  handled := by rw [hd]; rfl
  published_once := Nat.zero_le 1
  published_iff := by
    constructor
    · rintro ⟨e, answer, h⟩
      exact nomatch h
    · rintro ⟨next, payload, h⟩
      obtain ⟨e, err', -, hm, -⟩ := h.exists_event
      exact nomatch hm
  envelope_eq _ _ _ _ h := nomatch h
  published_last _ _ _ _ h := by simp at h
  no_others _ h := nomatch h
  completed_iff := by simp
  redeliver_iff := by simp
  republished_iff _ _ := by simp
  last _ _ _ h := nomatch h

theorem workedOff_done {e : OrderReceived} (hd : p.codec.decode r.payload = .ok e) :
    p.WorkedOff r [.handled e (.ok ())] .completed where
  handled := by rw [hd]; rfl
  published_once := Nat.zero_le 1
  published_iff := by
    constructor
    · rintro ⟨e', answer, h⟩
      simp at h
    · rintro ⟨next, payload, h⟩
      obtain ⟨e', err', -, hm, -⟩ := h.exists_event
      simp at hm
  envelope_eq _ _ _ _ h := by simp at h
  published_last _ _ _ _ h := by simp [List.singleton_eq_append_iff] at h
  no_others c h := .inl ⟨_, _, List.mem_singleton.mp h⟩
  completed_iff := by simp
  redeliver_iff := by simp
  republished_iff _ _ := by simp
  last _ _ _ h := by simp at h

theorem workedOff_stays {e : OrderReceived} {err : ε} {kind : FailureKind} {cause : String}
    (hd : p.codec.decode r.payload = .ok e)
    (hplan : p.plan r (some e, p.outcomeOf (.error err)) = .finish (.dropped kind cause)) :
    p.WorkedOff r [.handled e (.error err)] (.dropped kind cause) where
  handled := by rw [hd]; rfl
  published_once := Nat.zero_le 1
  published_iff := by
    constructor
    · rintro ⟨e', answer, h⟩
      simp at h
    · rintro ⟨next, payload, h⟩
      have hcalls : ∀ e' err', Call.handled e' (.error err') ∈ [Call.handled e (.error err)] →
          e' = e ∧ err' = err := by simp
      exact nomatch hplan.symm.trans (h.plan_eq hcalls)
  envelope_eq _ _ _ _ h := by simp at h
  published_last _ _ _ _ h := by simp [List.singleton_eq_append_iff] at h
  no_others c h := .inl ⟨_, _, List.mem_singleton.mp h⟩
  completed_iff := by simp
  redeliver_iff := by simp
  republished_iff _ _ := by simp
  last _ _ _ h := by simp at h

theorem workedOff_moves {e : OrderReceived} {err : ε} {next : Tier} {key : String} {payload : List UInt8}
    {now : Int} {answer : Except PublishError Position} (hd : p.codec.decode r.payload = .ok e)
    (hplan : p.plan r (some e, p.outcomeOf (.error err)) = .escalate next key payload) :
    p.WorkedOff r [.handled e (.error err), .published (p.envelope next key payload now) answer]
      (resolutionOf next answer) := by
  obtain ⟨hnext, e₁, he₁, hencode⟩ := plan_eq_escalate hplan
  obtain rfl := Option.some.inj he₁
  obtain ⟨hkind, hkey⟩ := transient_of_plan hplan
  exact {
    handled := by rw [hd]; rfl
    published_once := Nat.le_refl 1
    published_iff := by
      constructor
      · intro _
        exact ⟨next, payload, hnext, e, err, hd, by simp, hkind, hencode⟩
      · intro _
        exact ⟨p.envelope next key payload now, answer, by simp⟩
    envelope_eq := fun e' answer' next' payload' h hmoves => by
      simp only [List.mem_cons, reduceCtorEq, Call.published.injEq, List.not_mem_nil, or_false,
        false_or] at h
      have hcalls : ∀ e' err', Call.handled e' (.error err') ∈ [Call.handled e (.error err),
          .published (p.envelope next key payload now) answer] → e' = e ∧ err' = err := by simp
      obtain ⟨rfl, -, rfl⟩ := Plan.escalate.inj (hplan.symm.trans (hmoves.plan_eq hcalls))
      exact h.1 ▸ ⟨rfl, hkey, rfl⟩
    published_last := fun before e' answer' after h => by
      have hlength := congrArg List.length h
      simp only [List.length_append, List.length_cons, List.length_nil] at hlength
      rcases before with _ | ⟨_, before⟩
      · simp at h
      · exact List.length_eq_zero_iff.mp (by simp only [List.length_cons] at hlength; omega)
    no_others := fun c h => by
      rcases List.mem_cons.mp h with rfl | h
      · exact .inl ⟨_, _, rfl⟩
      · exact .inr ⟨_, _, List.mem_singleton.mp h⟩
    completed_iff := by cases answer <;> simp [resolutionOf]
    redeliver_iff := by cases answer <;> simp [resolutionOf]
    republished_iff := fun next' position' => by
      rw [hnext]
      cases answer <;> simp [resolutionOf, eq_comm]
    last := fun htier => by
      rw [htier] at hnext
      exact nomatch hnext }

/-- The calls of every course say what became of the record. -/
theorem Course.workedOff (h : p.Course r calls resolution) : p.WorkedOff r calls resolution := by
  cases h with
  | unreadable decode => exact workedOff_unreadable decode
  | done decode => exact workedOff_done decode
  | stays decode plan => exact workedOff_stays decode plan
  | moves decode plan => exact workedOff_moves decode plan

end Courses

/-! ## Carrying on with noted calls -/

section Noting

variable (p r)

theorem plan_noting (answer : Option OrderReceived × Outcome) : p.noting.plan r answer = p.plan r answer := rfl

theorem evaluate_noting_of_error {err : CodecError} (h : p.codec.decode r.payload = .error err) (x : σ)
    (calls : List (Call ε)) :
    p.noting.evaluate r ⟨x, calls⟩ = ((none, .failure .permanent err.message), ⟨x, calls⟩) ∧
      p.evaluate r x = ((none, .failure .permanent err.message), x) := by
  have h' : p.noting.codec.decode r.payload = .error err := h
  simp only [evaluate, h, h']
  exact ⟨rfl, rfl⟩

theorem evaluate_noting_of_ok {e : OrderReceived} (h : p.codec.decode r.payload = .ok e) (x : σ) :
    ∃ answer y, p.evaluate r x = ((some e, p.outcomeOf answer), y) ∧ ∀ calls,
      p.noting.evaluate r ⟨x, calls⟩ =
        ((some e, p.outcomeOf answer), ⟨y, calls ++ [.handled e answer]⟩) := by
  have h' : p.noting.codec.decode r.payload = .ok e := h
  simp only [evaluate, h, h']
  exact ⟨_, _, rfl, fun calls => rfl⟩

theorem carryOut_noting_escalate (next : Tier) (key : String) (payload : List UInt8) (x : σ) :
    ∃ now answer y, p.carryOut (.escalate next key payload) x = (resolutionOf next answer, y) ∧ ∀ calls,
      p.noting.carryOut (.escalate next key payload) ⟨x, calls⟩ =
        (resolutionOf next answer,
          ⟨y, calls ++ [.published (p.envelope next key payload now) answer]⟩) :=
  ⟨(p.clock x).1, _, _, rfl, fun _ => rfl⟩

variable {p r}

theorem resolve_eq {event : Option OrderReceived} {outcome : Outcome} {resolution : Resolution} {x y z : σ}
    (he : p.evaluate r x = ((event, outcome), y))
    (hc : p.carryOut (p.plan r (event, outcome)) y = (resolution, z)) :
    p.resolve r x = (((event.map (·.referenceUri)).getD "", resolution), z) := by
  simp only [resolve, bind, StateT.bind, he, hc]
  rfl

variable (p r)

/-- The work on a record takes one of the courses. -/
theorem exists_course (x : σ) :
    ∃ reference calls resolution y, p.Course r calls resolution ∧
      p.resolve r x = ((reference, resolution), y) ∧
      p.noting.resolve r ⟨x, []⟩ = ((reference, resolution), ⟨y, calls⟩) := by
  cases hd : p.codec.decode r.payload with
  | error err =>
    obtain ⟨hn, he⟩ := evaluate_noting_of_error p r hd x []
    exact ⟨_, _, _, _, .unreadable hd, resolve_eq he rfl, resolve_eq hn rfl⟩
  | ok e =>
    obtain ⟨answer, y, he, hn⟩ := evaluate_noting_of_ok p r hd x
    cases answer with
    | ok done => exact ⟨_, _, _, _, .done hd, resolve_eq he rfl, resolve_eq (hn []) rfl⟩
    | error err =>
      cases hplan : p.plan r (some e, p.outcomeOf (.error err)) with
      | finish resolution =>
        obtain ⟨kind, cause, rfl⟩ := exists_dropped_of_plan hplan
        exact ⟨_, _, _, _, .stays hd hplan, resolve_eq he (by rw [hplan]; rfl),
          resolve_eq (hn []) (by rw [plan_noting, hplan]; rfl)⟩
      | escalate next key payload =>
        obtain ⟨now, answer, z, hc, hnc⟩ := carryOut_noting_escalate p next key payload y
        exact ⟨_, _, _, _, .moves hd hplan, resolve_eq he (by rw [hplan]; exact hc),
          resolve_eq (hn []) (by rw [plan_noting, hplan]; exact hnc _)⟩

/-- Settling a record is one call, and an entry in the log if it fails. -/
theorem settle_eq (c : Subscription σ) (resolution : Resolution) (x : σ) :
    p.settle c r resolution x =
      let (answer, y) := (if resolution.isSettled then c.commit r else c.rewind r) x
      match answer with
      | .ok () => ((), y)
      | .error err => p.report (unsettledEntry r err) y := by
  unfold settle
  split
  · simp only [bind, StateT.bind]
    rcases c.commit r x with ⟨_ | _, y⟩ <;> rfl
  · simp only [bind, StateT.bind]
    rcases c.rewind r x with ⟨_ | _, y⟩ <;> rfl

/-- Asking the consumer that notes its calls to settle a record is one call. -/
theorem ask_noting (c : Subscription σ) (resolution : Resolution) :
    (if resolution.isSettled then (c.noting ε).commit r else (c.noting ε).rewind r) =
      Noted.call (.settling r resolution) (if resolution.isSettled then c.commit r else c.rewind r) := by
  unfold Call.settling
  split <;> rfl

/-- Whatever the consumer answers, it is called once. -/
theorem exists_settle_noting (c : Subscription σ) (resolution : Resolution) (x : σ) :
    ∃ answer y, p.settle c r resolution x = ((), y) ∧ ∀ calls,
      p.noting.settle (c.noting ε) r resolution ⟨x, calls⟩ =
        ((), ⟨y, calls ++ [.settling r resolution answer]⟩) := by
  obtain ⟨answer, y, hasked⟩ : ∃ answer y,
      (if resolution.isSettled then c.commit r else c.rewind r) x = (answer, y) := ⟨_, _, rfl⟩
  simp only [settle_eq, ask_noting, Noted.call, hasked]
  cases answer with
  | ok done => exact ⟨.ok done, y, rfl, fun _ => rfl⟩
  | error err => exact ⟨.error err, _, rfl, fun _ => rfl⟩

/-- Whatever the consumer answers, it is called once more when the work on a record is done. -/
theorem exists_handleRecord {reference : String} {resolution : Resolution} {calls : List (Call ε)} {x y : σ}
    (hresolve : p.resolve r x = ((reference, resolution), y))
    (hnoted : p.noting.resolve r ⟨x, []⟩ = ((reference, resolution), ⟨y, calls⟩)) (c : Subscription σ) :
    ∃ answer z, p.handleRecord c r x = (resolution, z) ∧
      p.noting.handleRecord (c.noting ε) r ⟨x, []⟩ =
        (resolution, ⟨z, calls ++ [.settling r resolution answer]⟩) := by
  obtain ⟨⟨⟩, y', hreport⟩ : ∃ u y', p.report (resolvedEntry r reference resolution) y = (u, y') :=
    ⟨_, _, rfl⟩
  have hreported : p.noting.report (resolvedEntry r reference resolution) ⟨y, calls⟩ = ((), ⟨y', calls⟩) := by
    simp only [noting, Noted.quiet, hreport]
  obtain ⟨answer, z, hsettle, hsettled⟩ := exists_settle_noting p r c resolution y'
  refine ⟨answer, z, ?_, ?_⟩
  · simp only [handleRecord, bind, StateT.bind, hresolve, hreport, hsettle]
    rfl
  · simp only [handleRecord, bind, StateT.bind, hnoted, hreported, hsettled]
    rfl

end Noting

/-- **The law of settlement.** Whatever codec, handler, classifier, publisher and key there are, the work on a
record makes the same calls and comes to the same resolution with every consumer. The consumer is then called
once, to commit the record or to read it again, and no answer of it changes anything of this. Nothing is done
beside these calls: without noting them the processor comes to the same resolution and the same state. -/
theorem settlement_law (p : Processor σ ε) (r : ConsumedRecord) (x : σ) :
    ∃ calls resolution, p.WorkedOff r calls resolution ∧ ∀ c : Subscription σ, ∃ answer y,
      p.handleRecord c r x = (resolution, y) ∧
      p.noting.handleRecord (c.noting ε) r ⟨x, []⟩ =
        (resolution, ⟨y, calls ++ [.settling r resolution answer]⟩) := by
  obtain ⟨reference, calls, resolution, y, hcourse, hresolve, hnoted⟩ := exists_course p r x
  exact ⟨calls, resolution, hcourse.workedOff, exists_handleRecord p r hresolve hnoted⟩

end Processor

end OrderRelay
