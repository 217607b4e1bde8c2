import OrderRelay.Processing.Processor

/-!
# Plans

What a plan says of the event it was made from.

* `plan_eq_finish`: a record that does not move on is done with;
* `plan_eq_escalate`: a record that moves on does so to the next tier, as its event without blanks;
* `exists_plan_of_last`: on the last tier every record is done with at once.
-/

namespace OrderRelay.Processor

variable {σ ε : Type} {p : Processor σ ε} {r : ConsumedRecord} {event : Option OrderReceived}
  {outcome : Outcome}

/-- A record that does not move on is handled or given up. -/
theorem plan_eq_finish {resolution : Resolution} (h : p.plan r (event, outcome) = .finish resolution) :
    resolution = .completed ∨ ∃ kind cause, resolution = .dropped kind cause := by
  unfold plan at h
  split at h
  · exact .inl (Plan.finish.inj h).symm
  · exact .inr ⟨_, _, (Plan.finish.inj h).symm⟩
  · exact .inr ⟨_, _, (Plan.finish.inj h).symm⟩
  · split at h
    · exact .inr ⟨_, _, (Plan.finish.inj h).symm⟩
    · unfold escalation at h
      split at h
      · exact .inr ⟨_, _, (Plan.finish.inj h).symm⟩
      · exact nomatch h

/-- A record moves on to the next tier only, and only if its event was read. -/
theorem plan_eq_escalate {next : Tier} {key : String} {payload : List UInt8}
    (h : p.plan r (event, outcome) = .escalate next key payload) :
    p.tier.next = some next ∧ ∃ e, event = some e ∧ p.codec.encode e.trimmed = .ok payload := by
  unfold plan at h
  split at h
  · exact nomatch h
  · exact nomatch h
  · exact nomatch h
  · rename_i he
    obtain ⟨rfl, -⟩ := Prod.mk.inj he
    split at h
    · exact nomatch h
    · rename_i hn
      unfold escalation at h
      split at h
      · exact nomatch h
      · rename_i henc
        obtain ⟨rfl, rfl, rfl⟩ := Plan.escalate.inj h
        exact ⟨hn, _, rfl, henc⟩

/-- A record moves on under the key that the policy gives it. -/
theorem key_of_plan {next : Tier} {key : String} {payload : List UInt8}
    (h : p.plan r (event, outcome) = .escalate next key payload) :
    key = p.republishKey.resolve (r.key.getD "") := by
  unfold plan at h
  split at h
  · exact nomatch h
  · exact nomatch h
  · exact nomatch h
  · split at h
    · exact nomatch h
    · unfold escalation at h
      split at h
      · exact nomatch h
      · obtain ⟨-, rfl, -⟩ := Plan.escalate.inj h
        rfl

/-- On the last tier every record is done with at once. -/
theorem exists_plan_of_last (hp : p.tier.next = none) (r : ConsumedRecord) (event : Option OrderReceived)
    (outcome : Outcome) :
    ∃ resolution, p.plan r (event, outcome) = .finish resolution ∧ resolution.isSettled = true := by
  cases h : p.plan r (event, outcome) with
  | finish resolution =>
    refine ⟨resolution, rfl, ?_⟩
    rcases plan_eq_finish h with rfl | ⟨kind, cause, rfl⟩ <;> rfl
  | escalate next key payload => exact nomatch hp.symm.trans (plan_eq_escalate h).1

end OrderRelay.Processor
