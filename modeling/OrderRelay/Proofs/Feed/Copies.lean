import Mathlib.Data.List.Nodup
import OrderRelay.Proofs.Feed.Journal

/-!
# Copies and descendants

A worker stores a copy of a record that moves on. The copy may move on as well, so a record may have
descendants on several tiers.

* `Copy`, `copies`, the copies that a tier has stored; `escalations`, the records it says have moved on, with
  their new places; `finishes`, the ones it is done with otherwise; `settlements`, both;
* `settlements_perm`: a settled record has moved on or is finished, and only one of these;
* `Descends`, from the place of a record to that of a descendant;
* **`Descends.unique`**: at most one descendant on each tier, if no record is settled twice.
-/

namespace OrderRelay

/-- A record with the copy of it that was stored. -/
structure Copy where
  source : ConsumedRecord
  envelope : Envelope
  position : Position

namespace Event

/-- The copy that the worker of a tier stored by the event. -/
def copy? (t : Tier) : Event → Option Copy
  | stored (some (u, r)) e position => if u = t then some ⟨r, e, position⟩ else none
  | _ => none

/-- The record that moved on from a tier, with the place it moved to. -/
def escalation? (t : Tier) : Event → Option (ConsumedRecord × Position)
  | resolved u r (.republished _ position) => if u = t then some (r, position) else none
  | _ => none

/-- The record that was handled or given up. -/
def finish? (t : Tier) : Event → Option ConsumedRecord
  | resolved u r .completed => if u = t then some r else none
  | resolved u r (.dropped ..) => if u = t then some r else none
  | _ => none

/-- The record that a tier is done with. -/
def settlement? (t : Tier) : Event → Option ConsumedRecord
  | resolved u r resolution => if u = t ∧ resolution.isSettled = true then some r else none
  | _ => none

end Event

section Lists

variable (t : Tier) (h es : List Event)

def copies : List Copy := h.filterMap (Event.copy? t)

def escalations : List (ConsumedRecord × Position) := h.filterMap (Event.escalation? t)

def finishes : List ConsumedRecord := h.filterMap (Event.finish? t)

def settlements : List ConsumedRecord := h.filterMap (Event.settlement? t)

@[simp] theorem copies_append : copies t (h ++ es) = copies t h ++ copies t es :=
  List.filterMap_append

@[simp] theorem escalations_append : escalations t (h ++ es) = escalations t h ++ escalations t es :=
  List.filterMap_append

@[simp] theorem settlements_append : settlements t (h ++ es) = settlements t h ++ settlements t es :=
  List.filterMap_append

section Moved

variable (u : Tier) (r : ConsumedRecord) (next : Tier) (e : Envelope) (position : Position)

theorem copies_moved :
    copies t [.stored (some (u, r)) e position, .resolved u r (.republished next position)] =
      if u = t then [⟨r, e, position⟩] else [] := by
  by_cases hu : u = t <;> simp only [copies, Event.copy?, List.filterMap_cons, List.filterMap_nil, hu,
    if_true, if_false]

theorem escalations_moved :
    escalations t [.stored (some (u, r)) e position, .resolved u r (.republished next position)] =
      if u = t then [(r, position)] else [] := by
  by_cases hu : u = t <;> simp only [escalations, Event.escalation?, List.filterMap_cons,
    List.filterMap_nil, hu, if_true, if_false]

theorem settlements_moved :
    settlements t [.stored (some (u, r)) e position, .resolved u r (.republished next position)] =
      if u = t then [r] else [] := by
  by_cases hu : u = t <;> simp only [settlements, Event.settlement?, List.filterMap_cons,
    List.filterMap_nil, hu, Resolution.isSettled, and_self, false_and, if_true, if_false]

theorem settlements_resolved (resolution : Resolution) :
    settlements t [.resolved u r resolution] =
      if u = t ∧ resolution.isSettled = true then [r] else [] := by
  simp only [settlements, List.filterMap_cons, List.filterMap_nil, Event.settlement?]
  by_cases h : u = t ∧ resolution.isSettled = true
  · rw [if_pos h, if_pos h]
  · rw [if_neg h, if_neg h]

end Moved

/-- A record that a tier is done with has moved on, or it is finished. -/
theorem settlements_perm :
    (settlements t h).Perm ((escalations t h).map Prod.fst ++ finishes t h) := by
  induction h with
  | nil => exact .refl _
  | cons e es ih =>
    unfold settlements escalations finishes at ih ⊢
    rcases e with ⟨u, r, _ | ⟨next, position⟩ | ⟨kind, cause⟩ | cause⟩ | _ | _ | _ | _ <;>
      simp only [List.filterMap_cons, Event.settlement?, Event.escalation?, Event.finish?,
        Resolution.isSettled, Bool.false_eq_true, and_true, and_false, if_false] <;>
      try exact ih
    -- A record that is done with comes first in one of the two lists.
    · by_cases hu : u = t
      · simpa [hu] using (ih.cons r).trans List.perm_middle.symm
      · simpa [hu] using ih
    · by_cases hu : u = t
      · simpa [hu] using ih.cons r
      · simpa [hu] using ih
    · by_cases hu : u = t
      · simpa [hu] using (ih.cons r).trans List.perm_middle.symm
      · simpa [hu] using ih

end Lists

/-- Others store no copies, and settle nothing. -/
theorem tells_outside {η : Type} (a : Outside η) (b : Bus) (u : Tier) :
    copies u (a.events b) = [] ∧ escalations u (a.events b) = [] ∧ settlements u (a.events b) = [] := by
  refine ⟨List.filterMap_eq_nil_iff.mpr fun e he => ?_, List.filterMap_eq_nil_iff.mpr fun e he => ?_,
    List.filterMap_eq_nil_iff.mpr fun e he => ?_⟩ <;>
    rcases Outside.mem_events he with ⟨_, _, rfl⟩ | ⟨_, _, _, _, rfl⟩ <;> rfl

/-! ## Descendants -/

/-- The second place is that of a copy of the record at the first place, or of a copy of such a copy. -/
inductive Descends (h : List Event) : Tier × Position → Tier × Position → Prop where
  | copied {t u : Tier} {c : Copy} (stored : c ∈ copies t h) (next : t.next = some u) :
      Descends h (t, c.source.position) (u, c.position)
  | again {x : Tier × Position} {t u : Tier} {c : Copy} (descends : Descends h x (t, c.source.position))
      (stored : c ∈ copies t h) (next : t.next = some u) : Descends h x (u, c.position)

theorem Tier.rank_of_next {t u : Tier} (h : t.next = some u) : u.rank = t.rank + 1 := by
  cases t <;> cases u <;> first | rfl | exact nomatch h

theorem Tier.eq_of_next {t u v : Tier} (ht : t.next = some v) (hu : u.next = some v) : t = u := by
  cases t <;> cases u <;> cases v <;> simp_all [next]

namespace Descends

variable {h : List Event} {x y : Tier × Position}

/-- Descendants are on later tiers. -/
theorem rank_lt (hd : Descends h x y) : x.1.rank < y.1.rank := by
  induction hd with
  | copied _ next => exact Nat.lt_of_lt_of_eq (Nat.lt_succ_self _) (Tier.rank_of_next next).symm
  | again _ _ next ih => exact Nat.lt_trans ih (Tier.rank_of_next next ▸ Nat.lt_succ_self _)

/-- A record with a descendant has a copy. -/
theorem exists_copy (hd : Descends h x y) : ∃ c ∈ copies x.1 h, c.source.position = x.2 := by
  induction hd with
  | copied stored next => exact ⟨_, stored, rfl⟩
  | again _ _ _ ih => exact ih

theorem exists_last (hd : Descends h x y) : ∃ t, ∃ c ∈ copies t h, t.next = some y.1 ∧ c.position = y.2 ∧
    (x = (t, c.source.position) ∨ Descends h x (t, c.source.position)) := by
  cases hd with
  | copied stored next => exact ⟨_, _, stored, next, rfl, .inl rfl⟩
  | again descends stored next => exact ⟨_, _, stored, next, rfl, .inr descends⟩

/-- **A record has at most one descendant on each tier**, if no record has two copies. -/
theorem unique (hn : ∀ t, ((copies t h).map (·.source.position)).Nodup) (hy : Descends h x y)
    {z : Tier × Position} (hz : Descends h x z) (htier : z.1 = y.1) : z = y := by
  refine Prod.ext htier ?_
  have same {t c c'} (hc : c ∈ copies t h) (hc' : c' ∈ copies t h)
      (hs : c.source.position = c'.source.position) : c.position = c'.position := by
    rw [List.inj_on_of_nodup_map (hn t) hc hc' hs]
  -- Two last copies on one tier are both made on the tier before it.
  induction hy generalizing z with
  | @copied t u c stored next =>
    obtain ⟨t', c', stored', next', hpos, hx⟩ := hz.exists_last
    obtain rfl : t' = t := Tier.eq_of_next (next'.trans (congrArg some htier)) next
    rcases hx with hx | hd
    · exact hpos ▸ same stored' stored (Prod.mk.inj hx).2.symm
    · exact absurd hd.rank_lt (Nat.lt_irrefl _)
  | @again x t u c hd stored next ih =>
    obtain ⟨t', c', stored', next', hpos, hx⟩ := hz.exists_last
    obtain rfl : t' = t := Tier.eq_of_next (next'.trans (congrArg some htier)) next
    rcases hx with rfl | hd'
    · exact absurd hd.rank_lt (Nat.lt_irrefl _)
    · exact hpos ▸ same stored' stored (ih hd' rfl)

end Descends

end OrderRelay
