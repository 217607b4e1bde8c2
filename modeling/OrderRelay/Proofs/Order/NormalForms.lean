import OrderRelay.Processing.OrderHandler
import OrderRelay.Proofs.Order.Reference
import OrderRelay.Proofs.Text.Trimming

/-!
# Normal forms

A reference is a text that is read as itself, and its URI leads back to it, whatever blanks stand around. The way from
a URI to its reference is not as strict: what follows the head of a URI is trimmed once more, so blanks are overlooked
there as well, and the handler takes events about URIs that no reference has.

* `ofUri_eq_ok_iff`: what is read as the URI of a reference;
* `handle_eq_ok_iff`, `handle_eq_error`: what the handler answers to an event;
* **`normal_form`**: references are normal forms, and so are their URIs;
* `CanonicalOnly`: nothing but order URIs is taken for one, and `Gapped`, the URIs with a gap behind the head;
* **`canonicalOnly_iff`**: gaps are the only exception, and `not_canonicalOnly`, a URI that is one.
-/

namespace OrderRelay

open Text

/-! ## Reading a URI -/

namespace OrderReference

variable {r r' : OrderReference} {u : String}

/-- A URI leads to a reference if it consists, blanks at its ends aside, of the head and the reference, with nothing
but blanks between them. -/
theorem ofUri_eq_ok_iff :
    ofUri u = .ok r ↔ ∃ gap, isBlankText gap = true ∧ trim u = uriHead ++ gap ++ r.text := by
  constructor
  · intro h
    unfold ofUri at h
    split at h
    · exact nomatch h
    · rename_i rest hrest
      obtain ⟨gap, after, hgap, hafter, heq⟩ := exists_eq_trim (.ofList rest)
      rw [← parse_eq_ok_iff.mp h] at heq
      have hrest : trim u = uriHead ++ .ofList rest := by
        rw [← String.toList_inj, eq_append_of_dropHead? hrest, String.toList_append, String.toList_ofList]
      have hu : trim u = uriHead ++ gap ++ r.text ++ after := by
        rw [hrest, heq]
        simp only [String.append_assoc]
      -- What follows the reference is at the end of the URI, which is trimmed.
      rw [eq_empty_of_trim hu hafter, String.append_empty] at hu
      exact ⟨gap, hgap, hu⟩
  · rintro ⟨gap, hgap, hu⟩
    have hlist : (trim u).toList = uriHead.toList ++ (gap ++ r.text).toList := by
      rw [hu, String.append_assoc, String.toList_append]
    have htext : trim (gap ++ r.text) = r.text := by
      have hpadded : trim (gap ++ r.text ++ "") = trim r.text := trim_padded hgap rfl
      rwa [String.append_empty, r.trim_text] at hpadded
    rw [ofUri, hlist, dropHead?_append]
    show parse (String.ofList (gap ++ r.text).toList) = .ok r
    rw [String.ofList_toList, parse_eq_ok_iff, htext]

/-- Blanks around a URI make no difference to where it leads. -/
theorem ofUri_trim_eq_ok_iff : ofUri (trim u) = .ok r ↔ ofUri u = .ok r := by
  rw [ofUri_eq_ok_iff, ofUri_eq_ok_iff, trim_trim]

theorem ofUri_of_trim_eq_uri (h : trim u = r.uri) : ofUri u = .ok r :=
  ofUri_trim_eq_ok_iff.mp (h ▸ r.ofUri_uri)

theorem uri_inj : r.uri = r'.uri ↔ r = r' := by
  refine ⟨fun h => eq_of_text_eq ?_, congrArg uri⟩
  exact (String.append_right_inj uriHead).mp h

end OrderReference

/-! ## The handler -/

namespace OrderHandler

open OrderReference

variable {σ : Type} {report : Log.Entry → StateM σ Unit} {e : OrderReceived} {x : σ}

theorem accept_eq_ok_iff {r : OrderReference} : accept e = .ok r ↔ ofUri e.referenceUri = .ok r := by
  refine Iff.trans ?_ ofUri_trim_eq_ok_iff
  unfold accept
  cases ofUri (trim e.referenceUri) <;> simp

theorem accept_eq_error (h : ¬ ∃ r, ofUri e.referenceUri = .ok r) :
    accept e = .error (.unknownReferenceUri e.referenceUri) := by
  unfold accept
  split
  · rename_i r hr
    exact absurd ⟨r, ofUri_trim_eq_ok_iff.mp hr⟩ h
  · rfl

variable (report x) in
/-- Reporting does not change the answer. -/
theorem handle_fst : (handle report e x).1 = (accept e).map fun _ => () := by
  unfold handle
  cases accept e <;> rfl

/-- The handler takes an event if its URI leads to a reference. -/
theorem handle_eq_ok_iff : (handle report e x).1 = .ok () ↔ ∃ r, ofUri e.referenceUri = .ok r := by
  rw [handle_fst]
  simp only [← accept_eq_ok_iff]
  cases accept e <;> simp [Except.map]

/-- Otherwise it names the URI as it came. -/
theorem handle_eq_error (h : ¬ ∃ r, ofUri e.referenceUri = .ok r) :
    (handle report e x).1 = .error (.unknownReferenceUri e.referenceUri) := by
  rw [handle_fst, accept_eq_error h]
  rfl

end OrderHandler

/-! ## Normal forms -/

namespace OrderReference

/-- **References are normal forms.** A text is read as what it is without the blanks at its ends, if that has a
character and none but plain ones. So a reference is read as itself, its URI leads back to it with any blanks around,
and no other reference has that URI. -/
theorem normal_form :
    (∀ raw, ((∃ r, parse raw = .ok r) ↔ trim raw ≠ "" ∧ ∀ c ∈ (trim raw).toList, IsPlainChar c) ∧
      ∀ r, parse raw = .ok r ↔ r.text = trim raw) ∧
    (∀ r, parse r.text = .ok r) ∧
    (∀ (r : OrderReference) (before after : String), isBlankText before = true → isBlankText after = true →
      ofUri (before ++ r.uri ++ after) = .ok r) ∧
    ∀ r r' : OrderReference, r.uri = r'.uri ↔ r = r' := by
  refine ⟨fun raw => ⟨?_, fun r => parse_eq_ok_iff⟩, parse_text, fun r before after hbefore hafter => ?_,
    fun r r' => uri_inj⟩
  · rw [← isReferenceText_iff]
    simp only [parse_eq_ok_iff]
    exact ⟨fun ⟨r, htext⟩ => htext ▸ r.valid, fun hvalid => ⟨⟨trim raw, hvalid⟩, rfl⟩⟩
  · exact ofUri_of_trim_eq_uri ((trim_padded hbefore hafter).trans r.trim_uri)

/-- A reference with characters of every kind, and blanks of several kinds around it and around its URI. -/
theorem normal_form_spaced :
    isBlankText "\u3000 " = true ∧ isBlankText "\n\u0085" = true ∧
      ofUri ("\u3000 " ++ uri ⟨"aZ9-_", by decide⟩ ++ "\n\u0085") = .ok ⟨"aZ9-_", by decide⟩ ∧
      parse "\u00A0aZ9-_\t" = .ok ⟨"aZ9-_", by decide⟩ :=
  ⟨by decide, by decide, normal_form.2.2.1 _ _ _ (by decide) (by decide), ((normal_form.1 _).2 _).mpr (by decide)⟩

end OrderReference

/-! ## Canonical URIs -/

/-- The text is the head of order URIs, followed directly by a reference. -/
def IsOrderUri (s : String) : Prop :=
  ∃ ref, s = "/orders/" ++ ref ∧ ref ≠ "" ∧ ∀ c ∈ ref.toList, IsPlainChar c

/-- Nothing but order URIs is taken for one: a URI that leads to a reference is the URI of that reference, blanks at
its ends aside, and the handler takes the event about a URI only if it is an order URI, and names it otherwise. -/
structure CanonicalOnly (u : String) : Prop where
  eq_uri : ∀ r, OrderReference.ofUri u = .ok r → trim u = r.uri
  taken : ∀ (σ : Type) (report : Log.Entry → StateM σ Unit) (x : σ),
    (OrderHandler.handle report ⟨u⟩ x).1 = .ok () → IsOrderUri (trim u)
  refused : ¬ IsOrderUri (trim u) → ∀ (σ : Type) (report : Log.Entry → StateM σ Unit) (x : σ),
    (OrderHandler.handle report ⟨u⟩ x).1 = .error (.unknownReferenceUri u)

/-- Blanks, at least one, stand between the head and a reference. -/
def Gapped (u : String) : Prop :=
  ∃ gap ref, trim u = "/orders/" ++ gap ++ ref ∧ gap ≠ "" ∧ isBlankText gap = true ∧ ref ≠ "" ∧
    ∀ c ∈ ref.toList, IsPlainChar c

section Canonical

open OrderReference

variable {u : String}

theorem isOrderUri_iff {s : String} : IsOrderUri s ↔ ∃ r : OrderReference, s = r.uri := by
  constructor
  · rintro ⟨ref, rfl, href⟩
    exact ⟨⟨ref, isReferenceText_iff.mpr href⟩, rfl⟩
  · rintro ⟨r, rfl⟩
    exact ⟨r.text, rfl, isReferenceText_iff.mp r.valid⟩

theorem gapped_iff : Gapped u ↔ ∃ (gap : String) (r : OrderReference),
    gap ≠ "" ∧ isBlankText gap = true ∧ trim u = uriHead ++ gap ++ r.text := by
  constructor
  · rintro ⟨gap, ref, hu, hne, hgap, href⟩
    exact ⟨gap, ⟨ref, isReferenceText_iff.mpr href⟩, hne, hgap, hu⟩
  · rintro ⟨gap, r, hne, hgap, hu⟩
    exact ⟨gap, r.text, hu, hne, hgap, isReferenceText_iff.mp r.valid⟩

/-- A URI that leads to a reference is an order URI or has a gap. -/
theorem exists_ofUri_iff : (∃ r, ofUri u = .ok r) ↔ IsOrderUri (trim u) ∨ Gapped u := by
  rw [isOrderUri_iff, gapped_iff]
  simp only [ofUri_eq_ok_iff]
  constructor
  · rintro ⟨r, gap, hgap, hu⟩
    by_cases hne : gap = ""
    · subst hne
      rw [String.append_empty] at hu
      exact .inl ⟨r, hu⟩
    · exact .inr ⟨gap, r, hne, hgap, hu⟩
  · rintro (⟨r, hu⟩ | ⟨gap, r, -, hgap, hu⟩)
    · have hhead : uriHead ++ "" = uriHead := String.append_empty
      exact ⟨r, "", rfl, hu.trans (congrArg (· ++ r.text) hhead.symm)⟩
    · exact ⟨r, gap, hgap, hu⟩

/-- With a gap behind its head a text is no order URI, since no character of a reference is blank. -/
theorem Gapped.not_isOrderUri (h : Gapped u) : ¬ IsOrderUri (trim u) := by
  rw [isOrderUri_iff]
  rintro ⟨r', hr'⟩
  obtain ⟨gap, r, hne, hgap, hu⟩ := gapped_iff.mp h
  have htext : r'.text = gap ++ r.text := by
    rw [hu, String.append_assoc] at hr'
    exact ((String.append_right_inj uriHead).mp hr').symm
  cases hlist : gap.toList with
  | nil => exact hne (String.toList_inj.mp hlist)
  | cons c cs =>
    have hblank : isBlank c = true := isBlankText_iff.mp hgap c (by simp [hlist])
    have hplain : isBlank c = false := r'.isBlank_of_mem_text (by simp [htext, hlist])
    exact absurd hblank (by simp [hplain])

/-- **Nothing but order URIs is taken for one**, except for URIs with a gap behind the head. What is read and what the
handler answers is known in all cases. -/
theorem canonicalOnly_iff (u : String) :
    (CanonicalOnly u ↔ ¬ Gapped u) ∧
      (∀ r, ofUri u = .ok r ↔ ∃ gap, isBlankText gap = true ∧ trim u = "/orders/" ++ gap ++ r.text) ∧
      ∀ (σ : Type) (report : Log.Entry → StateM σ Unit) (x : σ),
        ((OrderHandler.handle report ⟨u⟩ x).1 = .ok () ∧ (IsOrderUri (trim u) ∨ Gapped u)) ∨
          ((OrderHandler.handle report ⟨u⟩ x).1 = .error (.unknownReferenceUri u) ∧
            ¬ IsOrderUri (trim u) ∧ ¬ Gapped u) := by
  refine ⟨⟨fun h hgap => ?_, fun hgap => ⟨fun r hr => ?_, fun σ report x hok => ?_, fun hnot σ report x => ?_⟩⟩,
    fun r => ofUri_eq_ok_iff, fun σ report x => ?_⟩
  · obtain ⟨r, hr⟩ := exists_ofUri_iff.mpr (.inr hgap)
    exact hgap.not_isOrderUri (isOrderUri_iff.mpr ⟨r, h.eq_uri r hr⟩)
  · obtain ⟨gap, hblank, hu⟩ := ofUri_eq_ok_iff.mp hr
    have hempty : gap = "" := by
      by_contra hne
      exact hgap (gapped_iff.mpr ⟨gap, r, hne, hblank, hu⟩)
    rwa [hempty, String.append_empty] at hu
  · exact (exists_ofUri_iff.mp (OrderHandler.handle_eq_ok_iff.mp hok)).resolve_right hgap
  · exact OrderHandler.handle_eq_error fun h => (exists_ofUri_iff.mp h).elim hnot hgap
  · by_cases h : IsOrderUri (trim u) ∨ Gapped u
    · exact .inl ⟨OrderHandler.handle_eq_ok_iff.mpr (exists_ofUri_iff.mpr h), h⟩
    · exact .inr ⟨OrderHandler.handle_eq_error fun hr => h (exists_ofUri_iff.mp hr), not_or.mp h⟩

/-- A blank behind the head is overlooked, and the handler takes the event, although it is about no order URI. -/
theorem not_canonicalOnly : ¬ CanonicalOnly "/orders/ ORD-1" ∧
    ofUri "/orders/ ORD-1" = .ok ⟨"ORD-1", by decide⟩ ∧ trim "/orders/ ORD-1" ≠ "/orders/ORD-1" ∧
    (OrderHandler.handle (fun _ => pure ()) ⟨"/orders/ ORD-1"⟩ ()).1 = .ok () := by
  have hread : ofUri "/orders/ ORD-1" = .ok ⟨"ORD-1", by decide⟩ := by decide
  have hne : trim "/orders/ ORD-1" ≠ "/orders/ORD-1" := by decide
  exact ⟨fun h => hne (h.eq_uri _ hread), hread, hne, OrderHandler.handle_eq_ok_iff.mpr ⟨_, hread⟩⟩

end Canonical

end OrderRelay
