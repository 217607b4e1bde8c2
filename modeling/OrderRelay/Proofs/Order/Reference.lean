import OrderRelay.Order.Reference

/-!
# References and their URIs

Which texts are references, and that the URI of a reference leads back to it. None of the characters of a reference,
or of its URI, is blank, so trimming has nothing to take away from either.

* `IsPlainChar`, the characters of a reference one by one, and `isReferenceChar_iff`;
* `trim_text`, `trim_uri`: references and their URIs are trimmed;
* `parse_cases`, `parse_eq_ok_iff`: what a text is read as;
* **`ofUri_uri`**: the URI of a reference is read as that reference.
-/

namespace OrderRelay

open Text

/-! ## Characters -/

/-- The letters and digits of ASCII, the hyphen and the underscore. -/
def IsPlainChar (c : Char) : Prop :=
  ('A' ≤ c ∧ c ≤ 'Z') ∨ ('a' ≤ c ∧ c ≤ 'z') ∨ ('0' ≤ c ∧ c ≤ '9') ∨ c = '-' ∨ c = '_'

theorem isReferenceChar_iff {c : Char} : isReferenceChar c = true ↔ IsPlainChar c := by
  have hupper : c.isUpper = decide ('A' ≤ c ∧ c ≤ 'Z') := rfl
  have hlower : c.isLower = (decide ('a' ≤ c) && decide (c ≤ 'z')) := rfl
  have hdigit : c.isDigit = (decide ('0' ≤ c) && decide (c ≤ '9')) := rfl
  have hchar : isReferenceChar c = ((((c.isUpper || c.isLower) || c.isDigit) || c == '-') || c == '_') := rfl
  rw [hchar, hupper, hlower, hdigit]
  simp only [Bool.or_eq_true, Bool.and_eq_true, decide_eq_true_eq, beq_iff_eq, IsPlainChar, or_assoc]

theorem isBlank_of_isReferenceChar {c : Char} (h : isReferenceChar c = true) : isBlank c = false := by
  have between {a z : Char} (ha : a ≤ c) (hz : c ≤ z) (hlow : 0x20 < a.toNat) (hhigh : z.toNat < 0x85) :
      isBlank c = false := isBlank_eq_false (Nat.lt_of_lt_of_le hlow ha) (Nat.lt_of_le_of_lt hz hhigh)
  rcases isReferenceChar_iff.mp h with ⟨ha, hz⟩ | ⟨ha, hz⟩ | ⟨ha, hz⟩ | rfl | rfl
  · exact between ha hz (by decide) (by decide)
  · exact between ha hz (by decide) (by decide)
  · exact between ha hz (by decide) (by decide)
  · rfl
  · rfl

/-- A text is a reference if it has a character, and none that a reference cannot hold. -/
theorem isReferenceText_iff {s : String} : IsReferenceText s ↔ s ≠ "" ∧ ∀ c ∈ s.toList, IsPlainChar c := by
  simp only [IsReferenceText, List.all_eq_true, isReferenceChar_iff]

/-! ## References -/

namespace OrderReference

variable (r : OrderReference) {raw : String}

theorem isBlank_of_mem_text {c : Char} (h : c ∈ r.text.toList) : isBlank c = false :=
  isBlank_of_isReferenceChar (List.all_eq_true.mp r.valid.2 c h)

theorem trim_text : trim r.text = r.text := trim_eq_self fun _ h => r.isBlank_of_mem_text h

theorem toList_uri : r.uri.toList = uriHead.toList ++ r.text.toList := String.toList_append

theorem trim_uri : trim r.uri = r.uri := by
  refine trim_eq_self fun c hc => ?_
  rw [toList_uri] at hc
  rcases List.mem_append.mp hc with hc | hc
  · have hhead : uriHead.toList.all (fun c => !isBlank c) = true := rfl
    simpa using List.all_eq_true.mp hhead c hc
  · exact r.isBlank_of_mem_text hc

/-- A text is read as what it is without the blanks at its ends, if that is a reference. -/
theorem parse_cases (raw : String) : (∃ r, parse raw = .ok r ∧ r.text = trim raw) ∨
    ¬ IsReferenceText (trim raw) ∧ ∃ err, parse raw = .error err := by
  unfold parse
  dsimp only
  split
  · rename_i hempty
    exact .inr ⟨fun h => h.1 hempty, _, rfl⟩
  · split
    · rename_i bad hbad
      have hmem := List.mem_of_find?_eq_some hbad
      have hnot := List.find?_some hbad
      refine .inr ⟨fun h => ?_, _, rfl⟩
      rw [List.all_eq_true.mp h.2 bad hmem] at hnot
      exact nomatch hnot
    · exact .inl ⟨_, rfl, rfl⟩

theorem eq_of_text_eq {r r' : OrderReference} (h : r.text = r'.text) : r = r' := by
  obtain ⟨text, valid⟩ := r
  obtain ⟨text', valid'⟩ := r'
  obtain rfl : text = text' := h
  rfl

theorem parse_eq_ok_iff {r : OrderReference} : parse raw = .ok r ↔ r.text = trim raw := by
  rcases parse_cases raw with ⟨r', hparse, htext⟩ | ⟨hnot, err, hparse⟩
  · rw [hparse]
    constructor
    · intro hok
      rw [← Except.ok.inj hok, htext]
    · intro h
      rw [eq_of_text_eq (h.trans htext.symm)]
  · rw [hparse]
    exact iff_of_false (fun hok => nomatch hok) fun h => hnot (h ▸ r.valid)

theorem parse_text : parse r.text = .ok r := parse_eq_ok_iff.mpr r.trim_text.symm

/-- **The URI of a reference is read as that reference.** -/
theorem ofUri_uri : ofUri r.uri = .ok r := by
  rw [ofUri, trim_uri, toList_uri, dropHead?_append]
  exact (congrArg parse String.ofList_toList).trans r.parse_text

end OrderReference

end OrderRelay
