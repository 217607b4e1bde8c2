/-!
# White space and trimming

A character is *blank* when Unicode gives it the property `White_Space`. Trimming removes the runs of
blanks at both ends of a text and nothing else.

* `isBlank`;
* `stripBy`, the general form: drop at both ends while a test holds;
* `trim`, and `isBlankText`: nothing is left after trimming.
-/

namespace OrderRelay.Text

/-- The characters with the Unicode property `White_Space`. -/
def isBlank (c : Char) : Bool :=
  let n := c.toNat
  (9 ≤ n && n ≤ 13) || n == 0x20 || n == 0x85 || n == 0xA0 || n == 0x1680 ||
    (0x2000 ≤ n && n ≤ 0x200A) || n == 0x2028 || n == 0x2029 || n == 0x202F || n == 0x205F ||
    n == 0x3000

/-- Drop the elements at both ends of a list for as long as they satisfy `p`. -/
def stripBy {α : Type} (p : α → Bool) (xs : List α) : List α :=
  ((xs.dropWhile p).reverse.dropWhile p).reverse

/-- A text without the blanks at its ends. -/
def trim (s : String) : String :=
  String.ofList (stripBy isBlank s.toList)

/-- A text without the characters `c` at its ends. -/
def stripChar (c : Char) (s : String) : String :=
  String.ofList (stripBy (· == c) s.toList)

/-- Nothing but blanks. -/
def isBlankText (s : String) : Bool := s.toList.all isBlank

/-! ## Laws of stripping -/

section Strip

variable {α : Type} {p : α → Bool}

theorem dropWhile_eq_nil_iff {xs : List α} : xs.dropWhile p = [] ↔ ∀ x ∈ xs, p x = true := by
  induction xs with
  | nil => simp
  | cons x xs ih =>
    by_cases h : p x = true
    · simp [h, ih]
    · simp [h]

/-- Stripping leaves nothing exactly when every element satisfies the test. -/
theorem stripBy_eq_nil_iff {xs : List α} : stripBy p xs = [] ↔ ∀ x ∈ xs, p x = true := by
  unfold stripBy
  rw [List.reverse_eq_nil_iff, dropWhile_eq_nil_iff]
  constructor
  · intro h
    rw [← dropWhile_eq_nil_iff]
    cases hd : xs.dropWhile p with
    | nil => rfl
    | cons y ys =>
      have hy : p y = true := h y (by simp [hd])
      have hn : ¬ p y = true := by
        have := List.head?_dropWhile_not p xs
        rw [hd] at this
        simpa using this
      exact absurd hy hn
  · intro h x hx
    rw [List.mem_reverse] at hx
    exact h x ((List.dropWhile_sublist p).subset hx)

/-- Stripping leaves a list alone that has nothing to drop. -/
theorem stripBy_eq_self {xs : List α} (h : ∀ x ∈ xs, p x = false) : stripBy p xs = xs := by
  have hkeep {ys : List α} (hys : ∀ y ∈ ys, p y = false) : ys.dropWhile p = ys := by
    cases ys with
    | nil => rfl
    | cons y ys => exact List.dropWhile_cons_of_neg (by simp [hys y List.mem_cons_self])
  rw [stripBy, hkeep h, hkeep fun x hx => h x (List.mem_reverse.mp hx), List.reverse_reverse]

end Strip

/-- No character between the space and the first control character past ASCII is blank. -/
theorem isBlank_eq_false {c : Char} (h : 0x20 < c.toNat) (h' : c.toNat < 0x85) : isBlank c = false := by
  simp only [isBlank, Bool.or_eq_false_iff, Bool.and_eq_false_iff, decide_eq_false_iff_not, beq_eq_false_iff_ne]
  omega

theorem trim_eq_self {s : String} (h : ∀ c ∈ s.toList, isBlank c = false) : trim s = s := by
  rw [trim, stripBy_eq_self h, String.ofList_toList]

/-- A trimmed text is empty exactly when the text holds nothing but blanks. -/
theorem trim_eq_empty_iff {s : String} : trim s = "" ↔ isBlankText s = true := by
  unfold trim isBlankText
  rw [← String.toList_inj, String.toList_ofList, List.all_eq_true]
  exact stripBy_eq_nil_iff

end OrderRelay.Text
