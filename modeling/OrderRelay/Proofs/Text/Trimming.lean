import Mathlib.Data.List.Basic
import Mathlib.Data.List.TakeWhile
import OrderRelay.Text.Blank

/-!
# Trimming

Trimming takes blanks away at both ends of a text, and leaves none there. So a text is its trimmed form with blanks
around it, and any other blanks around it make no difference.

* `stripBy_append`, `exists_eq_stripBy`: the same for lists and any test, and the ends of a stripped list,
  `eq_false_of_head?_stripBy`, `eq_false_of_getLast?_stripBy`, `head?_stripBy`, `getLast?_stripBy`;
* `trim_padded`, `exists_eq_trim`: what trimming ignores, and what it takes away;
* `eq_empty_of_trim`: a trimmed text does not end in blanks;
* `trim_trim`: trimming twice is trimming once.
-/

namespace OrderRelay.Text

/-! ## Lists -/

section Strip

variable {α : Type} {p : α → Bool} {xs before after : List α}

/-- What satisfies the test makes no difference at the ends. -/
theorem stripBy_append (hbefore : ∀ x ∈ before, p x = true) (hafter : ∀ x ∈ after, p x = true) :
    stripBy p (before ++ xs ++ after) = stripBy p xs := by
  have hreverse : ∀ x ∈ after.reverse, p x = true := fun x hx => hafter x (List.mem_reverse.mp hx)
  rw [stripBy, List.append_assoc, List.dropWhile_append_of_pos hbefore, List.dropWhile_append]
  split
  · rename_i hempty
    have hnil : after.dropWhile p = [] := dropWhile_eq_nil_iff.mpr hafter
    rw [stripBy, hnil, List.isEmpty_iff.mp hempty]
  · rw [List.reverse_append, List.dropWhile_append_of_pos hreverse]
    rfl

/-- What is stripped off satisfies the test. -/
theorem exists_eq_stripBy (p : α → Bool) (xs : List α) : ∃ before after,
    (∀ x ∈ before, p x = true) ∧ (∀ x ∈ after, p x = true) ∧ xs = before ++ stripBy p xs ++ after := by
  have hmem {ys : List α} : ∀ y ∈ ys.takeWhile p, p y = true := fun y hy => List.mem_takeWhile_imp hy
  refine ⟨xs.takeWhile p, ((xs.dropWhile p).reverse.takeWhile p).reverse, hmem,
    fun x hx => hmem x (List.mem_reverse.mp hx), ?_⟩
  rw [stripBy, List.append_assoc, ← List.reverse_append, List.takeWhile_append_dropWhile, List.reverse_reverse,
    List.takeWhile_append_dropWhile]

/-- A stripped list does not begin with what satisfies the test. -/
theorem eq_false_of_head?_stripBy {x : α} (h : (stripBy p xs).head? = some x) : p x = false := by
  have hdrop : xs.dropWhile p = stripBy p xs ++ ((xs.dropWhile p).reverse.takeWhile p).reverse := by
    rw [stripBy, ← List.reverse_append, List.takeWhile_append_dropWhile, List.reverse_reverse]
  have hhead := List.head?_dropWhile_not p xs
  rw [hdrop, List.head?_append, h] at hhead
  simpa using hhead

/-- Nor does it end with that. -/
theorem eq_false_of_getLast?_stripBy {x : α} (h : (stripBy p xs).getLast? = some x) : p x = false := by
  rw [stripBy, List.getLast?_reverse] at h
  have hhead := List.head?_dropWhile_not p (xs.dropWhile p).reverse
  rw [h] at hhead
  simpa using hhead

/-- A first element that does not satisfy the test stays. -/
theorem head?_stripBy {x : α} (h : xs.head? = some x) (hx : p x = false) : (stripBy p xs).head? = some x := by
  obtain ⟨before, after, hbefore, hafter, heq⟩ := exists_eq_stripBy p xs
  rw [heq, List.append_assoc, List.head?_append] at h
  cases before with
  | cons y ys =>
    have hy : y = x := by simpa using h
    exact absurd (hbefore y List.mem_cons_self) (by simp [hy, hx])
  | nil =>
    cases hstrip : (stripBy p xs).head? with
    | some y => simpa [List.head?_append, hstrip] using h
    | none =>
      have hhead : after.head? = some x := by simpa [List.head?_append, hstrip] using h
      exact absurd (hafter x (List.mem_of_head? hhead)) (by simp [hx])

/-- So does such a last one. -/
theorem getLast?_stripBy {x : α} (h : xs.getLast? = some x) (hx : p x = false) :
    (stripBy p xs).getLast? = some x := by
  obtain ⟨before, after, hbefore, hafter, heq⟩ := exists_eq_stripBy p xs
  rw [heq, List.getLast?_append] at h
  rcases after.eq_nil_or_concat' with rfl | ⟨init, last, rfl⟩
  · cases hstrip : (stripBy p xs).getLast? with
    | some y => simpa [List.getLast?_append, hstrip] using h
    | none =>
      have hlast : before.getLast? = some x := by simpa [List.getLast?_append, hstrip] using h
      exact absurd (hbefore x (List.mem_of_getLast? hlast)) (by simp [hx])
  · have hlast : last = x := by simpa using h
    exact absurd (hafter last (by simp)) (by simp [hlast, hx])

/-- Stripping that takes anything away makes a list shorter. -/
theorem length_stripBy_lt (h : stripBy p xs ≠ xs) : (stripBy p xs).length < xs.length := by
  obtain ⟨before, after, -, -, heq⟩ := exists_eq_stripBy p xs
  have hlength := congrArg List.length heq
  rw [List.length_append, List.length_append] at hlength
  rcases Nat.eq_zero_or_pos (before.length + after.length) with hzero | hpos
  · have hbefore : before = [] := List.eq_nil_of_length_eq_zero (by omega)
    have hafter : after = [] := List.eq_nil_of_length_eq_zero (by omega)
    exact absurd (by simpa [hbefore, hafter] using heq.symm) h
  · omega

/-- Nothing at the end of a stripped list satisfies the test. -/
theorem eq_nil_of_stripBy {ys : List α} (h : stripBy p xs = ys ++ after) (hafter : ∀ x ∈ after, p x = true) :
    after = [] := by
  rcases after.eq_nil_or_concat' with rfl | ⟨init, last, rfl⟩
  · rfl
  · have hlast : p last = true := hafter last (by simp)
    have hget : (stripBy p xs).getLast? = some last := by
      rw [h, ← List.append_assoc, List.getLast?_concat]
    exact absurd hlast (by simp [eq_false_of_getLast?_stripBy hget])

/-- Stripping leaves a list alone if neither of its ends satisfies the test. -/
theorem stripBy_eq_self_of_ends (hhead : ∀ x, xs.head? = some x → p x = false)
    (hlast : ∀ x, xs.getLast? = some x → p x = false) : stripBy p xs = xs := by
  have keep {ys : List α} (hys : ∀ y, ys.head? = some y → p y = false) : ys.dropWhile p = ys := by
    cases ys with
    | nil => rfl
    | cons y ys => exact List.dropWhile_cons_of_neg (by simp [hys y rfl])
  rw [stripBy, keep hhead, keep fun x hx => hlast x (by rwa [← List.head?_reverse]), List.reverse_reverse]

end Strip

/-! ## Texts -/

variable {s t before after : String}

theorem isBlankText_iff : isBlankText s = true ↔ ∀ c ∈ s.toList, isBlank c = true := List.all_eq_true

/-- Blanks around a text make no difference. -/
theorem trim_padded (hbefore : isBlankText before = true) (hafter : isBlankText after = true) :
    trim (before ++ s ++ after) = trim s := by
  rw [trim, String.toList_append, String.toList_append,
    stripBy_append (isBlankText_iff.mp hbefore) (isBlankText_iff.mp hafter), trim]

/-- A text is its trimmed form with blanks around it. -/
theorem exists_eq_trim (s : String) : ∃ before after, isBlankText before = true ∧ isBlankText after = true ∧
    s = before ++ trim s ++ after := by
  obtain ⟨before, after, hbefore, hafter, h⟩ := exists_eq_stripBy isBlank s.toList
  refine ⟨.ofList before, .ofList after, ?_, ?_, ?_⟩
  · rwa [isBlankText_iff, String.toList_ofList]
  · rwa [isBlankText_iff, String.toList_ofList]
  · rw [trim, ← String.ofList_append, ← String.ofList_append, ← h, String.ofList_toList]

/-- A trimmed text does not end in blanks. -/
theorem eq_empty_of_trim (h : trim s = t ++ after) (hafter : isBlankText after = true) : after = "" := by
  have hlist := congrArg String.toList h
  rw [trim, String.toList_ofList, String.toList_append] at hlist
  rw [← String.toList_inj, eq_nil_of_stripBy hlist (isBlankText_iff.mp hafter)]
  rfl

theorem utf8ByteSize_trim_le (s : String) : (trim s).utf8ByteSize ≤ s.utf8ByteSize := by
  obtain ⟨before, after, -, -, h⟩ := exists_eq_trim s
  have hsize := congrArg String.utf8ByteSize h
  rw [String.utf8ByteSize_append, String.utf8ByteSize_append] at hsize
  omega

theorem trim_trim (s : String) : trim (trim s) = trim s := by
  obtain ⟨before, after, hbefore, hafter, h⟩ := exists_eq_trim s
  rw [← trim_padded hbefore hafter, ← h]

end OrderRelay.Text
