import Mathlib.Data.List.Forall2
import Mathlib.Data.Nat.Digits.Defs
import OrderRelay.Text.Digits

/-!
# Words and numbers in texts

How a word and a number may be written: a word in letters of either case, a number in decimal digits that a plus sign
may precede. Both are said of the characters alone, and are what the readers accept.

* `IsCaseVariant` and **`map_toLower_eq_iff`**: a text that is a word in small letters once its letters are small;
* `IsDecimal` and **`decimal?_eq_some_iff`**: a text that is read as a number.
-/

namespace OrderRelay.Text

/-! ## Words in letters of either case -/

/-- The text is the word, which is in small letters, with some of the letters as capitals. -/
def IsCaseVariant (word text : String) : Prop :=
  List.Forall₂ (fun l c => c = l ∨ c = l.toUpper) word.toList text.toList

theorem toNat_toLower (c : Char) :
    c.toLower.toNat = if 65 ≤ c.toNat ∧ c.toNat ≤ 90 then c.toNat + 32 else c.toNat := by
  unfold Char.toLower
  split
  · rename_i h
    have h' : 65 ≤ c.toNat ∧ c.toNat ≤ 90 := h
    rw [if_pos h']
    show (c.val + 32).toNat = c.toNat + 32
    rw [UInt32.toNat_add]
    show (c.toNat + 32) % 2 ^ 32 = c.toNat + 32
    omega
  · rename_i h
    exact (if_neg h).symm

theorem toNat_toUpper (c : Char) :
    c.toUpper.toNat = if 97 ≤ c.toNat ∧ c.toNat ≤ 122 then c.toNat - 32 else c.toNat := by
  unfold Char.toUpper
  split
  · rename_i h
    have h' : 97 ≤ c.toNat ∧ c.toNat ≤ 122 := h
    rw [if_pos h']
    show (c.val + ('A'.val - 'a'.val)).toNat = c.toNat - 32
    rw [UInt32.toNat_add]
    -- On words, subtracting 32 is adding what is missing to `2 ^ 32`.
    show (c.toNat + 4294967264) % 2 ^ 32 = c.toNat - 32
    omega
  · rename_i h
    exact (if_neg h).symm

/-- A character becomes a small letter if it is this letter, small or capital. -/
theorem toLower_eq_iff {c l : Char} (hl : 97 ≤ l.toNat ∧ l.toNat ≤ 122) :
    c.toLower = l ↔ c = l ∨ c = l.toUpper := by
  simp only [← Char.toNat_inj, toNat_toLower, toNat_toUpper, if_pos hl]
  split <;> omega

/-- **A text is a word in letters of either case** if it is the word with all letters small. -/
theorem map_toLower_eq_iff {word text : String} (hword : ∀ l ∈ word.toList, 97 ≤ l.toNat ∧ l.toNat ≤ 122) :
    text.map Char.toLower = word ↔ IsCaseVariant word text := by
  rw [← String.toList_inj, String.toList_map, IsCaseVariant, eq_comm, ← List.forall₂_eq_eq_eq,
    List.forall₂_map_right_iff]
  generalize word.toList = ls at hword
  generalize text.toList = cs
  induction ls generalizing cs with
  | nil => simp only [List.forall₂_nil_left_iff]
  | cons l ls ih =>
    obtain ⟨hl, hrest⟩ := List.forall_mem_cons.mp hword
    cases cs with
    | nil => simp only [List.forall₂_nil_right_iff, reduceCtorEq]
    | cons c cs => rw [List.forall₂_cons, List.forall₂_cons, eq_comm, toLower_eq_iff hl, ih hrest]

/-! ## Numbers in decimal digits -/

/-- The text is the number in decimal digits, at least one, with a plus sign before them or not. -/
def IsDecimal (text : String) (n : Nat) : Prop :=
  ∃ sign digits, (sign = [] ∨ sign = ['+']) ∧ digits ≠ [] ∧ (∀ d ∈ digits, d < 10) ∧
    text.toList = sign ++ digits.map Nat.digitChar ∧ n = Nat.ofDigits 10 digits.reverse

theorem digit?_digitChar {d : Nat} (h : d < 10) : digit? 10 (Nat.digitChar d) = some d := by
  have hall : ∀ d < 10, digit? 10 (Nat.digitChar d) = some d := by decide
  exact hall d h

theorem digit?_eq_some_iff {c : Char} {d : Nat} : digit? 10 c = some d ↔ d < 10 ∧ c = Nat.digitChar d := by
  constructor
  · intro h
    unfold digit? at h
    obtain ⟨hvalue, hlt⟩ := Option.filter_eq_some_iff.mp h
    have hlt : d < 10 := of_decide_eq_true hlt
    refine ⟨hlt, ?_⟩
    rw [← Char.toNat_inj, Nat.toNat_digitChar_of_lt_ten hlt]
    split at hvalue
    · rename_i hc
      have hzero : 48 ≤ c.toNat := hc.1
      have hd : c.toNat - 48 = d := Option.some.inj hvalue
      omega
    · -- A letter stands for ten at least.
      split at hvalue
      · have hd : c.toNat - 97 + 10 = d := Option.some.inj hvalue
        omega
      · split at hvalue
        · have hd : c.toNat - 65 + 10 = d := Option.some.inj hvalue
          omega
        · exact nomatch hvalue
  · rintro ⟨hlt, rfl⟩
    exact digit?_digitChar hlt

/-- Digits and nothing else. -/
theorem spanDigits_eq_iff {cs : List Char} {ds : List Nat} :
    spanDigits 10 cs = (ds, []) ↔ (∀ d ∈ ds, d < 10) ∧ cs = ds.map Nat.digitChar := by
  induction cs generalizing ds with
  | nil =>
    rw [spanDigits, Prod.mk.injEq, eq_comm]
    cases ds <;> simp
  | cons c cs ih =>
    rw [spanDigits]
    cases hc : digit? 10 c with
    | none =>
      have hnot (d : Nat) (hd : d < 10) : c ≠ Nat.digitChar d := fun h => by
        rw [h, digit?_digitChar hd] at hc
        exact Option.some_ne_none d hc
      cases ds with
      | nil => simp
      | cons d ds =>
        simp only [Prod.mk.injEq, reduceCtorEq, false_and, List.map_cons, List.cons.injEq, false_iff, not_and]
        exact fun hds h => (hnot d (hds d List.mem_cons_self) h).elim
    | some d =>
      obtain ⟨hd, rfl⟩ := digit?_eq_some_iff.mp hc
      cases ds with
      | nil => simp
      | cons d' ds =>
        have hrest : spanDigits 10 cs = (ds, []) ↔ (spanDigits 10 cs).1 = ds ∧ (spanDigits 10 cs).2 = [] :=
          Prod.ext_iff
        simp only [Prod.mk.injEq, List.cons.injEq, List.map_cons, List.forall_mem_cons, and_assoc, ← hrest, ih]
        constructor
        · rintro ⟨rfl, hds, hcs⟩
          exact ⟨hd, hds, rfl, hcs⟩
        · rintro ⟨hd', hds, hchar, hcs⟩
          have hsame := (digit?_digitChar hd).symm.trans ((congrArg (digit? 10) hchar).trans (digit?_digitChar hd'))
          exact ⟨Option.some.inj hsame, hds, hcs⟩

theorem ofDigits_eq (ds : List Nat) : ofDigits 10 ds = Nat.ofDigits 10 ds.reverse := by
  rw [Nat.ofDigits_eq_foldr, List.foldr_reverse]
  unfold ofDigits
  congr 1
  funext n d
  exact Nat.add_comm _ _

/-- No digit is a plus sign. -/
theorem digitChar_ne_plus {d : Nat} (h : d < 10) : Nat.digitChar d ≠ '+' := by
  rw [ne_eq, ← Char.toNat_inj, Nat.toNat_digitChar_of_lt_ten h]
  show ¬ 48 + d = 43
  omega

/-- What follows the sign, if there is one. -/
def unsigned : List Char → List Char
  | '+' :: cs => cs
  | cs => cs

theorem exists_sign (cs : List Char) : ∃ sign, (sign = [] ∨ sign = ['+']) ∧ cs = sign ++ unsigned cs := by
  unfold unsigned
  split
  · exact ⟨['+'], .inr rfl, rfl⟩
  · exact ⟨[], .inl rfl, rfl⟩

theorem unsigned_append {sign : List Char} {digits : List Nat} (hsign : sign = [] ∨ sign = ['+'])
    (hdigits : ∀ d ∈ digits, d < 10) :
    unsigned (sign ++ digits.map Nat.digitChar) = digits.map Nat.digitChar := by
  rcases hsign with rfl | rfl
  · rw [List.nil_append, unsigned.eq_def]
    split
    · rename_i heq
      cases digits with
      | nil => exact nomatch heq
      | cons d ds => exact absurd (List.cons.inj heq).1 (digitChar_ne_plus (hdigits d List.mem_cons_self))
    · rfl
  · rfl

theorem decimal?_eq (text : String) : decimal? text =
    match spanDigits 10 (unsigned text.toList) with
    | (d :: ds, []) => some (ofDigits 10 (d :: ds))
    | _ => none := rfl

/-- **What is read as a number** is a decimal of it. -/
theorem decimal?_eq_some_iff {text : String} {n : Nat} : decimal? text = some n ↔ IsDecimal text n := by
  rw [decimal?_eq]
  constructor
  · intro h
    obtain ⟨sign, hsign, hlist⟩ := exists_sign text.toList
    split at h
    · rename_i d ds hspan
      obtain ⟨hds, hbody⟩ := spanDigits_eq_iff.mp hspan
      refine ⟨sign, d :: ds, hsign, by simp, hds, hlist.trans (congrArg (sign ++ ·) hbody), ?_⟩
      rw [← ofDigits_eq]
      exact (Option.some.inj h).symm
    · exact nomatch h
  · rintro ⟨sign, digits, hsign, hne, hdigits, hlist, rfl⟩
    rw [hlist, unsigned_append hsign hdigits, spanDigits_eq_iff.mpr ⟨hdigits, rfl⟩]
    cases digits with
    | nil => exact absurd rfl hne
    | cons d ds => exact congrArg some (ofDigits_eq _)

end OrderRelay.Text
