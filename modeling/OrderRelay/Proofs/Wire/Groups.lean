import Mathlib.Algebra.Group.Int.Defs
import Mathlib.Algebra.Group.Nat.Defs
import OrderRelay.Wire.Varint

/-!
# The groups of a number

A number is spelled by a row of bytes of which all but the last have the high bit set. Seven bits of each byte
count, the lowest first, and what they make up is folded back into a number with a sign.

* `Closed`, the rows that spell one number, and `assembled`, the exact value of their bits;
* `unfolded` and `number`: the 64-bit number of a row. Bits past the word are lost;
* `readGroups_eq_ok_iff`, `readGroups_eq_cut_iff`, `readGroups_eq_tooLong_iff`: reading takes exactly one closed
  row off the front, and fails in two ways;
* **`read_eq_ok_iff`**: the same of a 64-bit number, together with its value;
* **`read_write_append`**: what was written is read back, whatever follows it.
-/

namespace OrderRelay.Varint

/-! ## Rows of groups -/

/-- The bytes of one number: all but the last have the high bit set. -/
def Closed (bytes : List UInt8) : Prop :=
  ∃ init last, bytes = init ++ [last] ∧ (∀ b ∈ init, 128 ≤ b.toNat) ∧ last.toNat < 128

/-- The value of the low seven bits of all bytes, the lowest first. -/
def assembled : List UInt8 → Nat
  | [] => 0
  | b :: rest => b.toNat % 128 + 128 * assembled rest

theorem closed_singleton {b : UInt8} : Closed [b] ↔ b.toNat < 128 := by
  constructor
  · rintro ⟨init, last, h, -, hlast⟩
    cases init with
    | nil => simp_all
    | cons c cs => simp at h
  · intro h
    exact ⟨[], b, rfl, by simp, h⟩

theorem not_closed_nil : ¬ Closed [] := by
  rintro ⟨init, last, h, -⟩
  simp at h

theorem closed_cons_of_lt {b : UInt8} (hb : b.toNat < 128) {rest : List UInt8} :
    Closed (b :: rest) ↔ rest = [] := by
  constructor
  · rintro ⟨init, last, h, hinit, -⟩
    cases init with
    | nil => exact (List.cons.inj h).2
    | cons c cs =>
      obtain rfl := (List.cons.inj h).1
      have := hinit b List.mem_cons_self
      omega
  · rintro rfl
    exact closed_singleton.mpr hb

theorem closed_cons_of_ge {b : UInt8} (hb : 128 ≤ b.toNat) {rest : List UInt8} :
    Closed (b :: rest) ↔ Closed rest := by
  constructor
  · rintro ⟨init, last, h, hinit, hlast⟩
    cases init with
    | nil =>
      obtain rfl := (List.cons.inj h).1
      omega
    | cons c cs => exact ⟨cs, last, (List.cons.inj h).2, fun x hx => hinit x (List.mem_cons_of_mem c hx), hlast⟩
  · rintro ⟨init, last, rfl, hinit, hlast⟩
    refine ⟨b :: init, last, rfl, fun x hx => ?_, hlast⟩
    rcases List.mem_cons.mp hx with rfl | hx
    · exact hb
    · exact hinit x hx

/-! ## Reading groups -/

section Reading

variable {limit n : Nat} {b : UInt8} {bytes rest : List UInt8}

theorem readGroups_cons_of_lt (hb : b.toNat < 128) :
    readGroups (limit + 1) (b :: rest) = .ok (b.toNat, rest) := if_pos hb

theorem readGroups_cons_of_ge (hb : 128 ≤ b.toNat) :
    readGroups (limit + 1) (b :: rest) = match readGroups limit rest with
      | .error fault => .error fault
      | .ok (n, rest) => .ok (b.toNat - 128 + 128 * n, rest) := if_neg (by omega)

theorem readGroups_cons_eq_error_iff (hb : 128 ≤ b.toNat) {fault : Fault} :
    readGroups (limit + 1) (b :: rest) = .error fault ↔ readGroups limit rest = .error fault := by
  rw [readGroups_cons_of_ge hb]
  cases readGroups limit rest <;> simp

/-- A closed row that is not too long is read, and what follows it is left. -/
theorem readGroups_append {groups : List UInt8} (h : Closed groups) (hl : groups.length ≤ limit)
    (rest : List UInt8) : readGroups limit (groups ++ rest) = .ok (assembled groups, rest) := by
  induction groups generalizing limit with
  | nil => exact absurd h not_closed_nil
  | cons b groups ih =>
    obtain ⟨limit, rfl⟩ : ∃ k, limit = k + 1 := ⟨limit - 1, by simp at hl; omega⟩
    by_cases hb : b.toNat < 128
    · obtain rfl := (closed_cons_of_lt hb).mp h
      rw [List.cons_append, readGroups_cons_of_lt hb]
      simp [assembled, Nat.mod_eq_of_lt hb]
    · have hb : 128 ≤ b.toNat := Nat.not_lt.mp hb
      have hlt := b.toNat_lt
      rw [List.cons_append, readGroups_cons_of_ge hb,
        ih ((closed_cons_of_ge hb).mp h) (Nat.le_of_succ_le_succ hl), assembled]
      have : b.toNat - 128 = b.toNat % 128 := by omega
      rw [this]

/-- Whatever is read is a closed row. -/
theorem exists_of_readGroups (h : readGroups limit bytes = .ok (n, rest)) :
    ∃ groups, bytes = groups ++ rest ∧ Closed groups ∧ groups.length ≤ limit := by
  induction limit generalizing bytes n with
  | zero => exact nomatch h
  | succ limit ih =>
    cases bytes with
    | nil => exact nomatch h
    | cons b bytes =>
      by_cases hb : b.toNat < 128
      · rw [readGroups_cons_of_lt hb] at h
        obtain rfl := (Prod.mk.inj (Except.ok.inj h)).2
        exact ⟨[b], rfl, closed_singleton.mpr hb, by simp⟩
      · have hb : 128 ≤ b.toNat := Nat.not_lt.mp hb
        rw [readGroups_cons_of_ge hb] at h
        cases hr : readGroups limit bytes with
        | error fault => exact nomatch hr ▸ h
        | ok v =>
          obtain ⟨m, rest'⟩ := v
          rw [hr] at h
          obtain rfl := (Prod.mk.inj (Except.ok.inj h)).2
          obtain ⟨groups, rfl, hc, hl⟩ := ih hr
          exact ⟨b :: groups, rfl, (closed_cons_of_ge hb).mpr hc, by simpa using hl⟩

/-- Reading takes one closed row off the front. -/
theorem readGroups_eq_ok_iff : readGroups limit bytes = .ok (n, rest) ↔
    ∃ groups, bytes = groups ++ rest ∧ Closed groups ∧ groups.length ≤ limit ∧ assembled groups = n := by
  constructor
  · intro h
    obtain ⟨groups, rfl, hc, hl⟩ := exists_of_readGroups h
    rw [readGroups_append hc hl] at h
    exact ⟨groups, rfl, hc, hl, (Prod.mk.inj (Except.ok.inj h)).1⟩
  · rintro ⟨groups, rfl, hc, hl, rfl⟩
    exact readGroups_append hc hl rest

/-- The bytes end too early when there are less than `limit` and all have the high bit set. -/
theorem readGroups_eq_cut_iff :
    readGroups limit bytes = .error .cut ↔ bytes.length < limit ∧ ∀ b ∈ bytes, 128 ≤ b.toNat := by
  induction limit generalizing bytes with
  | zero => simp [readGroups]
  | succ limit ih =>
    cases bytes with
    | nil => simp [readGroups]
    | cons b bytes =>
      by_cases hb : b.toNat < 128
      · rw [readGroups_cons_of_lt hb]
        simp [Nat.not_le.mpr hb]
      · have hb : 128 ≤ b.toNat := Nat.not_lt.mp hb
        rw [readGroups_cons_eq_error_iff hb, ih]
        simp [hb]

/-- The row is too long when the first `limit` bytes are there and have the high bit set. -/
theorem readGroups_eq_tooLong_iff :
    readGroups limit bytes = .error .tooLong ↔
      limit ≤ bytes.length ∧ ∀ b ∈ bytes.take limit, 128 ≤ b.toNat := by
  induction limit generalizing bytes with
  | zero => simp [readGroups]
  | succ limit ih =>
    cases bytes with
    | nil => simp [readGroups]
    | cons b bytes =>
      by_cases hb : b.toNat < 128
      · rw [readGroups_cons_of_lt hb]
        simp [Nat.not_le.mpr hb]
      · have hb : 128 ≤ b.toNat := Nat.not_lt.mp hb
        rw [readGroups_cons_eq_error_iff hb, ih]
        simp [hb]

end Reading

/-! ## The number of a row -/

/-- The number that is folded into a word, bit by bit: a shift to the right, and all bits the other way if the
lowest one was set. -/
def unfolded (word : UInt64) : Int64 := (word >>> 1).toInt64 ^^^ -(word &&& 1).toInt64

/-- The number of a row of groups. Bits past the word are lost. -/
def number (groups : List UInt8) : Int64 := unfolded (.ofNat (assembled groups))

theorem toInt64_shiftRight_one (word : UInt64) :
    (word >>> 1).toInt64 = Int64.ofInt (word.toNat / 2 : Nat) := by
  have hlt : word.toNat < 2 ^ 64 := word.toNat_lt
  have hhalf : word.toNat / 2 < 2 ^ 64 := by omega
  have hw : word >>> 1 = UInt64.ofNat (word.toNat / 2) := by
    apply UInt64.toNat_inj.mp
    rw [UInt64.toNat_shiftRight, UInt64.toNat_ofNat', Nat.mod_eq_of_lt hhalf]
    exact Nat.shiftRight_eq_div_pow word.toNat 1
  rw [hw, Int64.ofInt_eq_ofNat]
  rfl

/-- Unfolding a word bit by bit is the same as with arithmetic. -/
theorem unfolded_eq (word : UInt64) : unfolded word = .ofInt (unzigzag word.toNat) := by
  have hlow : (word &&& 1).toNat = word.toNat % 2 := by
    rw [UInt64.toNat_and]
    exact Nat.and_one_is_mod word.toNat
  rw [unfolded, toInt64_shiftRight_one, unzigzag]
  rcases Nat.mod_two_eq_zero_or_one word.toNat with h | h
  · have hw : word &&& 1 = 0 := UInt64.toNat_inj.mp (hlow.trans h)
    rw [hw, if_pos h]
    exact Int64.xor_zero
  · have hw : word &&& 1 = 1 := UInt64.toNat_inj.mp (hlow.trans h)
    have hones : -(1 : UInt64).toInt64 = -1 := rfl
    rw [hw, if_neg (by omega), hones, Int64.xor_neg_one, Int64.not_eq_neg_sub, Int64.ofInt_sub,
      Int64.ofInt_neg]
    rfl

theorem unzigzag_mem_range {n : Nat} (h : n < 2 ^ 64) : -2 ^ 63 ≤ unzigzag n ∧ unzigzag n < 2 ^ 63 := by
  unfold unzigzag
  split <;> omega

theorem unfolded_ofNat (n : Nat) : unfolded (.ofNat n) = .ofInt (unzigzag (n % UInt64.size)) := by
  rw [unfolded_eq, UInt64.toNat_ofNat']

/-- The number of a row, with arithmetic. -/
theorem toInt_number (groups : List UInt8) :
    (number groups).toInt = unzigzag (assembled groups % UInt64.size) := by
  have hword : assembled groups % UInt64.size < 2 ^ 64 := Nat.mod_lt _ (by decide)
  obtain ⟨hlow, hhigh⟩ := unzigzag_mem_range hword
  rw [number, unfolded_ofNat, Int64.toInt_ofInt_of_le hlow hhigh]

/-- **Reading a number** takes one closed row of at most ten bytes off the front. -/
theorem read_eq_ok_iff {bytes rest : List UInt8} {v : Int64} : read bytes = .ok (v, rest) ↔
    ∃ groups, bytes = groups ++ rest ∧ Closed groups ∧ groups.length ≤ 10 ∧ number groups = v := by
  unfold read
  constructor
  · intro h
    cases hr : readGroups maxGroups bytes with
    | error fault => exact nomatch hr ▸ h
    | ok m =>
      obtain ⟨n, rest'⟩ := m
      rw [hr] at h
      obtain ⟨rfl, rfl⟩ := Prod.mk.inj (Except.ok.inj h)
      obtain ⟨groups, hb, hc, hl, rfl⟩ := readGroups_eq_ok_iff.mp hr
      exact ⟨groups, hb, hc, hl, unfolded_ofNat _⟩
  · rintro ⟨groups, rfl, hc, hl, rfl⟩
    have hr : readGroups maxGroups (groups ++ rest) = .ok (assembled groups, rest) :=
      readGroups_append hc hl rest
    rw [hr, number, unfolded_ofNat]

theorem read_eq_error_iff {bytes : List UInt8} {fault : Fault} :
    read bytes = .error fault ↔ readGroups maxGroups bytes = .error fault := by
  unfold read
  cases readGroups maxGroups bytes <;> simp

/-! ## What is written is read back -/

theorem toNat_last {n : Nat} (h : n < 128) : (UInt8.ofNat n).toNat = n := by
  rw [UInt8.toNat_ofNat']
  omega

theorem toNat_announcing (n : Nat) : (UInt8.ofNat (n % 128 + 128)).toNat = n % 128 + 128 := by
  rw [UInt8.toNat_ofNat']
  omega

theorem closed_groups (n : Nat) : Closed (groups n) := by
  fun_induction groups n with
  | case1 n h => exact closed_singleton.mpr (by rw [toNat_last h]; exact h)
  | case2 n h ih => exact (closed_cons_of_ge (by rw [toNat_announcing]; omega)).mpr ih

theorem assembled_groups (n : Nat) : assembled (groups n) = n := by
  fun_induction groups n with
  | case1 n h =>
    rw [assembled, assembled, toNat_last h]
    omega
  | case2 n h ih =>
    rw [assembled, ih, toNat_announcing]
    omega

/-- A number below `128 ^ k` takes at most `k` groups. -/
theorem length_groups_le {n k : Nat} (hk : 0 < k) (hn : n < 128 ^ k) : (groups n).length ≤ k := by
  induction k generalizing n with
  | zero => omega
  | succ k ih =>
    rw [groups]
    split
    · simp
    · rename_i hbig
      have hpos : 0 < k := by
        rcases Nat.eq_zero_or_pos k with rfl | hpos
        · omega
        · exact hpos
      have hlt : n / 128 < 128 ^ k := by
        rw [Nat.div_lt_iff_lt_mul (by omega), ← Nat.pow_succ]
        exact hn
      have := ih hpos hlt
      rw [List.length_cons]
      omega

theorem length_groups_pos (n : Nat) : 0 < (groups n).length := by
  obtain ⟨init, last, h, -⟩ := closed_groups n
  rw [h]
  simp

theorem zigzag_lt (v : Int64) : zigzag v.toInt < UInt64.size := by
  have hlow := v.le_toInt
  have hhigh := v.toInt_lt
  show zigzag v.toInt < 2 ^ 64
  unfold zigzag
  split <;> omega

/-- The bytes of a 64-bit number are at most ten. -/
theorem length_write_le (v : Int64) : (write v).length ≤ 10 :=
  length_groups_le (by decide) (Nat.lt_trans (zigzag_lt v) (by decide))

/-- **What was written is read back**, and what follows it is left. -/
theorem read_write_append (v : Int64) (rest : List UInt8) : read (write v ++ rest) = .ok (v, rest) := by
  refine read_eq_ok_iff.mpr ⟨write v, rfl, closed_groups _, length_write_le v, ?_⟩
  apply Int64.toInt_inj.mp
  rw [toInt_number, write, assembled_groups, Nat.mod_eq_of_lt (zigzag_lt v), unzigzag_zigzag]

end OrderRelay.Varint
