import Mathlib.Data.Nat.Bitwise
import OrderRelay.Proofs.Wire.Shortest

/-!
# Numbers on the word

A number can be written and read in loops on a word of 64 bits. To write it, it is folded by two shifts, of which one
loses the sign and the other spreads it over all bits, and groups are shifted out of the word until a single one is
left. To read it, groups are shifted to their places in the word, where the tenth finds room for one bit. On every
number these loops agree with the arithmetic on integers of any size.

* `folded`, and `toNat_folded`: folding bit by bit is folding;
* `Writing`, with `Writing.turn?`, one turn of the writing loop, and `Writing.turns`, several;
* `Writing.spelled_of_turn?_eq_some`: what a turn keeps; `exists_turns`: the loop ends, and what it has written then;
* `gather`, the reading loop, and `read_eq_gathered`: it reads what `read` does;
* `read_of_prefix`: a number that is cut off is not read;
* **`write_then_read`**: a number is written in one to ten bytes and read back, whatever follows it, but not from less
  than all of them.
-/

namespace OrderRelay.Varint

/-! ## Folding by shifts -/

/-- A number folded into a word, bit by bit: a shift to the left, and all bits the other way if it is negative. -/
def folded (v : Int64) : UInt64 := (v <<< 1 ^^^ v >>> 63).toUInt64

/-- A shift by all places but one leaves the sign, in every bit. -/
theorem toInt_shiftRight_63 (v : Int64) : (v >>> 63).toInt = v.toInt / 2 ^ 63 := by
  have hbits : (v >>> 63).toBitVec = v.toBitVec.sshiftRight 63 := Int64.toBitVec_shiftRight v 63
  rw [Int64.toInt, hbits, BitVec.toInt_sshiftRight]
  exact Int.shiftRight_eq_div_pow _ _

theorem toNat_shiftLeft_one (v : Int64) : (v <<< 1).toUInt64.toNat = 2 * v.toUInt64.toNat % 2 ^ 64 := by
  have hbits : (v <<< 1).toBitVec = v.toBitVec <<< 1 := Int64.toBitVec_shiftLeft v 1
  show (v <<< 1).toBitVec.toNat = 2 * v.toBitVec.toNat % 2 ^ 64
  rw [hbits, BitVec.toNat_shiftLeft, Nat.shiftLeft_eq, Nat.mul_comm]

theorem toNat_toUInt64 (v : Int64) :
    (v.toUInt64.toNat : Int) = if 0 ≤ v.toInt then v.toInt else v.toInt + 2 ^ 64 := by
  have hlt := v.toUInt64.toNat_lt
  have hcond : v.toInt =
      if 2 * v.toUInt64.toNat < 2 ^ 64 then (v.toUInt64.toNat : Int) else v.toUInt64.toNat - 2 ^ 64 :=
    BitVec.toInt_eq_toNat_cond v.toBitVec
  split <;> split at hcond <;> omega

/-- Folding bit by bit is the same as with arithmetic. -/
theorem toNat_folded (v : Int64) : (folded v).toNat = zigzag v.toInt := by
  have hlow := v.le_toInt
  have hhigh := v.toInt_lt
  have hsign := toInt_shiftRight_63 v
  have hleft := toNat_shiftLeft_one v
  have hword := toNat_toUInt64 v
  rcases Int.lt_or_le v.toInt 0 with hneg | hpos
  · have hones : v >>> 63 = -1 := by
      apply Int64.toInt_inj.mp
      rw [hsign]
      show _ = (-1 : Int)
      omega
    rw [if_neg (by omega)] at hword
    rw [folded, hones, Int64.xor_neg_one, Int64.toUInt64_not, UInt64.toNat_not, hleft, zigzag, if_neg (by omega)]
    unfold UInt64.size
    omega
  · have hzero : v >>> 63 = 0 := by
      apply Int64.toInt_inj.mp
      rw [hsign, Int64.toInt_zero]
      omega
    rw [if_pos hpos] at hword
    rw [folded, hzero, Int64.xor_zero, hleft, zigzag, if_pos hpos]
    omega

/-! ## The writing loop -/

/-- A number that is being written: the bytes so far, and a word that holds the groups still to come. -/
structure Writing where
  bytes : List UInt8
  word : UInt64

/-- The low seven bits of a byte. -/
theorem toNat_low (b : UInt8) : (b &&& 0x7F).toNat = b.toNat % 128 := by
  rw [UInt8.toNat_and]
  exact Nat.and_two_pow_sub_one_eq_mod _ 7

namespace Writing

/-- Nothing is written yet. -/
def start (v : Int64) : Writing := ⟨[], folded v⟩

/-- One turn writes the lowest group, with the high bit set, and shifts it out of the word. There is no turn when the
word is down to a single group. -/
def turn? (w : Writing) : Option Writing :=
  if 0x80 ≤ w.word then some ⟨w.bytes ++ [w.word.toUInt8 &&& 0x7F ||| 0x80], w.word >>> 7⟩ else none

/-- Several turns, if there are as many. -/
def turns : (count : Nat) → Writing → Option Writing
  | 0, w => some w
  | count + 1, w => w.turn?.bind (turns count)

/-- All bytes when the loop is left: what remains of the word is the last group. -/
def close (w : Writing) : List UInt8 := w.bytes ++ [w.word.toUInt8]

/-- The bytes so far, and those that are to come. -/
def spelled (w : Writing) : List UInt8 := w.bytes ++ groups w.word.toNat

variable {w w' : Writing}

theorem announcing_eq (word : UInt64) :
    word.toUInt8 &&& 0x7F ||| 0x80 = UInt8.ofNat (word.toNat % 128 + 128) := by
  have hlow : (word.toUInt8 &&& 0x7F).toNat = word.toNat % 128 := by
    rw [toNat_low, UInt64.toNat_toUInt8]
    omega
  have hset : word.toNat % 128 ||| 128 = word.toNat % 128 + 128 := by
    rw [Nat.or_comm, Nat.add_comm]
    exact (Nat.two_pow_add_eq_or_of_lt (i := 7) (Nat.mod_lt _ (by decide)) 1).symm
  apply UInt8.toNat_inj.mp
  rw [toNat_announcing, UInt8.toNat_or, hlow]
  exact hset

theorem le_word_iff : 0x80 ≤ w.word ↔ 128 ≤ w.word.toNat := UInt64.le_iff_toNat_le

theorem turn?_of_lt (h : w.word.toNat < 128) : w.turn? = none := by
  rw [turn?, if_neg (fun hle => absurd (le_word_iff.mp hle) (Nat.not_le.mpr h))]

theorem turn?_of_ge (h : 128 ≤ w.word.toNat) :
    w.turn? = some ⟨w.bytes ++ [UInt8.ofNat (w.word.toNat % 128 + 128)], w.word >>> 7⟩ := by
  rw [turn?, if_pos (le_word_iff.mpr h), announcing_eq]

theorem toNat_shiftRight_7 (word : UInt64) : (word >>> 7).toNat = word.toNat / 128 := by
  rw [UInt64.toNat_shiftRight]
  exact Nat.shiftRight_eq_div_pow _ 7

/-- Where there is no turn, a single group is to come. -/
theorem close_of_turn?_eq_none (h : w.turn? = none) :
    w.close = w.spelled ∧ (groups w.word.toNat).length = 1 := by
  have hlt : w.word.toNat < 128 := by
    refine Nat.lt_of_not_le fun hbig => ?_
    rw [turn?_of_ge hbig] at h
    exact nomatch h
  rw [close, spelled, groups_of_lt hlt]
  exact ⟨rfl, rfl⟩

/-- A turn takes one of the bytes to come over to those so far. -/
theorem spelled_of_turn?_eq_some (h : w.turn? = some w') :
    w'.spelled = w.spelled ∧ (groups w.word.toNat).length = (groups w'.word.toNat).length + 1 := by
  have hbig : 128 ≤ w.word.toNat := by
    refine Nat.le_of_not_lt fun hlt => ?_
    rw [turn?_of_lt hlt] at h
    exact nomatch h
  rw [turn?_of_ge hbig] at h
  obtain rfl := Option.some.inj h
  rw [spelled, spelled, toNat_shiftRight_7, groups_of_ge hbig]
  simp

/-- The loop ends after as many turns as groups are to come, but for the last one. -/
theorem turns_of_length {count : Nat} (h : (groups w.word.toNat).length = count + 1) :
    ∃ w', w.turns count = some w' ∧ w'.turn? = none ∧ w'.close = w.spelled := by
  -- By induction on the groups that are to come, of which each turn takes one.
  induction count generalizing w with
  | zero =>
    cases ht : w.turn? with
    | none => exact ⟨w, rfl, ht, (close_of_turn?_eq_none ht).1⟩
    | some w₁ =>
      have hlen := (spelled_of_turn?_eq_some ht).2
      have hpos := length_groups_pos w₁.word.toNat
      omega
  | succ count ih =>
    cases ht : w.turn? with
    | none =>
      have hlen := (close_of_turn?_eq_none ht).2
      omega
    | some w₁ =>
      obtain ⟨hspelled, hlen⟩ := spelled_of_turn?_eq_some ht
      obtain ⟨w', hturns, hend, hclose⟩ := ih (w := w₁) (by omega)
      refine ⟨w', ?_, hend, hclose.trans hspelled⟩
      rw [turns, ht]
      exact hturns

theorem spelled_start (v : Int64) : (start v).spelled = write v := by
  rw [spelled, start, toNat_folded]
  rfl

end Writing

/-- The loop on words ends for every number, with the bytes of the number. -/
theorem exists_turns (v : Int64) : ∃ count w, (Writing.start v).turns count = some w ∧ w.turn? = none ∧
    w.close = write v ∧ (write v).length = count + 1 := by
  obtain ⟨count, hlen⟩ := Nat.exists_eq_add_of_lt (length_groups_pos (zigzag v.toInt))
  rw [Nat.zero_add] at hlen
  have hgroups : (groups (Writing.start v).word.toNat).length = count + 1 := by
    rw [Writing.start, toNat_folded, hlen]
  obtain ⟨w, hturns, hend, hclose⟩ := Writing.turns_of_length hgroups
  exact ⟨count, w, hturns, hend, hclose.trans (Writing.spelled_start v), hlen⟩

/-- One turn for the first of two groups. -/
example : (Writing.start (-65)).turns 1 = some ⟨[0x81], 0x01⟩ := rfl

/-! ## The reading loop -/

/-- Join groups to a word, each in its place: `shift` bits up, seven more than the one before. -/
def gather (word : UInt64) (shift : Nat) (bytes : List UInt8) : Except Fault (UInt64 × List UInt8) :=
  if 64 ≤ shift then .error .tooLong
  else match bytes with
    | [] => .error .cut
    | b :: rest =>
      let word := word ||| (b &&& 0x7F).toUInt64 <<< .ofNat shift
      if b &&& 0x80 = 0 then .ok (word, rest) else gather word (shift + 7) rest

/-- Take a number off the front of a list in a loop on words, and unfold it bit by bit. -/
def gathered (bytes : List UInt8) : Except Fault (Int64 × List UInt8) :=
  (gather 0 0 bytes).map fun (word, rest) => (unfolded word, rest)

theorem and_0x80_eq_zero_iff (b : UInt8) : b &&& 0x80 = 0 ↔ b.toNat < 128 := by
  have hlt := b.toNat_lt
  have hbit : (b &&& 0x80).toNat = (b.toNat.testBit 7).toNat * 2 ^ 7 := by
    rw [UInt8.toNat_and]
    exact Nat.and_two_pow _ 7
  rw [Nat.testBit_eq_decide_div_mod_eq] at hbit
  rw [← UInt8.toNat_inj, hbit]
  by_cases h : b.toNat / 2 ^ 7 % 2 = 1
  · rw [decide_eq_true h]
    show 1 * 2 ^ 7 = 0 ↔ _
    omega
  · rw [decide_eq_false h]
    show 0 * 2 ^ 7 = 0 ↔ _
    omega

theorem toUInt64_low (b : UInt8) : (b &&& 0x7F).toUInt64 = UInt64.ofNat (b.toNat % 128) := by
  apply UInt64.toNat_inj.mp
  rw [UInt8.toNat_toUInt64, toNat_low, UInt64.toNat_ofNat']
  omega

/-- To join a number to the bits below it is to add it. -/
theorem or_shiftLeft {m shift : Nat} (hm : m < 2 ^ shift) (hs : shift < 64) (x : Nat) :
    UInt64.ofNat m ||| UInt64.ofNat x <<< UInt64.ofNat shift = UInt64.ofNat (m + 2 ^ shift * x) := by
  rw [← UInt64.ofNat_shiftLeft x shift hs, ← UInt64.ofNat_or, Nat.or_comm, ← Nat.shiftLeft_add_eq_or_of_lt hm,
    Nat.shiftLeft_eq, Nat.add_comm, Nat.mul_comm]

section Gathering

variable {k limit m : Nat} {b : UInt8} {bytes rest : List UInt8}

theorem gather_of_ge {word : UInt64} {shift : Nat} (h : 64 ≤ shift) : gather word shift bytes = .error .tooLong := by
  rw [gather.eq_def, if_pos h]

theorem gather_nil {word : UInt64} {shift : Nat} (h : shift < 64) : gather word shift [] = .error .cut := by
  rw [gather, if_neg (by omega)]

/-- One turn of the reading loop, with the exact value of what is gathered. -/
theorem gather_cons {shift : Nat} (hm : m < 2 ^ shift) (hs : shift < 64) :
    gather (.ofNat m) shift (b :: rest) =
      if b.toNat < 128 then .ok (.ofNat (m + 2 ^ shift * (b.toNat % 128)), rest)
      else gather (.ofNat (m + 2 ^ shift * (b.toNat % 128))) (shift + 7) rest := by
  rw [gather.eq_def, if_neg (by omega)]
  simp only [toUInt64_low, or_shiftLeft hm hs, and_0x80_eq_zero_iff]

/-- With one more group, what is gathered has seven more bits. -/
theorem add_group_lt {x : Nat} (hm : m < 2 ^ (7 * k)) (hx : x < 128) : m + 2 ^ (7 * k) * x < 2 ^ (7 * (k + 1)) := by
  have hpow : 2 ^ (7 * (k + 1)) = 2 ^ (7 * k) * 128 := Nat.pow_add 2 (7 * k) 7
  have hle : 2 ^ (7 * k) * (x + 1) ≤ 2 ^ (7 * k) * 128 := Nat.mul_le_mul_left _ hx
  rw [Nat.mul_succ] at hle
  omega

theorem add_group_add (n x : Nat) :
    m + 2 ^ (7 * k) * x + 2 ^ (7 * (k + 1)) * n = m + 2 ^ (7 * k) * (x + 128 * n) := by
  have hpow : 2 ^ (7 * (k + 1)) = 2 ^ (7 * k) * 128 := Nat.pow_add 2 (7 * k) 7
  rw [hpow, Nat.mul_assoc, Nat.add_assoc, ← Nat.mul_add]

/-- With `k` groups gathered, the loop reads as many more as are left of ten, and comes to their exact value on the
word. -/
theorem gather_eq (hk : k + limit = 10) (hm : m < 2 ^ (7 * k)) :
    gather (.ofNat m) (7 * k) bytes =
      (readGroups limit bytes).map fun (n, rest) => (.ofNat (m + 2 ^ (7 * k) * n), rest) := by
  -- What is gathered is followed at its exact value `m`; only the word that holds it drops the bits of the tenth group.
  induction limit generalizing k m bytes with
  | zero =>
    rw [gather_of_ge (by omega)]
    rfl
  | succ limit ih =>
    cases bytes with
    | nil =>
      rw [gather_nil (by omega)]
      rfl
    | cons b rest =>
      rw [gather_cons hm (by omega)]
      by_cases hb : b.toNat < 128
      · rw [if_pos hb, readGroups_cons_of_lt hb, Nat.mod_eq_of_lt hb]
        rfl
      · have hge : 128 ≤ b.toNat := Nat.not_lt.mp hb
        have hlow : b.toNat % 128 = b.toNat - 128 := by
          have hlt := b.toNat_lt
          omega
        have hnext : m + 2 ^ (7 * k) * (b.toNat % 128) < 2 ^ (7 * (k + 1)) :=
          add_group_lt hm (Nat.mod_lt _ (by decide))
        rw [if_neg hb, ← Nat.mul_succ, ih (by omega) hnext, readGroups_cons_of_ge hge]
        cases readGroups limit rest with
        | error fault => simp only [Except.map]
        | ok r =>
          obtain ⟨n, rest'⟩ := r
          simp only [Except.map, hlow, add_group_add]

end Gathering

/-- The loop on words reads the same numbers. -/
theorem read_eq_gathered (bytes : List UInt8) : read bytes = gathered bytes := by
  have hloop : gather 0 0 bytes = (readGroups maxGroups bytes).map fun (n, rest) => (.ofNat (0 + 2 ^ 0 * n), rest) :=
    gather_eq (Nat.zero_add 10) (by decide)
  rw [gathered, hloop, read]
  cases readGroups maxGroups bytes with
  | error fault => rfl
  | ok r =>
    obtain ⟨n, rest⟩ := r
    simp only [Except.map, Nat.pow_zero, Nat.one_mul, Nat.zero_add, unfolded_ofNat]

/-! ## Written and read back -/

/-- A number that is cut off is not read: all its bytes announce another. -/
theorem read_of_prefix {spelled init : List UInt8} (hc : Closed spelled) (hl : spelled.length ≤ 10)
    (hp : init <+: spelled) (hne : init ≠ spelled) : read init = .error .cut := by
  obtain ⟨most, last, rfl, hmost, -⟩ := hc
  rcases List.prefix_concat_iff.mp hp with rfl | hp
  · exact absurd rfl hne
  have hlen := hp.length_le
  rw [List.length_append, List.length_singleton] at hl
  refine read_eq_error_iff.mpr (readGroups_eq_cut_iff.mpr ⟨?_, fun b hb => hmost b (hp.subset hb)⟩)
  show init.length < 10
  omega

/-- **A number is written in one to ten bytes and read back**, and what follows it is left, but it is not read from
less than all of its bytes. The writing loop ends for every number, with these bytes, after a turn for each but the
last one; and reading is the reading loop. -/
theorem write_then_read (v : Int64) :
    (∃ count w, (Writing.start v).turns count = some w ∧ w.turn? = none ∧ w.close = write v ∧
      (write v).length = count + 1) ∧
    1 ≤ (write v).length ∧ (write v).length ≤ 10 ∧
    (∀ rest, read (write v ++ rest) = .ok (v, rest)) ∧
    (∀ init, init <+: write v → init ≠ write v → read init = .error .cut) ∧
    ∀ bytes, read bytes = gathered bytes :=
  ⟨exists_turns v, length_groups_pos _, length_write_le v, read_write_append v,
    fun _ => read_of_prefix (closed_groups _) (length_write_le v), read_eq_gathered⟩

/-- The least number takes ten bytes, and its tenth group is the one bit that is left of the word. -/
theorem write_then_read_minValue :
    write Int64.minValue = [0xFF, 0xFF, 0xFF, 0xFF, 0xFF, 0xFF, 0xFF, 0xFF, 0xFF, 0x01] ∧
    read (write Int64.minValue ++ [0xFF]) = .ok (Int64.minValue, [0xFF]) ∧
    [0xFF, 0xFF, 0xFF, 0xFF, 0xFF, 0xFF, 0xFF, 0xFF, 0xFF] <+: write Int64.minValue ∧
    [0xFF, 0xFF, 0xFF, 0xFF, 0xFF, 0xFF, 0xFF, 0xFF, 0xFF] ≠ write Int64.minValue ∧
    read [0xFF, 0xFF, 0xFF, 0xFF, 0xFF, 0xFF, 0xFF, 0xFF, 0xFF] = .error .cut := by
  have hwrite : write Int64.minValue = [0xFF, 0xFF, 0xFF, 0xFF, 0xFF, 0xFF, 0xFF, 0xFF, 0xFF, 0x01] :=
    groups_assembled ⟨[0xFF, 0xFF, 0xFF, 0xFF, 0xFF, 0xFF, 0xFF, 0xFF, 0xFF], 0x01, rfl, by simp, by decide⟩
      fun hpadded => absurd hpadded.2 (by decide)
  have hprefix : [0xFF, 0xFF, 0xFF, 0xFF, 0xFF, 0xFF, 0xFF, 0xFF, 0xFF] <+: write Int64.minValue :=
    ⟨[0x01], hwrite.symm⟩
  have hne : [0xFF, 0xFF, 0xFF, 0xFF, 0xFF, 0xFF, 0xFF, 0xFF, 0xFF] ≠ write Int64.minValue := by
    rw [hwrite]
    decide
  obtain ⟨-, -, -, hback, hcut, -⟩ := write_then_read Int64.minValue
  exact ⟨hwrite, hback [0xFF], hprefix, hne, hcut _ hprefix hne⟩

end OrderRelay.Varint
