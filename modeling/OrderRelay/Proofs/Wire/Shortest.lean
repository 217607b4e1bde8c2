import OrderRelay.Proofs.Wire.Overruns
import OrderRelay.Proofs.Wire.RoundTrip

/-!
# The shortest wire form

The length of a payload can be spelled in several ways: with zero groups at its end, and with bits that are lost. An
event is written with the shortest of them. So to read a payload and to write its event again makes it no longer, and
leaves it as it was exactly if its length was spelled that way to begin with.

* `Padded`, a row that ends in a group of zeros, and `Spills`, a row with a set bit past the word;
* `groups_assembled`: a row that is not padded is the row of its value, and `length_groups_lt`: a padded one is longer;
* `testBit_assembled`, `spills_iff`: the bits of a row, which spills if its exact value does not fit into the word;
* `Rewritten`, what is known of writing the event of a payload again, and **`rewritten`**: it holds of all that are
  accepted.
-/

namespace OrderRelay

namespace Varint

variable {xs : List UInt8}

/-! ## Padding -/

/-- The row ends in a group of zeros that is not the only group. -/
def Padded (xs : List UInt8) : Prop := 1 < xs.length ∧ xs.getLast? = some 0

theorem padded_cons {b : UInt8} (h : Closed xs) : Padded (b :: xs) ↔ xs = [0] ∨ Padded xs := by
  unfold Padded
  cases xs with
  | nil => exact absurd h not_closed_nil
  | cons c cs =>
    rw [List.getLast?_cons_cons]
    cases cs <;> simp

theorem groups_of_lt {n : Nat} (h : n < 128) : groups n = [UInt8.ofNat n] := by
  rw [groups, if_pos h]

theorem groups_of_ge {n : Nat} (h : 128 ≤ n) : groups n = UInt8.ofNat (n % 128 + 128) :: groups (n / 128) := by
  rw [groups, if_neg (by omega)]

/-- A row that is not padded is the row of its value. -/
theorem groups_assembled (hc : Closed xs) (hp : ¬ Padded xs) : groups (assembled xs) = xs := by
  induction xs with
  | nil => exact absurd hc not_closed_nil
  | cons b xs ih =>
    by_cases hb : b.toNat < 128
    · obtain rfl := (closed_cons_of_lt hb).mp hc
      have hvalue : assembled [b] = b.toNat := by
        rw [assembled, assembled]
        omega
      rw [hvalue, groups_of_lt hb, UInt8.ofNat_toNat]
    · have hb : 128 ≤ b.toNat := Nat.not_lt.mp hb
      have hlt := b.toNat_lt
      have hrest : Closed xs := (closed_cons_of_ge hb).mp hc
      rw [padded_cons hrest, not_or] at hp
      have hxs := ih hrest hp.2
      -- The rest has a value, or else it would be a single group of zeros.
      have hpos : 0 < assembled xs := by
        rw [Nat.pos_iff_ne_zero]
        intro h0
        rw [h0] at hxs
        exact hp.1 (hxs.symm.trans (groups_of_lt (by decide)))
      have hvalue : assembled (b :: xs) = b.toNat % 128 + 128 * assembled xs := rfl
      have hgroup : assembled (b :: xs) % 128 + 128 = b.toNat := by omega
      have hhigh : assembled (b :: xs) / 128 = assembled xs := by omega
      rw [groups_of_ge (by omega), hgroup, hhigh, hxs, UInt8.ofNat_toNat]

theorem not_padded_groups (n : Nat) : ¬ Padded (groups n) := by
  fun_induction groups n with
  | case1 n h => exact fun hp => absurd hp.1 (by simp)
  | case2 n h ih =>
    rw [padded_cons (closed_groups _), not_or]
    refine ⟨fun h0 => ?_, ih⟩
    have hvalue := assembled_groups (n / 128)
    rw [h0, assembled, assembled] at hvalue
    have : (0 : UInt8).toNat = 0 := rfl
    omega

/-- No row of a value is shorter than the one that is written. -/
theorem length_groups_le_of_closed {n : Nat} (hc : Closed xs) (hn : n ≤ assembled xs) :
    (groups n).length ≤ xs.length := by
  obtain ⟨init, last, rfl, -⟩ := hc
  exact length_groups_le (by simp) (Nat.lt_of_le_of_lt hn (assembled_lt _))

/-- A padded row is longer. -/
theorem length_groups_lt {n : Nat} (hp : Padded xs) (hn : n ≤ assembled xs) : (groups n).length < xs.length := by
  obtain ⟨hlong, hlast⟩ := hp
  obtain ⟨init, rfl⟩ := List.getLast?_eq_some_iff.mp hlast
  rw [List.length_append, List.length_singleton] at hlong ⊢
  have hvalue : assembled (init ++ [0]) = assembled init := by
    rw [assembled_append, assembled, assembled]
    rfl
  rw [hvalue] at hn
  exact Nat.lt_succ_of_le (length_groups_le (by omega) (Nat.lt_of_le_of_lt hn (assembled_lt init)))

/-! ## Bits past the word -/

/-- A bit of the row is set that has no place in a word of 64 bits. -/
def Spills (xs : List UInt8) : Prop :=
  ∃ k b i, xs[k]? = some b ∧ i < 7 ∧ b.toNat.testBit i = true ∧ 64 ≤ 7 * k + i

/-- The bits of a row are those of its groups. -/
theorem testBit_assembled {k i : Nat} (hi : i < 7) :
    (assembled xs).testBit (7 * k + i) = true ↔ ∃ b, xs[k]? = some b ∧ b.toNat.testBit i = true := by
  induction k generalizing xs with
  | zero =>
    cases xs with
    | nil => simp [assembled]
    | cons b xs =>
      have hlow : b.toNat % 2 ^ 7 < 2 ^ 7 := Nat.mod_lt _ (by decide)
      have hvalue : assembled (b :: xs) = 2 ^ 7 * assembled xs + b.toNat % 2 ^ 7 := Nat.add_comm _ _
      rw [hvalue, Nat.mul_zero, Nat.zero_add, Nat.testBit_two_pow_mul_add _ hlow, if_pos hi,
        Nat.testBit_mod_two_pow]
      simp [hi]
  | succ k ih =>
    cases xs with
    | nil => simp [assembled]
    | cons b xs =>
      have hlow : b.toNat % 2 ^ 7 < 2 ^ 7 := Nat.mod_lt _ (by decide)
      have hvalue : assembled (b :: xs) = 2 ^ 7 * assembled xs + b.toNat % 2 ^ 7 := Nat.add_comm _ _
      have hplace : 7 * (k + 1) + i - 7 = 7 * k + i := by omega
      rw [hvalue, Nat.testBit_two_pow_mul_add _ hlow, if_neg (by omega), hplace, ih, List.getElem?_cons_succ]

/-- A row spills if its exact value does not fit into the word. -/
theorem spills_iff : Spills xs ↔ UInt64.size ≤ assembled xs := by
  constructor
  · rintro ⟨k, b, i, hb, hi, hbit, hplace⟩
    have hset := (testBit_assembled hi).mpr ⟨b, hb, hbit⟩
    have hpow : 2 ^ 64 ≤ 2 ^ (7 * k + i) := Nat.pow_le_pow_right (by decide) hplace
    exact Nat.le_trans hpow (Nat.ge_two_pow_of_testBit hset)
  · intro h
    obtain ⟨j, hj, hset⟩ := Nat.exists_ge_and_testBit_of_ge_two_pow (show 2 ^ 64 ≤ assembled xs from h)
    have hi : j % 7 < 7 := Nat.mod_lt j (by decide)
    have hsplit : 7 * (j / 7) + j % 7 = j := Nat.div_add_mod j 7
    rw [← hsplit] at hset
    obtain ⟨b, hb, hbit⟩ := (testBit_assembled hi).mp hset
    exact ⟨j / 7, b, j % 7, hb, hi, hbit, by omega⟩

end Varint

namespace Wire

open Varint Text

variable {payload length body : List UInt8} {e : OrderReceived} {n : Nat}

/-! ## Lengths -/

theorem write_ofNat (h : n < 2 ^ 63) : write (.ofNat n) = groups (2 * n) := by
  rw [write, Int64.toInt_ofNat_of_lt h, zigzag_natCast]

/-- A length that stands for `n` on the word is written as it was if it is not padded and does not spill. -/
theorem groups_eq_iff (hc : Closed length) (hn : assembled length % UInt64.size = 2 * n) :
    groups (2 * n) = length ↔ ¬ Padded length ∧ ¬ Spills length := by
  have hlt : 2 * n < UInt64.size := hn ▸ Nat.mod_lt _ (by decide)
  constructor
  · rintro rfl
    rw [spills_iff, assembled_groups]
    exact ⟨not_padded_groups _, Nat.not_le.mpr hlt⟩
  · rintro ⟨hp, hs⟩
    rw [spills_iff, Nat.not_le] at hs
    rw [← hn, Nat.mod_eq_of_lt hs, groups_assembled hc hp]

/-- An accepted payload has a length that stands for the size of its body, which is the form of a text in memory. -/
theorem exists_parts (h : Codec.wire.decode payload = .ok e) : ∃ length, payload = length ++ bytesOf e.referenceUri ∧
    Closed length ∧ assembled length % UInt64.size = 2 * (bytesOf e.referenceUri).length ∧
    (bytesOf e.referenceUri).length < 2 ^ 63 := by
  obtain ⟨length, body, hp, hc, -, -, rfl⟩ := codec_decode_eq_ok_iff_exists.mp h
  obtain ⟨-, hn, -⟩ := assembled_mod_of_decode hp hc h
  have hlt : assembled length % UInt64.size < UInt64.size := Nat.mod_lt _ (by decide)
  unfold UInt64.size at hn hlt
  exact ⟨length, hp, hc, hn, by omega⟩

/-! ## Writing an event again -/

/-- What is known of a payload that is accepted as an event, of its length and its body. -/
structure Rewritten (length body : List UInt8) (e : OrderReceived) : Prop where
  refused_iff : (∃ err, Codec.wire.encode e = .error err) ↔ trim e.referenceUri = ""
  /-- The event is written with the shortest length, and nothing else that loses no bits is as short. -/
  written : trim e.referenceUri ≠ "" → ∃ written, Codec.wire.encode e = .ok written ∧
    Codec.wire.decode written = .ok e ∧ written.length ≤ (length ++ body).length ∧
    (written = length ++ body ↔ ¬ Padded length ∧ ¬ Spills length) ∧
    (¬ Spills length → (length ++ body).length ≤ written.length → written = length ++ body)
  /-- No other payload begins with this one. -/
  prefix_free : ∀ payload e', Codec.wire.decode payload = .ok e' → length ++ body <+: payload →
    length ++ body = payload

theorem codec_encode_eq_error_iff :
    (∃ err, Codec.wire.encode e = .error err) ↔ trim e.referenceUri = "" := by
  constructor
  · rintro ⟨err, herr⟩
    exact Decidable.byContradiction fun hblank => nomatch herr.symm.trans (codec_encode_of_not_blank hblank)
  · exact fun hblank => ⟨_, codec_encode_of_blank hblank⟩

/-- Where the length of a payload ends, and how long the body is, is known from its beginning. -/
theorem eq_of_prefix {payload' : List UInt8} {e' : OrderReceived} (h : Codec.wire.decode payload = .ok e)
    (h' : Codec.wire.decode payload' = .ok e') (hp : payload <+: payload') : payload = payload' := by
  obtain ⟨rest, rfl⟩ := hp
  obtain ⟨length, rfl, hc, hn, -⟩ := exists_parts h
  obtain ⟨length', heq, hc', hn', -⟩ := exists_parts h'
  rw [List.append_assoc] at heq
  obtain ⟨rfl, hbody⟩ := hc.append_inj hc' heq
  have hrest : rest.length = 0 := by
    have := congrArg List.length hbody
    rw [List.length_append] at this
    omega
  rw [List.length_eq_zero_iff.mp hrest, List.append_nil]

/-- **Writing an event again** gives the shortest payload that holds it, which is the one it was read from exactly if
that has a length without needless groups and lost bits. No accepted payload begins with another one. -/
theorem rewritten (payload : List UInt8) (e : OrderReceived) (h : Codec.wire.decode payload = .ok e) :
    ∃ length body, payload = length ++ body ∧ Closed length ∧ Rewritten length body e := by
  obtain ⟨length, rfl, hc, hn, hsize⟩ := exists_parts h
  refine ⟨length, _, rfl, hc, codec_encode_eq_error_iff, fun hblank => ?_, fun _ _ h' => eq_of_prefix h h'⟩
  have hle : 2 * (bytesOf e.referenceUri).length ≤ assembled length := hn ▸ Nat.mod_le _ _
  refine ⟨_, codec_encode_of_not_blank hblank, codec_decode_write (length_bytesOf _ ▸ hsize), ?_⟩
  rw [write_ofNat hsize, List.append_left_inj, groups_eq_iff hc hn, List.length_append, List.length_append,
    Nat.add_le_add_iff_right, Nat.add_le_add_iff_right]
  refine ⟨length_groups_le_of_closed hc hle, Iff.rfl, fun hs hlong => ⟨fun hp => ?_, hs⟩⟩
  exact absurd (length_groups_lt hp hle) (Nat.not_lt.mpr hlong)

/-- A length with a needless group, one with a lost bit, and a payload of blanks. -/
theorem rewritten_padded :
    (Codec.wire.decode [0x84, 0x80, 0x00, 0x2F, 0x61] = .ok ⟨"/a"⟩ ∧ Codec.wire.encode ⟨"/a"⟩ = .ok [4, 0x2F, 0x61] ∧
      ∃ length body, [0x84, 0x80, 0x00, 0x2F, 0x61] = length ++ body ∧ Closed length ∧ Rewritten length body ⟨"/a"⟩) ∧
    (Codec.wire.decode [0x82, 0x80, 0x80, 0x80, 0x80, 0x80, 0x80, 0x80, 0x80, 0x02, 0x61] = .ok ⟨"a"⟩ ∧
      ∃ length body, [0x82, 0x80, 0x80, 0x80, 0x80, 0x80, 0x80, 0x80, 0x80, 0x02, 0x61] = length ++ body ∧
        Closed length ∧ Rewritten length body ⟨"a"⟩) ∧
    Codec.wire.decode [2, 0x20] = .ok ⟨" "⟩ ∧
      ∃ length body, [2, 0x20] = length ++ body ∧ Closed length ∧ Rewritten length body ⟨" "⟩ := by
  have hpadded : Codec.wire.decode [0x84, 0x80, 0x00, 0x2F, 0x61] = .ok ⟨"/a"⟩ := rfl
  have hspilled : Codec.wire.decode [0x82, 0x80, 0x80, 0x80, 0x80, 0x80, 0x80, 0x80, 0x80, 0x02, 0x61] = .ok ⟨"a"⟩ :=
    rfl
  have hblank : Codec.wire.decode [2, 0x20] = .ok ⟨" "⟩ := rfl
  have hwritten : Codec.wire.encode ⟨"/a"⟩ = .ok [4, 0x2F, 0x61] := by
    rw [codec_encode_of_not_blank (by decide), write_ofNat (by decide), groups_of_lt (by decide)]
    rfl
  exact ⟨⟨hpadded, hwritten, rewritten _ _ hpadded⟩, ⟨hspilled, rewritten _ _ hspilled⟩, hblank,
    rewritten _ _ hblank⟩

end Wire

end OrderRelay
