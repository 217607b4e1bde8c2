import OrderRelay.Proofs.Wire.Format

/-!
# Lengths past the word

The length of a payload is read as a word, and the last of ten groups has more bits than are left of the word. What
these bits say is lost, so that a payload can be accepted whose length says something else at its exact value.

* `Closed.append_inj`: where the length ends; `assembled_append`, `assembled_lt`: what a row comes to, and its bound;
* `HeldToLength`: a payload is held to the exact value of its length, and `Overruns`, the payloads that are not;
* `assembled_mod_of_decode`: an accepted payload is held to its length on the word alone;
* **`heldToLength_iff`**: a payload is held to its length exactly if it does not overrun the word;
* `not_heldToLength`: a payload that is not.
-/

namespace OrderRelay

/-! ## Rows and their values -/

namespace Varint

theorem assembled_append (xs ys : List UInt8) :
    assembled (xs ++ ys) = assembled xs + 128 ^ xs.length * assembled ys := by
  induction xs with
  | nil => simp [assembled]
  | cons x xs ih =>
    rw [List.cons_append, assembled, ih, assembled, List.length_cons, Nat.pow_succ', Nat.mul_add, Nat.mul_assoc,
      Nat.add_assoc]

theorem assembled_lt (xs : List UInt8) : assembled xs < 128 ^ xs.length := by
  induction xs with
  | nil => simp [assembled]
  | cons x xs ih =>
    rw [assembled, List.length_cons, Nat.pow_succ']
    omega

/-- A row that does not fit into a word has more than nine groups. -/
theorem length_gt_nine {xs : List UInt8} (h : UInt64.size ≤ assembled xs) : 9 < xs.length := by
  refine Nat.lt_of_not_le fun hle => ?_
  have hlt : assembled xs < 128 ^ 9 :=
    Nat.lt_of_lt_of_le (assembled_lt xs) (Nat.pow_le_pow_right (by decide) hle)
  unfold UInt64.size at h
  omega

/-- A list begins with one closed row at most. -/
theorem Closed.append_inj {xs ys zs ws : List UInt8} (hx : Closed xs) (hy : Closed ys) (h : xs ++ zs = ys ++ ws) :
    xs = ys ∧ zs = ws := by
  have hread := readGroups_append hx (Nat.le_max_left xs.length ys.length) zs
  rw [h, readGroups_append hy (Nat.le_max_right ..)] at hread
  obtain ⟨-, rfl⟩ := Prod.mk.inj (Except.ok.inj hread)
  exact ⟨List.append_cancel_right h, rfl⟩

/-- A row of ten groups has `2 ^ 63` for each unit of its last one. -/
theorem assembled_of_ten {init : List UInt8} {last : UInt8} (hinit : init.length = 9) (hlast : last.toNat < 128) :
    assembled (init ++ [last]) = assembled init + 2 ^ 63 * last.toNat ∧ assembled init < 2 ^ 63 := by
  have hlt := assembled_lt init
  rw [hinit] at hlt
  refine ⟨?_, hlt⟩
  rw [assembled_append, hinit, assembled, assembled, Nat.mod_eq_of_lt hlast]
  rfl

theorem zigzag_natCast (k : Nat) : zigzag k = 2 * k := by
  rw [zigzag, if_pos (Int.natCast_nonneg k), Int.toNat_natCast]

theorem unzigzag_eq_natCast {n k : Nat} (h : unzigzag n = k) : n = 2 * k := by
  rw [← zigzag_natCast, ← h, zigzag_unzigzag]

theorem unzigzag_two_mul (k : Nat) : unzigzag (2 * k) = k := by
  rw [← zigzag_natCast, unzigzag_zigzag]

end Varint

namespace Wire

open Varint Text

variable {payload length body : List UInt8}

/-! ## Held to its length -/

/-- The payload is held to the exact value of its length: it is accepted only if half as many bytes follow, since the
value is folded, and refused if the value does not fit into a word. -/
def HeldToLength (payload : List UInt8) : Prop :=
  ∀ length body, payload = length ++ body → Closed length →
    (∀ e, Codec.wire.decode payload = .ok e → assembled length = 2 * body.length) ∧
      (UInt64.size ≤ assembled length → ∃ reason, Codec.wire.decode payload = .error (.decoding reason))

/-- The length has ten groups, of which the last one has bits past the word, and what is left of it on the word is the
length of the URI that follows. -/
def Overruns (payload : List UInt8) : Prop :=
  ∃ init last uri, payload = init ++ [last] ++ bytesOf uri ∧ init.length = 9 ∧ (∀ b ∈ init, 128 ≤ b.toNat) ∧
    2 ≤ last.toNat ∧ last.toNat < 128 ∧ assembled init + 2 ^ 63 * (last.toNat % 2) = 2 * (bytesOf uri).length

/-- On the word, an accepted payload is held to its length. -/
theorem assembled_mod_of_decode {e : OrderReceived} (hp : payload = length ++ body) (hc : Closed length)
    (h : Codec.wire.decode payload = .ok e) :
    length.length ≤ 10 ∧ assembled length % UInt64.size = 2 * body.length ∧ body = bytesOf e.referenceUri := by
  obtain ⟨length', body', hp', hc', hl, hn, hbody⟩ := codec_decode_eq_ok_iff_exists.mp h
  obtain ⟨rfl, rfl⟩ := hc.append_inj hc' (hp.symm.trans hp')
  rw [toInt_number] at hn
  exact ⟨hl, unzigzag_eq_natCast hn, hbody⟩

theorem decode_of_overruns (h : Overruns payload) : ∃ length body, payload = length ++ body ∧ Closed length ∧
    UInt64.size ≤ assembled length ∧ ∃ e, Codec.wire.decode payload = .ok e := by
  obtain ⟨init, last, uri, hp, hlen, hinit, hbig, hlast, hword⟩ := h
  obtain ⟨hvalue, hlow⟩ := assembled_of_ten hlen hlast
  have hc : Closed (init ++ [last]) := ⟨init, last, rfl, hinit, hlast⟩
  have hover : UInt64.size ≤ assembled (init ++ [last]) := by
    rw [hvalue]
    unfold UInt64.size
    omega
  have hmod : assembled (init ++ [last]) % UInt64.size = 2 * (bytesOf uri).length := by
    rw [hvalue, ← hword]
    unfold UInt64.size
    omega
  refine ⟨_, _, hp, hc, hover, ⟨uri⟩, codec_decode_eq_ok_iff_exists.mpr ⟨_, _, hp, hc, ?_, ?_, rfl⟩⟩
  · simp [hlen]
  · rw [toInt_number, hmod, unzigzag_two_mul]

/-- A payload that is accepted although its length does not fit into a word overruns it. -/
theorem overruns_of_decode {e : OrderReceived} (hp : payload = length ++ body) (hc : Closed length)
    (h : Codec.wire.decode payload = .ok e) (hover : UInt64.size ≤ assembled length) : Overruns payload := by
  obtain ⟨hl, hmod, rfl⟩ := assembled_mod_of_decode hp hc h
  obtain ⟨init, last, rfl, hinit, hlast⟩ := hc
  have hlen : init.length = 9 := by
    have hten := length_gt_nine hover
    rw [List.length_append, List.length_singleton] at hl hten
    omega
  obtain ⟨hvalue, hlow⟩ := assembled_of_ten hlen hlast
  rw [hvalue] at hover hmod
  unfold UInt64.size at hover hmod
  exact ⟨init, last, e.referenceUri, hp, hlen, hinit, by omega, hlast, by omega⟩

/-- **Payloads are held to the exact value of their length**, but for those whose length overruns the word. Those are
accepted, and held to what is left of it on the word. -/
theorem heldToLength_iff (payload : List UInt8) :
    (HeldToLength payload ↔ ¬ Overruns payload) ∧
      ∀ length body e, payload = length ++ body → Closed length → Codec.wire.decode payload = .ok e →
        assembled length % UInt64.size = 2 * body.length := by
  refine ⟨⟨fun h hover => ?_, fun h length body hp hc => ?_⟩, fun length body e hp hc he =>
    (assembled_mod_of_decode hp hc he).2.1⟩
  · obtain ⟨length, body, hp, hc, hbig, e, he⟩ := decode_of_overruns hover
    obtain ⟨reason, herr⟩ := (h length body hp hc).2 hbig
    exact nomatch he.symm.trans herr
  · -- An accepted payload that does not overrun the word has a length that fits into it.
    have hfits (e : OrderReceived) (he : Codec.wire.decode payload = .ok e) : assembled length < UInt64.size :=
      Nat.not_le.mp fun hbig => h (overruns_of_decode hp hc he hbig)
    constructor
    · intro e he
      rw [← (assembled_mod_of_decode hp hc he).2.1, Nat.mod_eq_of_lt (hfits e he)]
    · intro hbig
      obtain ⟨fault, -, hfault⟩ := exists_fault_of_refused fun uri he => absurd hbig (Nat.not_le.mpr (hfits _ he))
      exact ⟨fault.reason, hfault⟩

/-- Ten groups that say `2 ^ 64 + 2` at their exact value are taken for a length of one byte. -/
theorem not_heldToLength : ¬ HeldToLength [0x82, 0x80, 0x80, 0x80, 0x80, 0x80, 0x80, 0x80, 0x80, 0x02, 0x61] ∧
    Codec.wire.decode [0x82, 0x80, 0x80, 0x80, 0x80, 0x80, 0x80, 0x80, 0x80, 0x02, 0x61] = .ok ⟨"a"⟩ ∧
    assembled [0x82, 0x80, 0x80, 0x80, 0x80, 0x80, 0x80, 0x80, 0x80, 0x02] = 2 ^ 64 + 2 := by
  refine ⟨fun h => ?_, rfl, rfl⟩
  have hc : Closed [0x82, 0x80, 0x80, 0x80, 0x80, 0x80, 0x80, 0x80, 0x80, 0x02] :=
    ⟨[0x82, 0x80, 0x80, 0x80, 0x80, 0x80, 0x80, 0x80, 0x80], 0x02, rfl, by simp, by decide⟩
  exact absurd ((h _ [0x61] rfl hc).1 ⟨"a"⟩ rfl) (by decide)

end Wire

end OrderRelay
