import OrderRelay.Proofs.Wire.Groups
import OrderRelay.Wire.Codec

/-!
# The wire format

A payload is a length, at most ten groups long, and as many bytes as the length says, which are the form of a
text. The length need not be spelled as shortly as it could be. Whatever is not of this form is refused, for one
fault.

* `Announces`, the two parts of a payload, and `Suffers`, what a payload is like that is refused for a fault;
* `decode_eq_ok_iff`, `decode_eq_error_iff`: what is accepted, and what is refused for which fault;
* `takeEvent`, decoding by a cursor that must not ask for more bytes than are left, and `takeEvent_eq`: it
  never does;
* **`decode_exact`**: all of this together, for the codec.
-/

namespace OrderRelay.Wire

open Varint Text

variable {payload rest : List UInt8}

/-! ## The two parts of a payload -/

/-- The payload begins with the length `n`, and `rest` comes after it. -/
def Announces (payload : List UInt8) (n : Int) (rest : List UInt8) : Prop :=
  ∃ length, payload = length ++ rest ∧ Closed length ∧ length.length ≤ 10 ∧ (number length).toInt = n

theorem announces_iff_read {v : Int64} :
    Announces payload v.toInt rest ↔ read payload = .ok (v, rest) := by
  rw [read_eq_ok_iff]
  simp only [Announces, Int64.toInt_inj]

theorem exists_read_of_announces {n : Int} (h : Announces payload n rest) :
    ∃ v : Int64, v.toInt = n ∧ read payload = .ok (v, rest) := by
  obtain ⟨length, rfl, hc, hl, rfl⟩ := h
  exact ⟨number length, rfl, read_eq_ok_iff.mpr ⟨length, rfl, hc, hl, rfl⟩⟩

/-- What a payload is like that is refused for a fault. -/
def Suffers (payload : List UInt8) : WireFault → Prop
  | .lengthTooLong => 10 ≤ payload.length ∧ ∀ b ∈ payload.take 10, 128 ≤ b.toNat
  | .lengthCut => payload.length < 10 ∧ ∀ b ∈ payload, 128 ≤ b.toNat
  | .negativeLength n => n < 0 ∧ ∃ rest, Announces payload n rest
  | .shortBody announced available =>
    available < announced ∧ ∃ rest, Announces payload announced rest ∧ rest.length = available
  | .trailing count =>
    0 < count ∧ ∃ (n : Nat) (rest : List UInt8), Announces payload n rest ∧ rest.length = n + count
  | .notText defect => ∃ body, Announces payload body.length body ∧ (∀ uri, body ≠ bytesOf uri) ∧
      defect = (Utf8Defect.find body).getD (.cut 0)

/-! ## Decoding -/

theorem decode_of_tooLong (h : read payload = .error .tooLong) : decode payload = .error .lengthTooLong := by
  rw [decode, h]

theorem decode_of_cut (h : read payload = .error .cut) : decode payload = .error .lengthCut := by
  rw [decode, h]

section Announced

variable {v : Int64} (h : read payload = .ok (v, rest))
include h

theorem decode_of_negative (hv : v.toInt < 0) : decode payload = .error (.negativeLength v.toInt) := by
  rw [decode, h]
  exact if_pos hv

variable {n : Nat} (hv : v.toInt = n)
include hv

theorem decode_of_nonneg : decode payload =
    if rest.length < n then .error (.shortBody n rest.length)
    else if n < rest.length then .error (.trailing (rest.length - n))
    else decodeBody rest := by
  rw [decode, h]
  simp only [hv, Int.toNat_natCast]
  exact if_neg (by omega)

theorem decode_of_short (hn : rest.length < n) : decode payload = .error (.shortBody n rest.length) :=
  (decode_of_nonneg h hv).trans (if_pos hn)

theorem decode_of_trailing (hn : n < rest.length) :
    decode payload = .error (.trailing (rest.length - n)) := by
  rw [decode_of_nonneg h hv, if_neg (by omega), if_pos hn]

theorem decode_of_exact (hn : n = rest.length) : decode payload = decodeBody rest := by
  rw [decode_of_nonneg h hv, if_neg (by omega), if_neg (by omega)]

end Announced

theorem decodeBody_eq_ok_iff {body : List UInt8} {uri : String} :
    decodeBody body = .ok ⟨uri⟩ ↔ body = bytesOf uri := by
  rw [← textOf?_eq_some_iff, decodeBody]
  cases textOf? body <;> simp

theorem decodeBody_eq_error {body : List UInt8} (h : ∀ uri, body ≠ bytesOf uri) :
    decodeBody body = .error (.notText ((Utf8Defect.find body).getD (.cut 0))) := by
  have hnone : textOf? body = none := by
    rw [Option.eq_none_iff_forall_ne_some]
    exact fun uri hu => h uri (textOf?_eq_some_iff.mp hu)
  rw [decodeBody, hnone]

/-- A payload is refused for the fault it suffers from. -/
theorem decode_of_suffers {fault : WireFault} (h : Suffers payload fault) :
    decode payload = .error fault := by
  cases fault with
  | lengthTooLong => exact decode_of_tooLong (read_eq_error_iff.mpr (readGroups_eq_tooLong_iff.mpr h))
  | lengthCut => exact decode_of_cut (read_eq_error_iff.mpr (readGroups_eq_cut_iff.mpr h))
  | negativeLength n =>
    obtain ⟨hn, rest, ha⟩ := h
    obtain ⟨v, rfl, hr⟩ := exists_read_of_announces ha
    exact decode_of_negative hr hn
  | shortBody announced available =>
    obtain ⟨hlt, rest, ha, rfl⟩ := h
    obtain ⟨v, hv, hr⟩ := exists_read_of_announces ha
    exact decode_of_short hr hv hlt
  | trailing count =>
    obtain ⟨hpos, n, rest, ha, hlen⟩ := h
    obtain ⟨v, hv, hr⟩ := exists_read_of_announces ha
    have hcount : rest.length - n = count := by omega
    rw [decode_of_trailing hr hv (by omega), hcount]
  | notText defect =>
    obtain ⟨body, ha, hbody, rfl⟩ := h
    obtain ⟨v, hv, hr⟩ := exists_read_of_announces ha
    exact (decode_of_exact hr hv rfl).trans (decodeBody_eq_error hbody)

theorem decode_of_announces {uri : String}
    (h : Announces payload (bytesOf uri).length (bytesOf uri)) : decode payload = .ok ⟨uri⟩ := by
  obtain ⟨v, hv, hr⟩ := exists_read_of_announces h
  exact (decode_of_exact hr hv rfl).trans (decodeBody_eq_ok_iff.mpr rfl)

/-- Every payload is of the form or suffers from a fault. -/
theorem announces_or_suffers (payload : List UInt8) :
    (∃ uri, Announces payload (bytesOf uri).length (bytesOf uri)) ∨ ∃ fault, Suffers payload fault := by
  cases hr : read payload with
  | error fault =>
    have hg := read_eq_error_iff.mp hr
    cases fault with
    | tooLong => exact .inr ⟨.lengthTooLong, readGroups_eq_tooLong_iff.mp hg⟩
    | cut => exact .inr ⟨.lengthCut, readGroups_eq_cut_iff.mp hg⟩
  | ok m =>
    obtain ⟨v, rest⟩ := m
    have ha : Announces payload v.toInt rest := announces_iff_read.mpr hr
    rcases Int.lt_or_le v.toInt 0 with hneg | hpos
    · exact .inr ⟨.negativeLength v.toInt, hneg, rest, ha⟩
    obtain ⟨n, hn⟩ := Int.eq_ofNat_of_zero_le hpos
    rw [hn] at ha
    rcases Nat.lt_trichotomy rest.length n with hlt | heq | hgt
    · exact .inr ⟨.shortBody n rest.length, hlt, rest, ha, rfl⟩
    · subst heq
      by_cases hbody : ∃ uri, rest = bytesOf uri
      · obtain ⟨uri, rfl⟩ := hbody
        exact .inl ⟨uri, ha⟩
      · exact .inr ⟨.notText _, rest, ha, fun uri hu => hbody ⟨uri, hu⟩, rfl⟩
    · exact .inr ⟨.trailing (rest.length - n), Nat.sub_pos_of_lt hgt, n, rest, ha, by omega⟩

/-- A payload is accepted as the event with a URI when its length is followed by just the form of the URI. -/
theorem decode_eq_ok_iff {uri : String} :
    decode payload = .ok ⟨uri⟩ ↔ Announces payload (bytesOf uri).length (bytesOf uri) := by
  constructor
  · intro h
    rcases announces_or_suffers payload with ⟨uri', ha⟩ | ⟨fault, hf⟩
    · have := (decode_of_announces ha).symm.trans h
      obtain rfl : uri' = uri := congrArg OrderReceived.referenceUri (Except.ok.inj this)
      exact ha
    · exact nomatch (decode_of_suffers hf).symm.trans h
  · exact decode_of_announces

/-- A payload is refused for a fault when it suffers from it. -/
theorem decode_eq_error_iff {fault : WireFault} : decode payload = .error fault ↔ Suffers payload fault := by
  constructor
  · intro h
    rcases announces_or_suffers payload with ⟨uri, ha⟩ | ⟨fault', hf⟩
    · exact nomatch (decode_of_announces ha).symm.trans h
    · exact Except.error.inj ((decode_of_suffers hf).symm.trans h) ▸ hf
  · exact decode_of_suffers

/-! ## Decoding by a cursor

The bytes are taken off the payload as they are needed, and none may be taken that is not there. Each time the
cursor first looks at what is left. -/

/-- Take a byte. There is no answer when none is left. -/
def takeByte : List UInt8 → Option (UInt8 × List UInt8)
  | [] => none
  | b :: left => some (b, left)

/-- Take several bytes. There is no answer when less are left. -/
def takeBytes (n : Nat) (left : List UInt8) : Option (List UInt8 × List UInt8) :=
  if n ≤ left.length then some (left.take n, left.drop n) else none

/-- Take at most `limit` groups, one after the other. -/
def takeGroups : (limit : Nat) → List UInt8 → Option (Except Fault (Nat × List UInt8))
  | 0, _ => some (.error .tooLong)
  | limit + 1, left =>
    if left.isEmpty then some (.error .cut)
    else match takeByte left with
      | none => none
      | some (b, left) =>
        if b.toNat < 128 then some (.ok (b.toNat, left))
        else match takeGroups limit left with
          | none => none
          | some (.error fault) => some (.error fault)
          | some (.ok (n, left)) => some (.ok (b.toNat - 128 + 128 * n, left))

/-- Take a body of `n` bytes. Nothing may be left after it. -/
def takeBody (n : Nat) (left : List UInt8) : Option (Except WireFault OrderReceived) :=
  if left.length < n then some (.error (.shortBody n left.length))
  else match takeBytes n left with
    | none => none
    | some (body, left) =>
      if left.isEmpty then some (decodeBody body) else some (.error (.trailing left.length))

/-- Take an event. -/
def takeEvent (payload : List UInt8) : Option (Except WireFault OrderReceived) :=
  match takeGroups maxGroups payload with
  | none => none
  | some (.error .tooLong) => some (.error .lengthTooLong)
  | some (.error .cut) => some (.error .lengthCut)
  | some (.ok (n, left)) =>
    let length := Int64.ofInt (unzigzag (n % UInt64.size))
    if length.toInt < 0 then some (.error (.negativeLength length.toInt))
    else takeBody length.toInt.toNat left

theorem takeGroups_eq (limit : Nat) (left : List UInt8) :
    takeGroups limit left = some (readGroups limit left) := by
  induction limit generalizing left with
  | zero => rfl
  | succ limit ih =>
    cases left with
    | nil => rfl
    | cons b left =>
      simp only [takeGroups, takeByte, readGroups, ih, List.isEmpty_cons, Bool.false_eq_true, if_false]
      split
      · rfl
      · cases readGroups limit left <;> rfl

theorem takeBody_eq (n : Nat) (left : List UInt8) : takeBody n left = some (
    if left.length < n then .error (.shortBody n left.length)
    else if n < left.length then .error (.trailing (left.length - n))
    else decodeBody left) := by
  unfold takeBody
  split
  · rfl
  · rename_i hn
    rw [takeBytes, if_pos (Nat.not_lt.mp hn)]
    by_cases hlt : n < left.length
    · have hdrop : (left.drop n).isEmpty = false := by simpa using hlt
      simp [hlt, hdrop]
    · have hdrop : left.drop n = [] := List.drop_eq_nil_of_le (Nat.not_lt.mp hlt)
      have htake : left.take n = left := List.take_of_length_le (Nat.not_lt.mp hlt)
      simp [hlt, hdrop, htake]

/-- The cursor never asks for a byte that is not there, and comes to the same answer. -/
theorem takeEvent_eq (payload : List UInt8) : takeEvent payload = some (decode payload) := by
  rw [takeEvent, takeGroups_eq, decode, Varint.read]
  cases readGroups maxGroups payload with
  | error fault => cases fault <;> rfl
  | ok m =>
    dsimp only
    split
    · rfl
    · exact takeBody_eq _ _

/-! ## The codec -/

theorem codec_decode_eq_ok_iff {e : OrderReceived} :
    Codec.wire.decode payload = .ok e ↔ decode payload = .ok e := by
  simp only [Codec.wire]
  cases decode payload <;> simp

theorem codec_decode_of_error {fault : WireFault} (h : decode payload = .error fault) :
    Codec.wire.decode payload = .error (.decoding fault.reason) := by
  simp only [Codec.wire, h]

/-- What the codec accepts, by the two parts of the payload. -/
theorem codec_decode_eq_ok_iff_exists {uri : String} : Codec.wire.decode payload = .ok ⟨uri⟩ ↔
    ∃ length body, payload = length ++ body ∧ Closed length ∧ length.length ≤ 10 ∧
      (number length).toInt = body.length ∧ body = bytesOf uri := by
  rw [codec_decode_eq_ok_iff, decode_eq_ok_iff]
  constructor
  · rintro ⟨length, hp, hc, hl, hn⟩
    exact ⟨length, _, hp, hc, hl, hn, rfl⟩
  · rintro ⟨length, body, hp, hc, hl, hn, rfl⟩
    exact ⟨length, hp, hc, hl, hn⟩

/-- What the codec does not accept it refuses for a fault. -/
theorem exists_fault_of_refused (h : ∀ uri, Codec.wire.decode payload ≠ .ok ⟨uri⟩) :
    ∃ fault, Suffers payload fault ∧ Codec.wire.decode payload = .error (.decoding fault.reason) := by
  cases hd : decode payload with
  | ok e => exact absurd (codec_decode_eq_ok_iff.mpr hd) (h e.referenceUri)
  | error fault => exact ⟨fault, decode_eq_error_iff.mp hd, codec_decode_of_error hd⟩

/-- **Decoding accepts exactly the wire format.** A payload is the event with a URI when it is a length of one to
ten bytes, all but the last with the high bit set, and a body of as many bytes as the length says, the UTF-8 form
of the URI. Any other payload is refused with the fault it suffers from. No byte is asked for that is not there. -/
theorem decode_exact (payload : List UInt8) :
    (∀ uri, Codec.wire.decode payload = .ok ⟨uri⟩ ↔
      ∃ length body, payload = length ++ body ∧ Closed length ∧ length.length ≤ 10 ∧
        (number length).toInt = body.length ∧ body = bytesOf uri) ∧
    ((∀ uri, Codec.wire.decode payload ≠ .ok ⟨uri⟩) ↔
      ∃ fault, Suffers payload fault ∧ Codec.wire.decode payload = .error (.decoding fault.reason)) ∧
    takeEvent payload = some (decode payload) := by
  refine ⟨fun uri => codec_decode_eq_ok_iff_exists, ⟨exists_fault_of_refused, ?_⟩, takeEvent_eq payload⟩
  rintro ⟨fault, -, h⟩ uri hok
  exact nomatch h.symm.trans hok

/-- The length may be spelled longer than it needs to be. -/
example : Codec.wire.decode [0x84, 0x80, 0x00, 0x2F, 0x61] = .ok ⟨"/a"⟩ := rfl

end OrderRelay.Wire
