import OrderRelay.Proofs.Wire.Format

/-!
# Writing an event and reading it back

An event is written unless its URI is blank, and what was written is read back as it was, blanks at the ends of
the URI included. Lengths are counted in bytes on both sides.

* `encode_eq_none_iff`, `encode_of_not_blank`: when there is a payload, and which;
* `announces_write`: it announces the URI;
* `codec_encode_of_not_blank`, `codec_encode_of_blank`, `codec_decode_write`: the same for the codec;
* **`encode_then_decode`**: both together, for the codec.
-/

namespace OrderRelay.Wire

open Varint Text

variable {e : OrderReceived}

theorem length_bytesOf (s : String) : (bytesOf s).length = s.utf8ByteSize := by
  rw [bytesOf, Array.length_toList]
  exact String.size_toByteArray

theorem encode_eq_none_iff : encode e = none ↔ trim e.referenceUri = "" := by
  rw [trim_eq_empty_iff, encode]
  split <;> simp_all

theorem encode_of_not_blank (h : trim e.referenceUri ≠ "") :
    encode e = some (write (.ofNat (bytesOf e.referenceUri).length) ++ bytesOf e.referenceUri) := by
  rw [ne_eq, trim_eq_empty_iff] at h
  exact if_neg h

/-- The payload of an event begins with the length of its URI. -/
theorem announces_write {uri : String} (h : uri.utf8ByteSize < 2 ^ 63) :
    Announces (write (.ofNat (bytesOf uri).length) ++ bytesOf uri) (bytesOf uri).length (bytesOf uri) := by
  have hlen : (Int64.ofNat (bytesOf uri).length).toInt = (bytesOf uri).length :=
    Int64.toInt_ofNat_of_lt (by rw [length_bytesOf]; exact h)
  have := announces_iff_read.mpr (read_write_append (.ofNat (bytesOf uri).length) (bytesOf uri))
  rwa [hlen] at this

theorem codec_encode_of_not_blank (h : trim e.referenceUri ≠ "") :
    Codec.wire.encode e = .ok (write (.ofNat (bytesOf e.referenceUri).length) ++ bytesOf e.referenceUri) := by
  simp only [Codec.wire, encode_of_not_blank h]

theorem codec_encode_of_blank (h : trim e.referenceUri = "") :
    Codec.wire.encode e = .error (.encoding "order URI is blank") := by
  simp only [Codec.wire, encode_eq_none_iff.mpr h]

theorem codec_decode_write {uri : String} (h : uri.utf8ByteSize < 2 ^ 63) :
    Codec.wire.decode (write (.ofNat (bytesOf uri).length) ++ bytesOf uri) = .ok ⟨uri⟩ :=
  codec_decode_eq_ok_iff.mpr (decode_of_announces (announces_write h))

/-- **What was written is read back.** An event whose URI is not blank has a payload, which holds the event just
as it is; an event whose URI is blank has none. -/
theorem encode_then_decode (e : OrderReceived) :
    (trim e.referenceUri ≠ "" → e.referenceUri.utf8ByteSize < 2 ^ 63 →
      ∃ payload, Codec.wire.encode e = .ok payload ∧ Codec.wire.decode payload = .ok e) ∧
    (trim e.referenceUri = "" → Codec.wire.encode e = .error (.encoding "order URI is blank")) := by
  exact ⟨fun hblank hlen => ⟨_, codec_encode_of_not_blank hblank, codec_decode_write hlen⟩, codec_encode_of_blank⟩

/-- A URI with blanks around it and a letter of two bytes, and one of blanks alone. -/
theorem spaced_then_decoded :
    (trim " /orders/\u00C4 " ≠ "" ∧ ∃ payload, Codec.wire.encode ⟨" /orders/\u00C4 "⟩ = .ok payload ∧
      Codec.wire.decode payload = .ok ⟨" /orders/\u00C4 "⟩) ∧
    trim " \u3000" = "" ∧ Codec.wire.encode ⟨" \u3000"⟩ = .error (.encoding "order URI is blank") := by
  have hspaced : trim " /orders/\u00C4 " ≠ "" := by decide
  have hblank : trim " \u3000" = "" := by decide
  exact ⟨⟨hspaced, (encode_then_decode ⟨" /orders/\u00C4 "⟩).1 hspaced (by decide)⟩, hblank,
    (encode_then_decode ⟨" \u3000"⟩).2 hblank⟩

end OrderRelay.Wire
