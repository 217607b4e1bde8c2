import OrderRelay.Proofs.Order.NormalForms
import OrderRelay.Proofs.Processing.Calls
import OrderRelay.Proofs.Wire.Shortest

/-!
# Moving on from tier to tier

An event moves on without the blanks around its URI, and in the shortest wire form. Both are done with after the first
move: the payload is the same from then on, and the handler answers to it as before. An event of nothing but blanks
has no wire form, and is given up.

* `Processor.FailsInPassing`, and `Processor.sent`, the envelopes that leave a processor while it works off a record;
* `exists_sent_of_encoded`, `given_up_of_not_encoded`: what becomes of a record whose event fails in passing;
* `Relays`, `GivesUp`: the same, whatever the processor of a tier is like;
* **`normalised_once`**: the two moves of an accepted payload, and what the handler answers on the way.
-/

namespace OrderRelay

open Text

/-! ## A failure in passing -/

namespace Processor

variable {σ ε : Type}

/-- The record's event is not handled, for a passing reason. -/
def FailsInPassing (p : Processor σ ε) (r : ConsumedRecord) (x : σ) : Prop :=
  ∃ cause, (p.evaluate r x).1.2 = .failure .transient cause

/-- The envelopes that the publisher is called with while the record is worked off. -/
def sent (p : Processor σ ε) (c : Subscription σ) (r : ConsumedRecord) (x : σ) : List Envelope :=
  (p.noting.handleRecord (c.noting ε) r ⟨x, []⟩).2.calls.filterMap Call.envelope?

variable {p : Processor σ ε} {r : ConsumedRecord} {x : σ} {e : OrderReceived} {next : Tier}

/-- An event that fails in passing was handed to the handler once. -/
theorem FailsInPassing.exists_evaluate (hf : p.FailsInPassing r x) (hd : p.codec.decode r.payload = .ok e) :
    ∃ err cause y, p.evaluate r x = ((some e, .failure .transient cause), y) ∧
      p.noting.evaluate r ⟨x, []⟩ = ((some e, .failure .transient cause), ⟨y, [.handled e (.error err)]⟩) := by
  obtain ⟨cause, hcause⟩ := hf
  obtain ⟨answer, y, he, hn⟩ := evaluate_noting_of_ok p r hd x
  rw [he] at hcause
  change p.outcomeOf answer = .failure .transient cause at hcause
  cases answer with
  | ok done => exact nomatch hcause
  | error err =>
    rw [hcause] at he hn
    exact ⟨err, cause, y, he, hn []⟩

theorem plan_of_transient_outcome (hnext : p.tier.next = some next) (cause : String) :
    p.plan r (some e, .failure .transient cause) = p.escalation r e next := by
  simp only [plan, hnext]

theorem filterMap_envelope?_settled (calls : List (Call ε)) (r : ConsumedRecord) (resolution : Resolution)
    (answer : Except ConsumeError Unit) :
    (calls ++ [Call.settling r resolution answer]).filterMap Call.envelope? = calls.filterMap Call.envelope? := by
  have hnone : (Call.settling r resolution answer : Call ε).envelope? = none := by
    unfold Call.settling
    split <;> rfl
  rw [List.filterMap_append, List.filterMap_cons_none hnone, List.filterMap_nil, List.append_nil]

variable (hd : p.codec.decode r.payload = .ok e) (hf : p.FailsInPassing r x) (hnext : p.tier.next = some next)
include hd hf hnext

/-- An event that fails in passing and can be written leaves once, for the next tier and without blanks around it. -/
theorem exists_sent_of_encoded {payload : List UInt8} (hencode : p.codec.encode e.trimmed = .ok payload)
    (c : Subscription σ) : ∃ now answer,
      p.sent c r x = [p.envelope next (p.republishKey.resolve (r.key.getD "")) payload now] ∧
        (p.handleRecord c r x).1 = resolutionOf next answer := by
  obtain ⟨err, cause, y, he, hn⟩ := hf.exists_evaluate hd
  have hplan : p.plan r (some e, .failure .transient cause) =
      .escalate next (p.republishKey.resolve (r.key.getD "")) payload := by
    rw [plan_of_transient_outcome hnext, escalation, hencode]
  obtain ⟨now, answer, z, hc, hnc⟩ :=
    carryOut_noting_escalate p next (p.republishKey.resolve (r.key.getD "")) payload y
  obtain ⟨settled, z', hh, hnh⟩ := exists_handleRecord p r (resolve_eq he (by rw [hplan]; exact hc))
    (resolve_eq hn (by rw [plan_noting, hplan]; exact hnc _)) c
  refine ⟨now, answer, ?_, by rw [hh]⟩
  rw [sent, hnh, filterMap_envelope?_settled]
  rfl

/-- An event that fails in passing and cannot be written is given up, and nothing leaves. -/
theorem given_up_of_not_encoded {fault : CodecError} (hencode : p.codec.encode e.trimmed = .error fault)
    (c : Subscription σ) :
    p.sent c r x = [] ∧ (p.handleRecord c r x).1 = .dropped .permanent fault.message := by
  obtain ⟨err, cause, y, he, hn⟩ := hf.exists_evaluate hd
  have hplan : p.plan r (some e, .failure .transient cause) = .finish (.dropped .permanent fault.message) := by
    rw [plan_of_transient_outcome hnext, escalation, hencode]
  obtain ⟨settled, z', hh, hnh⟩ := exists_handleRecord p r (resolve_eq he (by rw [hplan]; rfl))
    (resolve_eq hn (by rw [plan_noting, hplan]; rfl)) c
  refine ⟨?_, by rw [hh]⟩
  rw [sent, hnh, filterMap_envelope?_settled]
  rfl

end Processor

/-! ## Two moves -/

/-- A record of a tier with the payload, whose event fails in passing, leaves once as `written`, for the tier `next`,
whatever the rest of the processor and its consumer are like. -/
def Relays (t next : Tier) (payload written : List UInt8) : Prop :=
  ∀ (σ ε : Type) (p : Processor σ ε) (c : Subscription σ) (r : ConsumedRecord) (x : σ),
    p.tier = t → p.codec = .wire → r.payload = payload → p.FailsInPassing r x →
      ∃ envelope answer, p.sent c r x = [envelope] ∧ envelope.payload = written ∧
        envelope.destination = p.topology.channelName next ∧
        (p.handleRecord c r x).1 = Processor.resolutionOf next answer

/-- A record of a tier with the payload, whose event fails in passing, is given up for good, and nothing leaves. -/
def GivesUp (t : Tier) (payload : List UInt8) : Prop :=
  ∀ (σ ε : Type) (p : Processor σ ε) (c : Subscription σ) (r : ConsumedRecord) (x : σ),
    p.tier = t → p.codec = .wire → r.payload = payload → p.FailsInPassing r x →
      p.sent c r x = [] ∧ ∃ cause, (p.handleRecord c r x).1 = .dropped .permanent cause

section Moves

variable {t next : Tier} {payload written : List UInt8} {e : OrderReceived}

theorem relays_of_encoded (hnext : t.next = some next) (hd : Codec.wire.decode payload = .ok e)
    (hencode : Codec.wire.encode e.trimmed = .ok written) : Relays t next payload written := by
  intro σ ε p c r x ht hcodec hpayload hf
  subst ht hpayload
  rw [← hcodec] at hd hencode
  obtain ⟨now, answer, hsent, hresolution⟩ := Processor.exists_sent_of_encoded hd hf hnext hencode c
  exact ⟨_, answer, hsent, rfl, rfl, hresolution⟩

theorem givesUp_of_blank (hnext : t.next = some next) (hd : Codec.wire.decode payload = .ok e)
    (hblank : trim e.referenceUri = "") : GivesUp t payload := by
  intro σ ε p c r x ht hcodec hpayload hf
  subst ht hpayload
  have hencode : Codec.wire.encode e.trimmed = .error (.encoding "order URI is blank") :=
    Wire.codec_encode_of_blank ((trim_trim e.referenceUri).trans hblank)
  rw [← hcodec] at hd hencode
  obtain ⟨hsent, hresolution⟩ := Processor.given_up_of_not_encoded hd hf hnext hencode c
  exact ⟨hsent, _, hresolution⟩

theorem trimmed_trimmed (e : OrderReceived) : e.trimmed.trimmed = e.trimmed :=
  congrArg OrderReceived.mk (trim_trim e.referenceUri)

/-- The event of an accepted payload can be written without the blanks around it, if it has anything else. -/
theorem exists_encode_trimmed (hd : Codec.wire.decode payload = .ok e) (hblank : trim e.referenceUri ≠ "") :
    ∃ written, Codec.wire.encode e.trimmed = .ok written ∧ Codec.wire.decode written = .ok e.trimmed := by
  obtain ⟨-, -, -, -, hsize⟩ := Wire.exists_parts hd
  rw [Wire.length_bytesOf] at hsize
  have htrimmed : e.trimmed.referenceUri.utf8ByteSize < 2 ^ 63 :=
    Nat.lt_of_le_of_lt (utf8ByteSize_trim_le e.referenceUri) hsize
  have hblank' : trim e.trimmed.referenceUri ≠ "" := fun h => hblank ((trim_trim e.referenceUri).symm.trans h)
  exact ⟨_, Wire.codec_encode_of_not_blank hblank', Wire.codec_decode_write htrimmed⟩

/-- What is known of an accepted payload that moves on. -/
structure Normalised (payload : List UInt8) (e : OrderReceived) : Prop where
  /-- It is written anew at the first move, and moves on unchanged at the second. -/
  moves_on : trim e.referenceUri ≠ "" → ∃ written, Codec.wire.encode e.trimmed = .ok written ∧
    Relays .main .retry payload written ∧ Relays .retry .error written written ∧
    Codec.wire.decode written = .ok e.trimmed
  handled_iff : ∀ (σ : Type) (report : Log.Entry → StateM σ Unit) (x y : σ),
    (OrderHandler.handle report e.trimmed x).1 = .ok () ↔ (OrderHandler.handle report e y).1 = .ok ()
  gives_up : trim e.referenceUri = "" → GivesUp .main payload ∧ GivesUp .retry payload

/-- **Events are normalised once, and keep their meaning.** -/
theorem normalised_once (payload : List UInt8) (e : OrderReceived) (h : Codec.wire.decode payload = .ok e) :
    Normalised payload e where
  moves_on hblank := by
    obtain ⟨written, hencode, hdecode⟩ := exists_encode_trimmed h hblank
    have hagain : Codec.wire.encode e.trimmed.trimmed = .ok written := by rw [trimmed_trimmed, hencode]
    exact ⟨written, hencode, relays_of_encoded rfl h hencode, relays_of_encoded rfl hdecode hagain, hdecode⟩
  handled_iff σ report x y := by
    rw [OrderHandler.handle_eq_ok_iff, OrderHandler.handle_eq_ok_iff]
    exact exists_congr fun r => OrderReference.ofUri_trim_eq_ok_iff
  gives_up hblank := ⟨givesUp_of_blank rfl h hblank, givesUp_of_blank rfl h hblank⟩

end Moves

/-- A processor that handles no event, for a passing reason, and whose publisher takes everything. -/
def straining (t : Tier) : Processor Unit Unit where
  tier := t
  topology := .standard
  codec := .wire
  handle _ := pure (.error ())
  classify _ := .transient
  describe _ := "busy"
  publish _ := pure (.ok ⟨0, 0⟩)
  clock := pure 0
  republishKey := .retryChannel .standard
  report _ := pure ()

/-- A consumer of an empty channel. -/
def idle : Subscription Unit where
  channel := "order-received"
  poll _ := pure (.ok none)
  commit _ := pure (.ok ())
  rewind _ := pure (.ok ())
  pause _ := pure (.ok ())
  watermarks _ := pure (.ok ⟨0, 0⟩)

/-- A record with a payload. -/
def carrying (payload : List UInt8) : ConsumedRecord := ⟨"order-received", "g", 0, 0, none, payload, none⟩

/-- A payload with blanks around the URI and a length that is longer than it needs to be, and one of a blank alone. -/
theorem normalised_once_spaced :
    (Codec.wire.decode [0x88, 0x00, 0x20, 0x2F, 0x61, 0x0A] = .ok ⟨" /a\n"⟩ ∧ trim " /a\n" ≠ "" ∧
      (straining .main).FailsInPassing (carrying [0x88, 0x00, 0x20, 0x2F, 0x61, 0x0A]) () ∧
      ((straining .main).sent idle (carrying [0x88, 0x00, 0x20, 0x2F, 0x61, 0x0A]) ()).map (·.payload) =
        [[4, 0x2F, 0x61]] ∧
      ((straining .retry).sent idle (carrying [4, 0x2F, 0x61]) ()).map (·.payload) = [[4, 0x2F, 0x61]] ∧
      Normalised [0x88, 0x00, 0x20, 0x2F, 0x61, 0x0A] ⟨" /a\n"⟩) ∧
    Codec.wire.decode [2, 0x20] = .ok ⟨" "⟩ ∧ trim " " = "" ∧
      (straining .retry).FailsInPassing (carrying [2, 0x20]) () ∧
      (straining .retry).sent idle (carrying [2, 0x20]) () = [] ∧ Normalised [2, 0x20] ⟨" "⟩ := by
  have hspaced : Codec.wire.decode [0x88, 0x00, 0x20, 0x2F, 0x61, 0x0A] = .ok ⟨" /a\n"⟩ := rfl
  have hblank : Codec.wire.decode [2, 0x20] = .ok ⟨" "⟩ := rfl
  exact ⟨⟨hspaced, by decide, ⟨"busy", rfl⟩, by decide +kernel, by decide +kernel, normalised_once _ _ hspaced⟩,
    hblank, by decide, ⟨"busy", rfl⟩, rfl, normalised_once _ _ hblank⟩

end OrderRelay
