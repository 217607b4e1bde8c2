import OrderRelay.Proofs.Bus.Logs
import OrderRelay.Proofs.Order.NormalForms
import OrderRelay.Proofs.Processing.Calls
import OrderRelay.Proofs.Services.Exclusivity
import OrderRelay.Proofs.Wire.RoundTrip

/-!
# New orders

A new order is put onto the main channel as one record, or nothing changes. What is checked on the way in is what the
worker of the main tier checks on the way out: it reads back the event that was written, and the handler finds the
reference from which it was made. So a new order is never given up later.

* `Processor.completed_of_handled`: a record whose event is handled is completed, whatever is behind the processor;
* `Injection`, what is known of a new order, and **`injected_or_unchanged`**: it holds of every order, whatever the
  services and their bus are like.
-/

namespace OrderRelay

open Text

/-! ## Processing -/

section Processing

variable {σ ε : Type} {p : Processor σ ε}

/-- A record whose event is handled is completed, whatever comes of committing it. -/
theorem Processor.completed_of_handled {r : ConsumedRecord} {e : OrderReceived} (hd : p.codec.decode r.payload = .ok e)
    (hh : ∀ x, (p.handle e x).1 = .ok ()) (subscription : Subscription σ) (x : σ) :
    (p.handleRecord subscription r x).1 = .completed := by
  obtain ⟨u, x₁, hreported⟩ : ∃ u x₁, p.report (p.receivedEntry r e) x = (u, x₁) := ⟨_, _, rfl⟩
  obtain ⟨answer, y, hhandled⟩ : ∃ answer y, p.handle e x₁ = (answer, y) := ⟨_, _, rfl⟩
  have hanswer : (p.handle e x₁).1 = .ok () := hh x₁
  rw [hhandled] at hanswer
  obtain rfl : answer = .ok () := hanswer
  have he : p.evaluate r x = ((some e, .success), y) := by
    simp only [Processor.evaluate, hd, bind, StateT.bind, hreported, hhandled]
    rfl
  have hresolved : p.resolve r x = ((e.referenceUri, .completed), y) := Processor.resolve_eq he rfl
  simp only [Processor.handleRecord, bind, StateT.bind, hresolved]
  rfl

end Processing

/-! ## The event about a reference -/

namespace OrderReference

variable (r : OrderReference)

/-- The payload of the event about the reference. -/
def payload : List UInt8 := Varint.write (.ofNat (bytesOf r.uri).length) ++ bytesOf r.uri

theorem uri_ne_empty : r.uri ≠ "" := fun h => by
  have hlist := congrArg String.toList h
  rw [toList_uri] at hlist
  exact absurd (List.append_eq_nil_iff.mp hlist).1 (by decide)

theorem encode_ofReference : Codec.wire.encode (.ofReference r) = .ok r.payload := by
  have hblank : trim (OrderReceived.ofReference r).referenceUri ≠ "" := r.trim_uri ▸ r.uri_ne_empty
  exact Wire.codec_encode_of_not_blank hblank

theorem decode_payload (h : r.uri.utf8ByteSize < 2 ^ 63) : Codec.wire.decode r.payload = .ok (.ofReference r) :=
  Wire.codec_decode_write h

/-- The worker of the main tier completes a record with that payload. -/
theorem completed_of_payload (topology : Topology) {record : ConsumedRecord} (hr : record.payload = r.payload)
    (h : r.uri.utf8ByteSize < 2 ^ 63) (subscription : Subscription Scene) (x : Scene) :
    ((Scene.processor topology .main).handleRecord subscription record x).1 = .completed := by
  have hd : (Scene.processor topology .main).codec.decode record.payload = .ok (.ofReference r) := by
    rw [hr]
    exact r.decode_payload h
  have hh (y : Scene) : ((Scene.processor topology .main).handle (.ofReference r) y).1 = .ok () := by
    show (OrderHandler.handle Scene.report (.ofReference r) y).1 = .ok ()
    exact OrderHandler.handle_eq_ok_iff.mpr ⟨r, r.ofUri_uri⟩
  exact Processor.completed_of_handled hd hh subscription x

end OrderReference

/-! ## New orders -/

/-- Without the blanks at its ends the text has a character, and none but letters and digits of ASCII, hyphens and
underscores. -/
def NamesOrder (order : String) : Prop := trim order ≠ "" ∧ ∀ c ∈ (trim order).toList, IsPlainChar c

/-- The record as a consumer of a group reads it from its place. -/
def Injected.consumed (i : Injected) (group : String) (stored : StoredRecord) : ConsumedRecord :=
  ⟨i.channel, group, i.position.partition, i.position.offset, some stored.key, stored.payload, some stored.timestamp⟩

namespace Services

variable {s s' : Services} {now : Int} {order : String} {i : Injected}

/-- What is known of a new order that was put onto the main channel. -/
structure Stored (s : Services) (now : Int) (order : String) (i : Injected) (s' : Services) : Prop where
  channel_eq : i.channel = s.config.topology.channelName .main
  uri_eq : i.referenceUri = "/orders/" ++ trim order
  /-- The record is the last one of the partition that its key belongs to. -/
  position_eq : i.position = ⟨s.bus.partitionOf i.referenceUri,
    s.bus.high i.channel (s.bus.partitionOf i.referenceUri)⟩
  committed_eq : s'.bus.committed = s.bus.committed
  /-- It is all that is stored, and the worker of the main tier completes it. No text in memory is longer than the
  bound, past which its length has no signed number of 64 bits. -/
  exists_record : ∃ stored : StoredRecord, stored.key = i.referenceUri ∧
    (∀ c p, s'.bus.log c p = if c = i.channel ∧ p = i.position.partition then (s.bus.log c p).append stored
      else s.bus.log c p) ∧
    (i.referenceUri.utf8ByteSize < 2 ^ 63 → ∀ group subscription x,
      ((s.config.worker .main).processor.handleRecord subscription (i.consumed group stored) x).1 = .completed)

/-- What is known of a new order. -/
structure Injection (s : Services) (now : Int) (order : String) : Prop where
  refused_iff : (∃ err, s.inject now order = .error (.reference err)) ↔ ¬ NamesOrder order
  unpublished_iff : (∃ err, s.inject now order = .error (.publish err)) ↔
    NamesOrder order ∧ s.bus.unavailable (s.config.topology.channelName .main) = true
  encoded : ∀ err, s.inject now order ≠ .error (.codec err)
  unchanged : ∀ err, s.inject now order = .error err → s.meet (.inject now order) = s
  stored : ∀ i s', s.inject now order = .ok (i, s') → s.meet (.inject now order) = s' ∧ Stored s now order i s'

theorem mapError_bind_of_error {ε ε' α β : Type} {x : Except ε α} {err : ε} (h : x = .error err) (f : ε → ε')
    (g : α → Except ε' β) : x.mapError f >>= g = .error (f err) := by
  rw [h]
  rfl

theorem mapError_bind_of_ok {ε ε' α β : Type} {x : Except ε α} {a : α} (h : x = .ok a) (f : ε → ε')
    (g : α → Except ε' β) : x.mapError f >>= g = g a := by
  rw [h]
  rfl

variable (s now) in
theorem inject_of_refused {err : ReferenceError} (h : OrderReference.parse order = .error err) :
    s.inject now order = .error (.reference err) := by
  rw [inject, mapError_bind_of_error h]

variable (s now) in
/-- A reference is put onto the main channel, if that takes it. -/
theorem inject_of_parsed {r : OrderReference} (h : OrderReference.parse order = .ok r) :
    s.inject now order =
      match s.bus.publish (envelopeOf s.config now (.ofReference r) r.payload) with
      | .ok (position, bus) =>
        let i : Injected := ⟨s.config.topology.channelName .main, position, r.uri⟩
        .ok (i, { s with bus }.logged poolThread [injectedEntry i])
      | .error err => .error (.publish err) := by
  rw [inject, mapError_bind_of_ok h]
  refine (mapError_bind_of_ok r.encode_ofReference _ _).trans ?_
  cases hpublish : s.bus.publish (envelopeOf s.config now (.ofReference r) r.payload) with
  | error err => rw [mapError_bind_of_error hpublish]
  | ok stored =>
    rw [mapError_bind_of_ok hpublish]
    rfl

theorem namesOrder_iff : NamesOrder order ↔ IsReferenceText (trim order) := isReferenceText_iff.symm

/-- The record of a reference that is stored. -/
theorem stored_of_publish {r : OrderReference} {position : Position} {bus : Bus} (htext : r.text = trim order)
    (h : s.bus.publish (envelopeOf s.config now (.ofReference r) r.payload) = .ok (position, bus))
    (hs' : s'.bus = bus) :
    Stored s now order ⟨s.config.topology.channelName .main, position, r.uri⟩ s' := by
  obtain ⟨-, -, hposition, -⟩ := Bus.publishTo_eq_ok_iff.mp h
  constructor
  case channel_eq => rfl
  case uri_eq =>
    rw [← htext]
    rfl
  case position_eq => exact hposition
  case committed_eq => rw [hs', Bus.committed_publishTo h]
  case exists_record =>
    refine ⟨⟨r.uri, r.payload, now⟩, rfl, fun c p => ?_, fun hsize group subscription x => ?_⟩
    · rw [hs', Bus.log_publishTo h, hposition]
      rfl
    · exact r.completed_of_payload s.config.topology rfl hsize subscription x

/-- **The three ways that a new order can go.** -/
theorem inject_cases (s : Services) (now : Int) (order : String) :
    (¬ NamesOrder order ∧ ∃ err, s.inject now order = .error (.reference err)) ∨
      (NamesOrder order ∧ s.bus.unavailable (s.config.topology.channelName .main) = true ∧
        ∃ err, s.inject now order = .error (.publish err)) ∨
      NamesOrder order ∧ s.bus.unavailable (s.config.topology.channelName .main) = false ∧
        ∃ i s', s.inject now order = .ok (i, s') ∧ Stored s now order i s' := by
  rcases OrderReference.parse_cases order with ⟨r, hparse, htext⟩ | ⟨hnot, err, hparse⟩
  · have hnames : NamesOrder order := namesOrder_iff.mpr (htext ▸ r.valid)
    have hinject := inject_of_parsed s now hparse
    have havailable := s.bus.exists_publish_eq_ok_iff (e := envelopeOf s.config now (.ofReference r) r.payload)
    cases hpublish : s.bus.publish (envelopeOf s.config now (.ofReference r) r.payload) with
    | error err =>
      rw [hpublish] at hinject havailable
      refine .inr (.inl ⟨hnames, ?_, err, hinject⟩)
      rw [← Bool.not_eq_false]
      intro hu
      obtain ⟨_, _, hok⟩ := havailable.mpr hu
      exact nomatch hok
    | ok stored =>
      have hu := havailable.mp ⟨stored.1, stored.2, hpublish⟩
      rw [hpublish] at hinject
      exact .inr (.inr ⟨hnames, hu, _, _, hinject, stored_of_publish htext hpublish rfl⟩)
  · exact .inl ⟨fun h => hnot (namesOrder_iff.mp h), err, inject_of_refused s now hparse⟩

/-- **New orders are put onto the main channel or change nothing**, and the worker of the main tier completes them. -/
theorem injected_or_unchanged (s : Services) (now : Int) (order : String) : Injection s now order := by
  rcases inject_cases s now order with ⟨hnot, err, h⟩ | ⟨hnames, hu, err, h⟩ | ⟨hnames, hu, i, s', h, hstored⟩
  · exact ⟨by simp [h, hnot], by simp [h, hnot], by simp [h], by simp [meet, h], by simp [h]⟩
  · exact ⟨by simp [h, hnames], by simp [h, hnames, hu], by simp [h], by simp [meet, h], by simp [h]⟩
  · refine ⟨by simp [h, hnames], by simp [h, hu], by simp [h], by simp [h], fun i' s'' h' => ?_⟩
    obtain ⟨rfl, rfl⟩ := Prod.mk.inj (Except.ok.inj (h.symm.trans h'))
    exact ⟨by rw [meet, h], hstored⟩

end Services

end OrderRelay
