import OrderRelay.Order.Event
import OrderRelay.Text.Utf8
import OrderRelay.Wire.Varint

/-!
# The wire form of an event

An event is written as the byte length of its URI, a variable-length integer, followed by the bytes of
the URI. Reading wants exactly these two parts: no byte may be missing and none left over.

* `Codec`, a pair of functions between events and payloads, with `CodecError`;
* `Wire.encode` and `Wire.decode`, with `WireFault`, the first thing wrong with a payload;
* `Codec.wire`, the two as a codec.
-/

namespace OrderRelay

open Text

/-- Why an event could not be written, or a payload not read, with the reason in words. -/
inductive CodecError where
  | encoding (reason : String)
  | decoding (reason : String)
deriving DecidableEq, Repr

/-- The message of an error. -/
def CodecError.message : CodecError → String
  | encoding reason => "encoding failed: " ++ reason
  | decoding reason => "decoding failed: " ++ reason

/-- A way to write events as payloads and to read them back. -/
structure Codec where
  encode : OrderReceived → Except CodecError (List UInt8)
  decode : List UInt8 → Except CodecError OrderReceived

/-- What is wrong with a payload. -/
inductive WireFault where
  | lengthTooLong
  | lengthCut
  | negativeLength (length : Int)
  /-- More bytes are announced than follow. -/
  | shortBody (announced available : Nat)
  | trailing (count : Nat)
  | notText (defect : Utf8Defect)
deriving DecidableEq, Repr

/-- The fault in words. -/
def WireFault.reason : WireFault → String
  | lengthTooLong => "varint longer than 10 bytes"
  | lengthCut => "unexpected end of data reading length"
  | negativeLength length => "negative string length " ++ toString length
  | shortBody announced available =>
    "string length " ++ toString announced ++ " exceeds remaining data " ++ toString available
  | trailing count => toString count ++ " trailing bytes after order URI"
  | notText defect => "invalid UTF-8 in order URI: " ++ defect.message

namespace Wire

/-- The payload of an event. An event whose URI is blank has none. -/
def encode (e : OrderReceived) : Option (List UInt8) :=
  if isBlankText e.referenceUri then none
  else
    let body := bytesOf e.referenceUri
    some (Varint.write (Int64.ofNat body.length) ++ body)

/-- The text that a whole list of bytes spells. -/
def decodeBody (body : List UInt8) : Except WireFault OrderReceived :=
  match textOf? body with
  | some uri => .ok ⟨uri⟩
  | none => .error (.notText ((Utf8Defect.find body).getD (.cut 0)))

/-- The event that a payload holds. -/
def decode (payload : List UInt8) : Except WireFault OrderReceived :=
  match Varint.read payload with
  | .error .tooLong => .error .lengthTooLong
  | .error .cut => .error .lengthCut
  | .ok (length, body) =>
    if length.toInt < 0 then .error (.negativeLength length.toInt)
    else
      let announced := length.toInt.toNat
      if body.length < announced then .error (.shortBody announced body.length)
      else if announced < body.length then .error (.trailing (body.length - announced))
      else decodeBody body

end Wire

/-- The wire form as a codec. -/
def Codec.wire : Codec where
  encode e := match Wire.encode e with
    | some payload => .ok payload
    | none => .error (.encoding "order URI is blank")
  decode payload := match Wire.decode payload with
    | .ok e => .ok e
    | .error fault => .error (.decoding fault.reason)

end OrderRelay
