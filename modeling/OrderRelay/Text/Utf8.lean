/-!
# Bytes and texts

The bytes of a text are its UTF-8 form. Not every list of bytes is the form of a text; `Utf8Defect` says
where a list stops being one.

* `bytesOf`, `textOf?` and their law `textOf?_eq_some_iff`: a list reads as `s` exactly when it is the
  form of `s`;
* `Utf8Defect`, `Utf8Defect.find`: the first place where no text can go on, and how many bytes the broken
  character covers, if they are all there.
-/

namespace OrderRelay.Text

/-- The UTF-8 form of a text. -/
def bytesOf (s : String) : List UInt8 := s.toByteArray.data.toList

/-- The text whose UTF-8 form the bytes are, if there is one. -/
def textOf? (bytes : List UInt8) : Option String := String.fromUTF8? ⟨bytes.toArray⟩

theorem textOf?_bytesOf (s : String) : textOf? (bytesOf s) = some s := by
  have h : (⟨(bytesOf s).toArray⟩ : ByteArray) = s.toByteArray := by
    simp [bytesOf]
  simp [textOf?, h, String.fromUTF8?, s.isValidUTF8, String.fromUTF8]

/-- The bytes read as `s` exactly when they are the form of `s`. -/
theorem textOf?_eq_some_iff {bytes : List UInt8} {s : String} :
    textOf? bytes = some s ↔ bytes = bytesOf s := by
  constructor
  · intro h
    simp only [textOf?, String.fromUTF8?] at h
    split at h
    · simp only [Option.some.injEq] at h
      subst h
      simp [bytesOf, String.fromUTF8]
    · simp at h
  · rintro rfl
    exact textOf?_bytesOf s

/-! ## Where a list of bytes breaks off -/

/-- The first fault in a list of bytes that is not the form of a text. -/
inductive Utf8Defect where
  /-- The `count` bytes from `index` on cannot begin a character. -/
  | broken (count index : Nat)
  /-- The bytes from `index` on begin a character and end before it does. -/
  | cut (index : Nat)
deriving DecidableEq, Repr

/-- The number of bytes before the fault, which are the form of a text. -/
def Utf8Defect.index : Utf8Defect → Nat
  | .broken _ index => index
  | .cut index => index

/-- What the fault is called in a message. -/
def Utf8Defect.message : Utf8Defect → String
  | .broken count index =>
    "invalid utf-8 sequence of " ++ toString count ++ " bytes from index " ++ toString index
  | .cut index => "incomplete utf-8 byte sequence from index " ++ toString index

/-- After a leading byte: how many bytes follow it, and the range of the first of them. -/
def tailOf (b : UInt8) : Option (Nat × UInt8 × UInt8) :=
  if 0xC2 ≤ b && b ≤ 0xDF then some (1, 0x80, 0xBF)
  else if b == 0xE0 then some (2, 0xA0, 0xBF)
  else if b == 0xED then some (2, 0x80, 0x9F)
  else if 0xE1 ≤ b && b ≤ 0xEF then some (2, 0x80, 0xBF)
  else if b == 0xF0 then some (3, 0x90, 0xBF)
  else if 0xF1 ≤ b && b ≤ 0xF3 then some (3, 0x80, 0xBF)
  else if b == 0xF4 then some (3, 0x80, 0x8F)
  else none

/-- Walk over the bytes. `owed` is what the character at `start` still lacks: a number of bytes and the
range of the next one. -/
def Utf8Defect.walk (start index owed : Nat) (low high : UInt8) : List UInt8 → Option Utf8Defect
  | [] => if owed = 0 then none else some (.cut start)
  | b :: rest =>
    if owed = 0 then
      if b < 0x80 then walk (index + 1) (index + 1) 0 0 0 rest
      else match tailOf b with
        | none => some (.broken 1 index)
        | some (n, low', high') => walk index (index + 1) n low' high' rest
    else if low ≤ b && b ≤ high then
      if owed = 1 then walk (index + 1) (index + 1) 0 0 0 rest
      else walk start (index + 1) (owed - 1) 0x80 0xBF rest
    else some (.broken (index - start) start)

/-- The first fault of the bytes, none if they are the form of a text. -/
def Utf8Defect.find (bytes : List UInt8) : Option Utf8Defect := walk 0 0 0 0 0 bytes

end OrderRelay.Text
