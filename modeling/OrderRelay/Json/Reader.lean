import OrderRelay.Json.Fault
import OrderRelay.Text.Utf8

/-!
# Reading a document

A reader takes bytes off a document and gives a value or a fault. What it has taken stays taken when it
fails, and the place of a fault counts the bytes taken so far.

* `Cursor`, the rest of a document and the place where it begins; `Reader`;
* `peek`, `next?`, `skip`, `skipBlanks`: bytes;
* `fail` and `failPeek`: a fault here, or one byte further on;
* `placed`: give the place where a reader ended to a fault that has none yet;
* `word`, `stringBody`: literal words, and strings after their opening quote.
-/

namespace OrderRelay.Json

open Text

/-- What is left of a document, and where it begins. -/
structure Cursor where
  rest : List UInt8
  place : Place
deriving DecidableEq, Repr

namespace Cursor

/-- The beginning of a document. -/
def start (bytes : List UInt8) : Cursor := ⟨bytes, ⟨1, 0⟩⟩

/-- One byte further on; the end of the document is not passed. -/
def advance (c : Cursor) : Cursor :=
  match c.rest with
  | [] => c
  | b :: rest =>
    if b == 0x0A then ⟨rest, ⟨c.place.line + 1, 0⟩⟩
    else ⟨rest, ⟨c.place.line, c.place.column + 1⟩⟩

end Cursor

/-- Something that takes bytes off a document. -/
abbrev Reader := ExceptT Fault (StateM Cursor)

namespace Reader

variable {α : Type}

/-- The next byte, left where it is. -/
def peek : Reader (Option UInt8) := return (← get).rest.head?

/-- Take one byte. -/
def skip : Reader Unit := modify Cursor.advance

/-- Take the next byte. -/
def next? : Reader (Option UInt8) := do
  let b ← peek
  skip
  return b

/-- The next byte, zero at the end. -/
def peekOrZero : Reader UInt8 := return (← peek).getD 0

/-- A fault at this place. -/
def fail (cause : Cause) : Reader α := do throw ⟨cause, some (← get).place⟩

/-- A fault at the next byte, which counts as taken. -/
def failPeek (cause : Cause) : Reader α := do throw ⟨cause, some (← get).advance.place⟩

/-- A fault whose place is not known here. -/
def failUnplaced (cause : Cause) : Reader α := throw ⟨cause, none⟩

/-- A fault without a place gets the one where the reader ended. -/
def placed (r : Reader α) : Reader α :=
  tryCatch r fun f => do
    match f.place with
    | some _ => throw f
    | none => throw { f with place := some (← get).place }

/-- The bytes between the parts of a document. -/
def isBlankByte (b : UInt8) : Bool := b == 0x20 || b == 0x0A || b == 0x09 || b == 0x0D

/-- What is left after the blanks at a place. -/
def afterBlanks (place : Place) : List UInt8 → Cursor
  | [] => ⟨[], place⟩
  | b :: rest =>
    if isBlankByte b then
      afterBlanks (if b == 0x0A then ⟨place.line + 1, 0⟩ else ⟨place.line, place.column + 1⟩) rest
    else ⟨b :: rest, place⟩

/-- Take all blanks, and look at the byte after them. -/
def skipBlanks : Reader (Option UInt8) := do
  modify fun c => afterBlanks c.place c.rest
  peek

/-- Take the bytes of a word. -/
def word : List UInt8 → Reader Unit
  | [] => return
  | w :: ws => do
    match ← next? with
    | none => fail .eofBeforeValue
    | some b => if b == w then word ws else fail .expectedWord

/-! ## Strings -/

/-- The value of a hexadecimal digit. -/
def hexValue? (b : UInt8) : Option Nat :=
  if 0x30 ≤ b && b ≤ 0x39 then some (b.toNat - 0x30)
  else if 0x41 ≤ b && b ≤ 0x46 then some (b.toNat - 0x41 + 10)
  else if 0x61 ≤ b && b ≤ 0x66 then some (b.toNat - 0x61 + 10)
  else none

/-- The number that hexadecimal digits spell. -/
def hexNumber? (bs : List UInt8) : Option Nat :=
  bs.foldl (fun acc b => acc.bind fun n => (hexValue? b).map fun d => 16 * n + d) (some 0)

/-- Take the four digits of an escape. -/
def hexEscape : Reader Nat := do
  let digits := (← get).rest.take 4
  digits.forM fun _ => skip
  if digits.length < 4 then fail .eofInString
  else match hexNumber? digits with
    | some n => return n
    | none => fail .invalidEscape

/-- Take a byte of a string. -/
def nextInString : Reader UInt8 := do
  match ← next? with
  | some b => return b
  | none => fail .eofInString

/-- The byte of a string that comes next. -/
def peekInString : Reader UInt8 := do
  match ← peek with
  | some b => return b
  | none => fail .eofInString

/-- Take the second half of a pair of surrogates, and give the character they stand for. -/
def secondSurrogate (high : Nat) : Reader Char := do
  let backslash ← peekInString
  skip
  if backslash != 0x5C then fail .endOfHexEscape
  let u ← peekInString
  skip
  if u != 0x75 then fail .endOfHexEscape
  let low ← hexEscape
  if low < 0xDC00 ∨ 0xDFFF < low then fail .loneSurrogate
  return Char.ofNat ((high - 0xD800) * 0x400 + (low - 0xDC00) + 0x10000)

/-- Take a character given by its code, after the letter `u`. -/
def codeEscape : Reader Char := do
  let n ← hexEscape
  if 0xDC00 ≤ n ∧ n ≤ 0xDFFF then fail .loneSurrogate
  else if 0xD800 ≤ n ∧ n ≤ 0xDBFF then secondSurrogate n
  else return Char.ofNat n

/-- What a letter after a backslash stands for. -/
def simpleEscape? (b : UInt8) : Option UInt8 :=
  if b == 0x22 || b == 0x5C || b == 0x2F then some b
  else if b == 0x62 then some 0x08
  else if b == 0x66 then some 0x0C
  else if b == 0x6E then some 0x0A
  else if b == 0x72 then some 0x0D
  else if b == 0x74 then some 0x09
  else none

/-- Take an escape after its backslash: the bytes it stands for. -/
def escape : Reader (List UInt8) := do
  let b ← nextInString
  if b == 0x75 then return bytesOf (← codeEscape).toString
  else match simpleEscape? b with
    | some c => return [c]
    | none => fail .invalidEscape

/-- The text of the bytes between two quotes; the closing one is taken. If they are no text, the place of
the fault is counted back from there: one byte for each from the first broken one on. -/
def closeString (bytes : List UInt8) : Reader String := do
  skip
  match Utf8Defect.find bytes, textOf? bytes with
  | none, some s => return s
  | defect, _ => do
    let place := (← get).place
    let broken := bytes.length - (defect.map Utf8Defect.index).getD 0
    throw ⟨.invalidCodePoint, some ⟨place.line, place.column - broken⟩⟩

/-- Take a string after its opening quote. Each step takes a byte, so `fuel` bytes are enough. -/
def stringLoop : (fuel : Nat) → (reversed : List UInt8) → Reader String
  | 0, _ => fail .eofInString
  | fuel + 1, reversed => do
    match ← peek with
    | none => fail .eofInString
    | some b =>
      if b == 0x22 then closeString reversed.reverse
      else
        skip
        if b == 0x5C then stringLoop fuel ((← escape).reverse ++ reversed)
        else if b < 0x20 then fail .controlCharacter
        else stringLoop fuel (b :: reversed)

/-- Take a string after its opening quote. -/
def stringBody : Reader String := do stringLoop ((← get).rest.length + 1) []

/-- Pass over an escape after its backslash. -/
def skipEscape : Reader Unit := do
  let b ← nextInString
  if b == 0x75 then
    let _ ← hexEscape
  else if (simpleEscape? b).isNone then fail .invalidEscape

/-- Pass over a string after its opening quote. -/
def skipStringLoop : (fuel : Nat) → Reader Unit
  | 0 => fail .eofInString
  | fuel + 1 => do
    match ← peek with
    | none => fail .eofInString
    | some b =>
      if b == 0x22 then skip
      else if b == 0x5C then
        skip
        skipEscape
        skipStringLoop fuel
      else if b < 0x20 then fail .controlCharacter
      else
        skip
        skipStringLoop fuel

/-- Pass over a string after its opening quote, whatever its characters are. -/
def skipString : Reader Unit := do skipStringLoop ((← get).rest.length + 1)

/-- Run a reader over a whole document, which may end in blanks but in nothing else. -/
def document (r : Reader α) (bytes : List UInt8) : Except Fault α :=
  let whole : Reader α := do
    let a ← r
    match ← skipBlanks with
    | none => return a
    | some _ => failPeek .trailingCharacters
  (whole.run.run (Cursor.start bytes)).1

end Reader

end OrderRelay.Json
