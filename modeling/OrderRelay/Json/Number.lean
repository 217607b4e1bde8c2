import OrderRelay.Json.Reader
import OrderRelay.Text.Shortest

/-!
# Numbers in a document

A number without fraction and exponent that fits into a word is an integer; every other number is taken in
double precision: its digits as a word, as far as they fit, scaled by a power of ten.

* `Number`, `Number.found`;
* `showFloat`: the shortest decimal, positional while its first digit is between the fifth place after the
  point and the sixteenth before it, otherwise with an exponent that has a sign;
* `number`: take a number after its sign; `skipNumber`: pass over one.
-/

namespace OrderRelay.Json

open Text

/-- A number as it was read. -/
inductive Number where
  | natural (n : Nat)
  | negative (n : Int)
  | floating (x : Float)

/-- The digits of a decimal on the left and on the right of a point after `places` of them. -/
def positional (digits : String) (places : Int) : String :=
  let cs := digits.toList
  if places ≤ 0 then "0." ++ String.ofList (List.replicate (-places).toNat '0') ++ digits
  else
    let left := cs.take places.toNat ++ List.replicate (places.toNat - cs.length) '0'
    let right := cs.drop places.toNat
    String.ofList left ++ "." ++ (if right.isEmpty then "0" else String.ofList right)

/-- The digits of a decimal with a point after the first of them, and an exponent. -/
def scientific (digits : String) (exponent : Int) : String :=
  let cs := digits.toList
  let tail := cs.drop 1
  String.ofList (cs.take 1) ++ (if tail.isEmpty then "" else "." ++ String.ofList tail) ++ "e" ++
    (if exponent < 0 then "-" else "+") ++ toString exponent.natAbs

/-- A finite number of double precision as a text. -/
def showFloat (x : Float) : String :=
  let bits := x.toBits
  let sign := if 1 <<< 63 ≤ bits.toNat then "-" else ""
  let magnitude := Binary.ofBits bits
  if magnitude.mantissa = 0 then sign ++ "0.0"
  else
    let d := (shortest magnitude).strip 20
    let digits := toString d.digits
    -- the place of the point, counted from the first digit
    let places := (digits.length : Int) + d.exponent
    sign ++ if -5 < places ∧ places ≤ 16 then positional digits places
      else scientific digits (places - 1)

/-- What stands in a document where a number was read. -/
def Number.found : Number → Found
  | natural n => .integer n
  | negative n => .integer n
  | floating x => .floating (showFloat x)

namespace Reader

/-- The value of a decimal digit. -/
def digit? (b : UInt8) : Option Nat :=
  if 0x30 ≤ b && b ≤ 0x39 then some (b.toNat - 0x30) else none

/-- The digits after which a number no longer fits. -/
structure Digits where
  value : Nat
  count : Nat
  /-- A digit comes next that no longer fitted. -/
  more : Bool

/-- Take digits as long as `value`, continued by them, does not exceed `limit`. -/
def takeDigits (limit : Nat) : (fuel value count : Nat) → Reader Digits
  | 0, value, count => return ⟨value, count, false⟩
  | fuel + 1, value, count => do
    match digit? (← peekOrZero) with
    | none => return ⟨value, count, false⟩
    | some d =>
      if limit < 10 * value + d then return ⟨value, count, true⟩
      skip
      takeDigits limit fuel (10 * value + d) (count + 1)

/-- The bytes that are left. -/
def remaining : Reader Nat := return (← get).rest.length

/-- Pass over digits; the answer is their number. -/
def skipDigits : Reader Nat := do
  let digits := (← get).rest.takeWhile fun b => (digit? b).isSome
  digits.forM fun _ => skip
  return digits.length

/-- The greatest 64-bit word. -/
def maxWord : Nat := UInt64.size - 1

/-- The greatest exponent that is kept. -/
def maxExponent : Nat := (1 <<< 31) - 1

/-- Scale a number by a power of ten. There is no answer if it grows beyond all bounds. Four steps are
enough to come to zero or to a power within the range of double precision. -/
def scale? : (fuel : Nat) → Float → Int → Option Float
  | 0, x, _ => some x
  | fuel + 1, x, e =>
    if e.natAbs ≤ 308 then
      let power := Float.ofScientific 1 false e.natAbs
      if 0 ≤ e then
        let y := x * power
        if y.isInf then none else some y
      else some (x / power)
    else if x == 0 then some x
    else if 0 ≤ e then none
    else scale? fuel (x / Float.ofScientific 1 false 308) (e + 308)

/-- The number of a word and a power of ten. -/
def scaled (positive : Bool) (significand : Nat) (e : Int) : Reader Number :=
  match scale? 5 significand.toUInt64.toFloat e with
  | none => fail .numberOutOfRange
  | some x => return .floating (if positive then x else -x)

/-- Keep an exponent within its range. -/
def clampExponent (e : Int) : Int := max (-(maxExponent : Int) - 1) (min e maxExponent)

/-- Take an exponent, its letter included. -/
def exponent (positive : Bool) (significand : Nat) (start : Int) : Reader Number := do
  skip
  let sign ← peekOrZero
  if sign == 0x2B || sign == 0x2D then skip
  let up := sign != 0x2D
  match ← next? with
  | none => fail .eofBeforeValue
  | some b => match digit? b with
    | none => fail .invalidNumber
    | some d => do
      let digits ← takeDigits maxExponent (← remaining) d 1
      if digits.more then
        skip
        if significand ≠ 0 ∧ up then fail .numberOutOfRange
        let _ ← skipDigits
        return .floating (if positive then 0.0 else -0.0)
      else
        let e := if up then start + digits.value else start - digits.value
        scaled positive significand (clampExponent e)

/-- What follows the digits of a number: perhaps an exponent. -/
def afterDigits (positive : Bool) (significand : Nat) (start : Int) : Reader Number := do
  let b ← peekOrZero
  if b == 0x65 || b == 0x45 then exponent positive significand start
  else scaled positive significand start

/-- Take a fraction, its point included. Digits that no longer fit into the word are passed over. -/
def fraction (positive : Bool) (significand : Nat) (start : Int) : Reader Number := do
  skip
  let digits ← takeDigits maxWord (← remaining) significand 0
  if digits.more then
    let _ ← skipDigits
  else if digits.count = 0 then
    match ← peek with
    | some _ => failPeek .invalidNumber
    | none => failPeek .eofBeforeValue
  afterDigits positive digits.value (start - digits.count)

/-- What follows the integral part of a number that fits into a word. -/
def afterIntegral (positive : Bool) (significand : Nat) : Reader Number := do
  let b ← peekOrZero
  if b == 0x2E then fraction positive significand 0
  else if b == 0x65 || b == 0x45 then exponent positive significand 0
  else if positive then return .natural significand
  else if significand = 0 ∨ 1 <<< 63 < significand then
    return .floating (-significand.toUInt64.toFloat)
  else return .negative (-(significand : Int))

/-- Take a number after its sign. -/
def number (positive : Bool) : Reader Number := do
  match ← next? with
  | none => fail .eofBeforeValue
  | some b => match digit? b with
    | none => fail .invalidNumber
    | some 0 =>
      if (digit? (← peekOrZero)).isSome then failPeek .invalidNumber
      else afterIntegral positive 0
    | some d => do
      let digits ← takeDigits maxWord (← remaining) d 1
      if digits.more then
        let extra ← skipDigits
        if (← peekOrZero) == 0x2E then fraction positive digits.value extra
        else afterDigits positive digits.value extra
      else afterIntegral positive digits.value

/-! ## Passing over -/

/-- Pass over an exponent, its letter included. -/
def skipExponent : Reader Unit := do
  skip
  let sign ← peekOrZero
  if sign == 0x2B || sign == 0x2D then skip
  if (digit? ((← next?).getD 0)).isNone then fail .invalidNumber
  let _ ← skipDigits

/-- Pass over a number after its sign. -/
def skipNumber : Reader Unit := do
  match digit? ((← next?).getD 0) with
  | none => fail .invalidNumber
  | some 0 => if (digit? (← peekOrZero)).isSome then failPeek .invalidNumber
  | some _ =>
    let _ ← skipDigits
  if (← peekOrZero) == 0x2E then
    skip
    if (← skipDigits) = 0 then failPeek .invalidNumber
  let b ← peekOrZero
  if b == 0x65 || b == 0x45 then skipExponent

end Reader

end OrderRelay.Json
