/-!
# Shortest decimals

A binary fraction of double precision stands for all reals that round to it. Of the decimals among them,
the one with the fewest digits is shown, and of two such decimals the nearer one.

* `Binary`, a magnitude `mantissa * 2 ^ exponent`, and `Binary.ofBits`;
* `Decimal`, digits and the place of the point;
* `shortest`.
-/

namespace OrderRelay.Text

/-- The magnitude `mantissa * 2 ^ exponent`. -/
structure Binary where
  mantissa : Nat
  exponent : Int
deriving DecidableEq, Repr

/-- The magnitude of a finite number of double precision, given by its bits. -/
def Binary.ofBits (bits : UInt64) : Binary :=
  let fraction : Nat := bits.toNat % (1 <<< 52)
  let scale : Nat := bits.toNat / (1 <<< 52) % (1 <<< 11)
  if scale = 0 then ⟨fraction, -1074⟩ else ⟨(1 <<< 52) + fraction, (scale : Int) - 1075⟩

/-- The decimal `digits * 10 ^ exponent`. -/
structure Decimal where
  digits : Nat
  exponent : Int
deriving DecidableEq, Repr

/-- A fraction of natural numbers times a power of ten, as a fraction. -/
def scaleTen (num den : Nat) (e : Int) : Nat × Nat :=
  if 0 ≤ e then (num * Nat.pow 10 e.toNat, den) else (num, den * Nat.pow 10 (-e).toNat)

/-- The exponent of the first digit of `num / den`, for a positive fraction. -/
def leadingExponent (num den : Nat) : Int :=
  if den ≤ num then ((toString (num / den)).length : Int) - 1
  else
    -- the least power of ten that lifts the fraction to at least one
    let guess := (toString (den / num)).length - 1
    if den ≤ num * Nat.pow 10 guess then -(guess : Int) else -((guess : Int) + 1)

/-- The best decimal with `n` digits for the fraction `num / den` among those between `low / den` and
`high / den`, the ends counting if `closed`. -/
def ofLength (num low high den : Nat) (closed : Bool) (n : Nat) : Option Decimal :=
  let e := leadingExponent num den - (n : Int) + 1
  let (a, b) := scaleTen num den (-e)
  let (l, _) := scaleTen low den (-e)
  let (h, _) := scaleTen high den (-e)
  let fits (d : Nat) : Bool :=
    if closed then l ≤ d * b && d * b ≤ h else l < d * b && d * b < h
  let below := a / b
  let above := below + 1
  let nearer := if 2 * (a - below * b) < b ∨ (2 * (a - below * b) = b ∧ below % 2 = 0)
    then below else above
  let other := if nearer = below then above else below
  if fits nearer then some ⟨nearer, e⟩
  else if fits other then some ⟨other, e⟩
  else none

/-- The shortest decimal that rounds to a positive magnitude; seventeen digits always do. -/
def shortest (x : Binary) : Decimal :=
  -- in quarters of a unit of the mantissa
  let num := 4 * x.mantissa
  let low := if x.mantissa = 1 <<< 52 && -1074 < x.exponent then num - 1 else num - 2
  let high := num + 2
  let q := x.exponent - 2
  let up := 1 <<< q.toNat
  let den := 1 <<< (-q).toNat
  let closed := x.mantissa % 2 = 0
  ((List.range' 1 17).findSome? (ofLength (num * up) (low * up) (high * up) den closed)).getD ⟨0, 0⟩

/-- A decimal without zeros at its end. -/
def Decimal.strip : (fuel : Nat) → Decimal → Decimal
  | 0, d => d
  | fuel + 1, d =>
    if d.digits ≠ 0 ∧ d.digits % 10 = 0 then strip fuel ⟨d.digits / 10, d.exponent + 1⟩ else d

end OrderRelay.Text
