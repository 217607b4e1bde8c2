/-!
# Digits and numbers

Reading numbers in a base, and the plain decimals that settings are given in.

* `digit?`, the value of a digit; letters go on after nine, in either case;
* `spanDigits`, the digits that a text begins with, and the rest; `ofDigits`, their number;
* `decimal?`, a text of decimal digits, with a plus sign before them or not.
-/

namespace OrderRelay.Text

/-- The value of a digit in a base of at most sixteen. -/
def digit? (base : Nat) (c : Char) : Option Nat :=
  let value :=
    if '0' ≤ c ∧ c ≤ '9' then some (c.toNat - '0'.toNat)
    else if 'a' ≤ c ∧ c ≤ 'f' then some (c.toNat - 'a'.toNat + 10)
    else if 'A' ≤ c ∧ c ≤ 'F' then some (c.toNat - 'A'.toNat + 10)
    else none
  value.filter (· < base)

/-- The values of the digits at the beginning, and what follows them. -/
def spanDigits (base : Nat) : List Char → List Nat × List Char
  | [] => ([], [])
  | c :: cs =>
    match digit? base c with
    | none => ([], c :: cs)
    | some d =>
      let (ds, rest) := spanDigits base cs
      (d :: ds, rest)

/-- The number that digits stand for, the highest first. -/
def ofDigits (base : Nat) (ds : List Nat) : Nat := ds.foldl (fun n d => base * n + d) 0

/-- The number written in decimal digits. One plus sign may stand before them, and zeros. -/
def decimal? (s : String) : Option Nat :=
  let body := match s.toList with
    | '+' :: cs => cs
    | cs => cs
  match spanDigits 10 body with
  | (d :: ds, []) => some (ofDigits 10 (d :: ds))
  | _ => none

end OrderRelay.Text
