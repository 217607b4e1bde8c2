/-!
# Durations

A duration is a number of nanoseconds. It is shown in the largest unit of which it holds at least one,
with as many decimals as it needs and no trailing zero: `0ns`, `1.5µs`, `250ms`, `10s`.
-/

namespace OrderRelay.Text

/-- A number of nanoseconds. -/
structure Duration where
  nanos : Nat
deriving DecidableEq, Repr, Inhabited

namespace Duration

/-- A number of milliseconds. -/
def ofMillis (n : Nat) : Duration := ⟨n * 1000000⟩

/-- The whole milliseconds of a duration. -/
def millis (d : Duration) : Nat := d.nanos / 1000000

/-- The decimals of `rest / 10 ^ places`, without trailing zeros. -/
def decimals (places rest : Nat) : String :=
  let digits := (toString rest).toList
  let padded := List.replicate (places - digits.length) '0' ++ digits
  String.ofList (padded.reverse.dropWhile (· == '0')).reverse

/-- A count of `10 ^ places` nanoseconds and a rest, followed by the unit. -/
def inUnit (nanos places : Nat) (unit : String) : String :=
  let part := decimals places (nanos % Nat.pow 10 places)
  toString (nanos / Nat.pow 10 places) ++ (if part = "" then "" else "." ++ part) ++ unit

/-- The duration in its largest unit. -/
def render (d : Duration) : String :=
  if Nat.pow 10 9 ≤ d.nanos then inUnit d.nanos 9 "s"
  else if Nat.pow 10 6 ≤ d.nanos then inUnit d.nanos 6 "ms"
  else if Nat.pow 10 3 ≤ d.nanos then inUnit d.nanos 3 "µs"
  else inUnit d.nanos 0 "ns"

end Duration

end OrderRelay.Text
