/-!
# Ranges of code points

A property of characters is kept as a table of closed ranges of code points, the lowest first.

* `CodeRanges`, and `CodeRanges.contains`.
-/

namespace OrderRelay.Text

/-- The first and the last code point of each range. -/
abbrev CodeRanges := Array (Nat × Nat)

/-- The code point lies in one of the ranges. -/
def CodeRanges.contains (table : CodeRanges) (n : Nat) : Bool :=
  table.any fun r => r.1 ≤ n && n ≤ r.2

end OrderRelay.Text
