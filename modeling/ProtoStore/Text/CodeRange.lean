/-!
# Ranges of code points

A character class is a list of strided ranges. `CodeRange.member` says whether a character is in one
of them; the tables of the other text modules are lists of this type.
-/

namespace ProtoStore.Text

/-- The code points `first`, `first + step`, … up to `last`. -/
structure CodeRange where
  first : Nat
  last : Nat
  step : Nat
deriving Repr, DecidableEq

/-- Whether the range holds the code point `n`. -/
def CodeRange.covers (range : CodeRange) (n : Nat) : Bool :=
  range.first ≤ n && n ≤ range.last && (n - range.first) % range.step == 0

/-- Whether one of the ranges holds `c`. -/
def CodeRange.member (ranges : List CodeRange) (c : Char) : Bool :=
  ranges.any (·.covers c.toNat)

end ProtoStore.Text
