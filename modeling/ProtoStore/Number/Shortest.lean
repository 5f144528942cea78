import ProtoStore.Number.Binary

/-!
# Shortest decimals

`shortest` is the decimal with the fewest digits that reads back as a given positive magnitude of a
format, and of several such decimals the nearest. A decimal reads back if it lies between the
midpoints to the neighbours of the magnitude; the midpoints themselves do if the significand is even.
-/

namespace ProtoStore.Number

/-- The decimal `digits * 10 ^ exponent`. -/
structure Decimal where
  digits : Nat
  exponent : Int
deriving Repr, DecidableEq

/-- The fraction `n / d` times `10 ^ e`, as a fraction. -/
def tenfold (n d : Nat) (e : Int) : Nat × Nat :=
  if 0 ≤ e then (n * Nat.pow 10 e.toNat, d) else (n, d * Nat.pow 10 (-e).toNat)

/-- The number of decimal digits of `n`, one for zero. -/
def digitCount (n : Nat) : Nat := (Nat.toDigits 10 n).length

/-- The exponent of ten of the first digit of a positive fraction. -/
def leadingExponent (n d : Nat) : Int :=
  let guess : Int := (digitCount n : Int) - digitCount d
  let (m, k) := tenfold n d (-guess)
  if m < k then guess - 1 else guess

/-- The interval of fractions, over `4 * 2 ^ s`, that read back as a magnitude. -/
structure Interval where
  /-- Four times the significand, and the bounds around it. -/
  middle : Nat
  lower : Nat
  upper : Nat
  /-- Whether the bounds belong to it. -/
  closed : Bool
  /-- The exponent of two all three are multiplied by. -/
  scale : Int

/-- The interval of a positive finite magnitude. The next magnitude below is only half as far away
where the exponent changes. -/
def Format.interval (format : Format) (magnitude : Nat) : Interval :=
  let m := format.significand magnitude
  let isEdge := m == Nat.pow 2 format.fractionBits && Nat.pow 2 (format.fractionBits + 1) ≤ magnitude
  ⟨4 * m, 4 * m - (if isEdge then 1 else 2), 4 * m + 2, m % 2 == 0,
    format.scale magnitude - 2⟩

/-- Whether the decimal `digits * 10 ^ exponent` lies in the interval. -/
def Interval.holds (interval : Interval) (digits : Nat) (exponent : Int) : Bool :=
  let (n, d) := tenfold digits 1 exponent
  let (low, e) := Format.scaled interval.lower 1 interval.scale
  let (high, _) := Format.scaled interval.upper 1 interval.scale
  if interval.closed then low * d ≤ n * e && n * e ≤ high * d
  else low * d < n * e && n * e < high * d

/-- The decimal of the interval with the given last place, the nearest to its middle, if one of the
two next to the middle lies in it. -/
def Interval.atPlace? (interval : Interval) (exponent : Int) : Option Decimal :=
  let (n, d) := Format.scaled interval.middle 1 interval.scale
  let (m, k) := tenfold n d (-exponent)
  let below := m / k
  let nearest := Format.roundQuotient m k
  let other := if nearest == below then below + 1 else below
  if interval.holds nearest exponent then some ⟨nearest, exponent⟩
  else if interval.holds other exponent then some ⟨other, exponent⟩
  else none

/-- Tries ever finer places, `count` of them, downwards from `exponent`. -/
def Interval.search (interval : Interval) : (count : Nat) → (exponent : Int) → Option Decimal
  | 0, _ => none
  | count + 1, exponent =>
    (interval.atPlace? exponent).or (interval.search count (exponent - 1))

/-- The shortest decimal that reads back as a positive finite magnitude. Seventeen places always
suffice. -/
def shortest (format : Format) (magnitude : Nat) : Decimal :=
  let interval := format.interval magnitude
  let (n, d) := Format.scaled interval.middle 1 interval.scale
  let first := leadingExponent n d
  (interval.search 17 first).getD ⟨0, 0⟩

end ProtoStore.Number
