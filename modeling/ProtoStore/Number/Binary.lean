/-!
# Binary floating point

A format has a number of fraction bits and of exponent bits. A bit pattern of the format is a sign
and a magnitude, and the magnitude of a finite number is `significand * 2 ^ scale`, given by
`Format.significand` and `Format.scale`. `Format.nearest` is the magnitude nearest to a fraction,
the even one of two that are equally near.

`Double` and `Single` are bit patterns of the two usual formats. Arithmetic on them is exact
arithmetic on natural numbers, rounded once.
-/

namespace ProtoStore.Number

/-- A binary floating-point format. -/
structure Format where
  fractionBits : Nat
  exponentBits : Nat
deriving Repr, DecidableEq

/-- The format of double precision. -/
def Format.double : Format := ⟨52, 11⟩

/-- The format of single precision. -/
def Format.single : Format := ⟨23, 8⟩

namespace Format

variable (format : Format)

/-- The magnitude of infinity; greater ones are not numbers. -/
def infinity : Nat := (Nat.pow 2 format.exponentBits - 1) * Nat.pow 2 format.fractionBits

/-- The exponent of two of the least positive magnitude. -/
def leastScale : Int := 2 - (Nat.pow 2 (format.exponentBits - 1) : Nat) - format.fractionBits

/-- The significand of a finite magnitude. -/
def significand (magnitude : Nat) : Nat :=
  let fraction := magnitude % Nat.pow 2 format.fractionBits
  if magnitude < Nat.pow 2 format.fractionBits then fraction else Nat.pow 2 format.fractionBits + fraction

/-- The exponent of two that goes with the significand of a magnitude. -/
def scale (magnitude : Nat) : Int :=
  format.leastScale + ((magnitude / Nat.pow 2 format.fractionBits - 1 : Nat) : Int)

/-- `n / d`, rounded to the nearest natural number, to the even one of two. -/
def roundQuotient (n d : Nat) : Nat :=
  let quotient := n / d
  let twice := 2 * (n % d)
  if twice < d || (twice == d && quotient % 2 == 0) then quotient else quotient + 1

/-- The fraction `n / d` times `2 ^ e`, as a fraction. -/
def scaled (n d : Nat) (e : Int) : Nat × Nat :=
  if 0 ≤ e then (n * Nat.pow 2 e.toNat, d) else (n, d * Nat.pow 2 (-e).toNat)

/-- The exponent of two at which `n / d` is written: the one that gives a full significand, unless
that is below the least scale. -/
def scaleOf (n d : Nat) : Int :=
  let guess : Int := (n.log2 : Int) - d.log2 - format.fractionBits
  let (m, k) := scaled n d (-guess)
  let exact := if m < k * Nat.pow 2 format.fractionBits then guess - 1 else guess
  max exact format.leastScale

/-- The magnitude nearest to `n / d`. -/
def nearest (n d : Nat) : Nat :=
  if n == 0 then 0
  else
    let scale := format.scaleOf n d
    let (m, k) := scaled n d (-scale)
    let magnitude :=
      (scale - format.leastScale).toNat * Nat.pow 2 format.fractionBits + roundQuotient m k
    min magnitude format.infinity

/-- A finite magnitude as a fraction. -/
def toFraction (magnitude : Nat) : Nat × Nat :=
  scaled (format.significand magnitude) 1 (format.scale magnitude)

end Format

/-! ## Double precision -/

/-- A number of double precision, by its bits. -/
structure Double where
  bits : UInt64
deriving Repr, DecidableEq, Inhabited

namespace Double

/-- Whether the sign is set. -/
def isNegative (x : Double) : Bool := Nat.pow 2 63 ≤ x.bits.toNat

/-- The bits without the sign. -/
def magnitude (x : Double) : Nat := x.bits.toNat % Nat.pow 2 63

/-- Whether the bits are not a number. -/
def isNaN (x : Double) : Bool := Format.double.infinity < x.magnitude

/-- Whether the bits are a finite number. -/
def isFinite (x : Double) : Bool := x.magnitude < Format.double.infinity

/-- The double with a sign and a magnitude. -/
def ofMagnitude (negative : Bool) (magnitude : Nat) : Double :=
  ⟨UInt64.ofNat ((if negative then Nat.pow 2 63 else 0) + magnitude)⟩

/-- Zero. -/
def zero : Double := ⟨0⟩

/-- The double with the other sign. -/
def negate (x : Double) : Double := ofMagnitude (!x.isNegative) x.magnitude

/-- A number whose order is that of the doubles that are numbers; both zeros have the same. -/
def rank (x : Double) : Int := if x.isNegative then -(x.magnitude : Int) else x.magnitude

/-- The order of two doubles, if both are numbers. -/
def compare? (x y : Double) : Option Ordering :=
  if x.isNaN || y.isNaN then none else some (compare x.rank y.rank)

/-- Whether two doubles are equal as numbers. -/
def same (x y : Double) : Bool := x.compare? y == some .eq

/-- The double nearest to a fraction. -/
def ofFraction (negative : Bool) (n d : Nat) : Double :=
  ofMagnitude negative (Format.double.nearest n d)

/-- The double nearest to an integer. -/
def ofInt (n : Int) : Double := ofFraction (n < 0) n.natAbs 1

/-- The product of two finite doubles that are not negative. -/
def times (x y : Double) : Double :=
  let (n, d) := Format.double.toFraction x.magnitude
  let (m, e) := Format.double.toFraction y.magnitude
  ofFraction false (n * m) (d * e)

/-- The quotient of two finite doubles that are not negative, the second of them not zero. -/
def dividedBy (x y : Double) : Double :=
  let (n, d) := Format.double.toFraction x.magnitude
  let (m, e) := Format.double.toFraction y.magnitude
  ofFraction false (n * e) (d * m)

end Double

/-! ## Single precision -/

/-- A number of single precision, by its bits. -/
structure Single where
  bits : UInt32
deriving Repr, DecidableEq, Inhabited

namespace Single

/-- Whether the sign is set. -/
def isNegative (x : Single) : Bool := Nat.pow 2 31 ≤ x.bits.toNat

/-- The bits without the sign. -/
def magnitude (x : Single) : Nat := x.bits.toNat % Nat.pow 2 31

/-- Whether the bits are not a number. -/
def isNaN (x : Single) : Bool := Format.single.infinity < x.magnitude

/-- Whether the bits are a finite number. -/
def isFinite (x : Single) : Bool := x.magnitude < Format.single.infinity

/-- The single with a sign and a magnitude. -/
def ofMagnitude (negative : Bool) (magnitude : Nat) : Single :=
  ⟨UInt32.ofNat ((if negative then Nat.pow 2 31 else 0) + magnitude)⟩

/-- Zero. -/
def zero : Single := ⟨0⟩

/-- The single nearest to a fraction. -/
def ofFraction (negative : Bool) (n d : Nat) : Single :=
  ofMagnitude negative (Format.single.nearest n d)

/-- The single nearest to an integer. -/
def ofInt (n : Int) : Single := ofFraction (n < 0) n.natAbs 1

/-- The single nearest to a double; what is not a number stays so, and quiet. -/
def ofDouble (x : Double) : Single :=
  if x.isFinite then
    let (n, d) := Format.double.toFraction x.magnitude
    ofFraction x.isNegative n d
  else if x.isNaN then
    ofMagnitude x.isNegative
      (Format.single.infinity + (x.magnitude % Nat.pow 2 52 / Nat.pow 2 29) % Nat.pow 2 22 + Nat.pow 2 22)
  else ofMagnitude x.isNegative Format.single.infinity

/-- The double equal to a single; what is not a number stays so, and quiet. -/
def toDouble (x : Single) : Double :=
  if x.isFinite then
    let (n, d) := Format.single.toFraction x.magnitude
    Double.ofFraction x.isNegative n d
  else if x.isNaN then
    Double.ofMagnitude x.isNegative
      (Format.double.infinity + Nat.pow 2 51 + x.magnitude % Nat.pow 2 22 * Nat.pow 2 29)
  else Double.ofMagnitude x.isNegative Format.double.infinity

end Single

end ProtoStore.Number
