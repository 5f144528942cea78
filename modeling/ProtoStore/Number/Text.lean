import ProtoStore.Number.Shortest

/-!
# Numbers in text

How numbers are written in JSON columns. Integers are written in full. A finite float is written with
the fewest digits that read back: positionally, always with a point, if its exponent is within the
`Layout` of its format, and otherwise with an exponent that has a sign. Other floats have no
spelling.
-/

namespace ProtoStore.Number

/-- The decimal digits of `n`. -/
def natText (n : Nat) : List Char := Nat.toDigits 10 n

/-- An integer in decimal. -/
def intText : Int → List Char
  | .ofNat n => natText n
  | .negSucc n => '-' :: natText (n + 1)

/-- The exponents of the first digit for which a float is written positionally. -/
structure Layout where
  least : Int
  greatest : Int

/-- Doubles are written positionally from `10 ^ -5` to below `10 ^ 16`. -/
def Layout.double : Layout := ⟨-5, 15⟩

/-- Singles are written positionally from `10 ^ -6` to below `10 ^ 13`. -/
def Layout.single : Layout := ⟨-6, 12⟩

/-- Digits without the zeros at their end, at least one. -/
def trimZeros (digits : List Char) : List Char :=
  match (digits.reverse.dropWhile (· == '0')).reverse with
  | [] => ['0']
  | kept => kept

/-- Digits with a point in them, given the exponent of the first. -/
def positional (digits : List Char) (exponent : Int) : List Char :=
  if exponent < 0 then
    ['0', '.'] ++ List.replicate ((-exponent).toNat - 1) '0' ++ digits
  else
    let whole := exponent.toNat + 1
    let fraction := digits.drop whole
    digits.take whole ++ List.replicate (whole - digits.length) '0' ++ ['.']
      ++ if fraction.isEmpty then ['0'] else fraction

/-- Digits with an exponent. -/
def scientific (digits : List Char) (exponent : Int) : List Char :=
  let mantissa :=
    match digits with
    | first :: second :: rest => first :: '.' :: second :: rest
    | single => single
  mantissa ++ ['e', if exponent < 0 then '-' else '+'] ++ natText exponent.natAbs

/-- A decimal that is not zero. -/
def decimalText (layout : Layout) (decimal : Decimal) : List Char :=
  let digits := natText decimal.digits
  let exponent := decimal.exponent + digits.length - 1
  let kept := trimZeros digits
  if layout.least ≤ exponent && exponent ≤ layout.greatest then positional kept exponent
  else scientific kept exponent

/-- A finite magnitude. -/
def magnitudeText (format : Format) (layout : Layout) (magnitude : Nat) : List Char :=
  if magnitude == 0 then ['0', '.', '0']
  else decimalText layout (shortest format magnitude)

/-- A finite double. -/
def Double.text? (x : Double) : Option (List Char) :=
  if x.isFinite then
    let text := magnitudeText .double .double x.magnitude
    some (if x.isNegative then '-' :: text else text)
  else none

/-- A finite single. -/
def Single.text? (x : Single) : Option (List Char) :=
  if x.isFinite then
    let text := magnitudeText .single .single x.magnitude
    some (if x.isNegative then '-' :: text else text)
  else none

end ProtoStore.Number
