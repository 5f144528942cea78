import ProtoStore.Number.Text
import ProtoStore.Text.Hex

/-!
# Reading JSON

Readers take a text and give a value and the text after it, or nothing if the text begins
differently: blanks, fixed words, strings and numbers. They read what the JSON grammar allows and
nothing else.

A number without fraction and exponent that fits 64 bits is read exactly. Any other number is read as
a double by one multiplication or division of its leading digits, those that fit 64 bits, by a power
of ten; this is fast and may miss the nearest double by one place.
-/

namespace ProtoStore.Json

open ProtoStore.Number

/-- A reader of values of type `α`. -/
abbrev Reader (α : Type) := List Char → Option (α × List Char)

/-! ## Blanks and words -/

/-- Whether `c` may stand between the parts of a text. -/
def isBlank (c : Char) : Bool := c == ' ' || c == '\n' || c == '\t' || c == '\r'

/-- The text after its leading blanks. -/
def skipBlanks (text : List Char) : List Char := text.dropWhile isBlank

/-- What follows a fixed word at the beginning of a text. -/
def after? : List Char → List Char → Option (List Char)
  | [], text => some text
  | _ :: _, [] => none
  | c :: word, d :: text => if c == d then after? word text else none

/-- What follows one character after blanks. -/
def mark? (c : Char) (text : List Char) : Option (List Char) := after? [c] (skipBlanks text)

/-! ## Strings -/

/-- Four hexadecimal digits. -/
def hex4 : Reader Nat
  | a :: b :: c :: d :: rest => do
    let a ← Text.Hex.value? a
    let b ← Text.Hex.value? b
    let c ← Text.Hex.value? c
    let d ← Text.Hex.value? d
    return (((a * 16 + b) * 16 + c) * 16 + d, rest)
  | _ => none

/-- The character of a `\u` escape, after the `u`. Characters beyond the first plane are written as
two escapes, a high and a low surrogate. -/
def unicodeEscape : Reader Char := fun text => do
  let (code, rest) ← hex4 text
  if 0xDC00 ≤ code && code ≤ 0xDFFF then none
  else if 0xD800 ≤ code && code ≤ 0xDBFF then
    let rest ← after? ['\\', 'u'] rest
    let (low, rest) ← hex4 rest
    if 0xDC00 ≤ low && low ≤ 0xDFFF then
      return (Char.ofNat (0x10000 + (code - 0xD800) * 0x400 + (low - 0xDC00)), rest)
    else none
  else return (Char.ofNat code, rest)

/-- The character of an escape, after the backslash. -/
def escaped : Reader Char
  | '"' :: rest => some ('"', rest)
  | '\\' :: rest => some ('\\', rest)
  | '/' :: rest => some ('/', rest)
  | 'b' :: rest => some ('\x08', rest)
  | 'f' :: rest => some ('\x0c', rest)
  | 'n' :: rest => some ('\n', rest)
  | 'r' :: rest => some ('\r', rest)
  | 't' :: rest => some ('\t', rest)
  | 'u' :: rest => unicodeEscape rest
  | _ => none

/-- One character of a string; `none` in the pair is its closing quote. -/
def stringStep : Reader (Option Char)
  | '"' :: rest => some (none, rest)
  | '\\' :: rest => (escaped rest).map fun (c, rest) => (some c, rest)
  | c :: rest => if c.toNat < 0x20 then none else some (some c, rest)
  | [] => none

/-- The characters of a string after its opening quote. -/
def stringBody (text : List Char) : Option (List Char × List Char) :=
  match stringStep text with
  | none => none
  | some (none, rest) => some ([], rest)
  | some (some c, rest) =>
    if rest.length < text.length then
      (stringBody rest).map fun (cs, rest) => (c :: cs, rest)
    else none
termination_by text.length

/-- A string. -/
def string : Reader String := fun text => do
  let rest ← mark? '"' text
  let (cs, rest) ← stringBody rest
  return (String.ofList cs, rest)

/-! ## Numbers -/

/-- A number as it is read. -/
inductive Numeral
  /-- Without sign, fraction and exponent, and below `2 ^ 64`. -/
  | natural (n : Nat)
  /-- The negative of a positive number of at most `2 ^ 63`. -/
  | negative (n : Nat)
  | float (x : Double)
deriving Repr, DecidableEq

/-- The value of a digit. -/
def digitValue (c : Char) : Nat := c.toNat - 0x30

/-- The greatest significand that is kept exactly. -/
def wordLimit : Nat := UInt64.size - 1

/-- Takes digits as long as the significand fits 64 bits. Gives the significand, how many digits it
took, and the text after them. -/
def takeDigits (significand count : Nat) : List Char → Nat × Nat × List Char
  | [] => (significand, count, [])
  | c :: rest =>
    if c.isDigit && significand * 10 + digitValue c ≤ wordLimit then
      takeDigits (significand * 10 + digitValue c) (count + 1) rest
    else (significand, count, c :: rest)

/-- A power of ten as a double. -/
def powerOfTen (n : Nat) : Double := Double.ofFraction false (Nat.pow 10 n) 1

/-- `significand * 10 ^ exponent` as a double, for a significand that is a double already; `none` if
that is too great. Powers of ten beyond the range of doubles are divided by in steps. -/
def scaleByTen (x : Double) (exponent : Int) : Option Double :=
  if x.magnitude == 0 then some x
  else if 0 ≤ exponent then
    if exponent ≤ 308 then
      let product := x.times (powerOfTen exponent.toNat)
      if product.isFinite then some product else none
    else none
  else if -308 ≤ exponent then some (x.dividedBy (powerOfTen (-exponent).toNat))
  else scaleByTen (x.dividedBy (powerOfTen 308)) (exponent + 308)
termination_by (-exponent).toNat

/-- A float from its parts. -/
def floatOf (positive : Bool) (significand : Nat) (exponent : Int) : Option Numeral :=
  (scaleByTen (Double.ofInt significand) exponent).map fun x =>
    .float (if positive then x else x.negate)

/-- The greatest exponent that is counted. -/
def exponentLimit : Nat := Nat.pow 2 31 - 1

/-- An exponent brought back into the counted range. -/
def clampExponent (e : Int) : Int := max (-(exponentLimit : Int) - 1) (min exponentLimit e)

/-- A number with the exponent that begins after the `e`. An exponent beyond all range makes the
number zero or too great. -/
def exponentPart (positive : Bool) (significand : Nat) (before : Int) : Reader Numeral :=
  fun text =>
    let (up, text) := match text with
      | '+' :: rest => (true, rest)
      | '-' :: rest => (false, rest)
      | _ => (true, text)
    let digits := text.takeWhile (·.isDigit)
    let rest := text.dropWhile (·.isDigit)
    if digits.isEmpty then none
    else
      let e := digits.foldl (fun n c => n * 10 + digitValue c) 0
      let value :=
        if exponentLimit < e then
          if significand != 0 && up then none
          else some (.float (if positive then Double.zero else Double.zero.negate))
        else floatOf positive significand
          (clampExponent (if up then before + e else before - e))
      value.map fun x => (x, rest)

/-- What follows the digits of a number that is a float. -/
def floatEnd (positive : Bool) (significand : Nat) (exponent : Int) : Reader Numeral
  | 'e' :: rest | 'E' :: rest => exponentPart positive significand exponent rest
  | text => (floatOf positive significand exponent).map fun x => (x, text)

/-- A number with the fraction that begins after the point. Digits that no longer fit are dropped. -/
def fractionPart (positive : Bool) (significand : Nat) (exponent : Int) : Reader Numeral :=
  fun text =>
    match text with
    | c :: _ =>
      if c.isDigit then
        let (significand, count, rest) := takeDigits significand 0 text
        floatEnd positive significand (exponent - count) (rest.dropWhile (·.isDigit))
      else none
    | [] => none

/-- What follows the first digits of a number. Further digits that did not fit only count. -/
def numberEnd (positive : Bool) (significand : Nat) (text : List Char) :
    Option (Numeral × List Char) :=
  let extra := (text.takeWhile (·.isDigit)).length
  match text.dropWhile (·.isDigit) with
  | '.' :: rest => fractionPart positive significand extra rest
  | 'e' :: rest => exponentPart positive significand extra rest
  | 'E' :: rest => exponentPart positive significand extra rest
  | rest =>
    if extra == 0 then
      if positive then some (.natural significand, rest)
      else if 0 < significand && significand ≤ Nat.pow 2 63 then some (.negative significand, rest)
      else (floatOf false significand 0).map fun x => (x, rest)
    else (floatOf positive significand extra).map fun x => (x, rest)

/-- A number after its sign. A zero in front stands alone. -/
def unsignedNumber (positive : Bool) : Reader Numeral
  | '0' :: rest =>
    match rest with
    | c :: _ => if c.isDigit then none else numberEnd positive 0 rest
    | [] => numberEnd positive 0 rest
  | c :: rest =>
    if c.isDigit then
      let (significand, _, rest) := takeDigits (digitValue c) 0 rest
      numberEnd positive significand rest
    else none
  | [] => none

/-- A number. -/
def number : Reader Numeral := fun text =>
  match skipBlanks text with
  | '-' :: rest => unsignedNumber false rest
  | rest => unsignedNumber true rest

end ProtoStore.Json
