import ProtoStore.Descriptor.Pool
import ProtoStore.Text.Hex

/-!
# Defaults

A field may give a default as a text. `Pool.acceptsDefault` says which texts are one of a type.
-/

namespace ProtoStore.Descriptor

/-! ## Numbers -/

/-- The whole number a text writes in decimal digits. Only signed numbers may have a minus. -/
def integer? (signed : Bool) (text : List Char) : Option Int :=
  let digits? (l : List Char) : Option Nat :=
    if l.isEmpty || !l.all Char.isDigit then none
    else some (l.foldl (fun n c => 10 * n + (c.toNat - 0x30)) 0)
  match text with
  | '+' :: rest => (digits? rest).map Int.ofNat
  | '-' :: rest => if signed then (digits? rest).map fun n => -(n : Int) else none
  | rest => (digits? rest).map Int.ofNat

/-- Whether a text writes a number that is at least `least` and less than `bound`. -/
def isIntegerWithin (least bound : Int) (text : List Char) : Bool :=
  match integer? (least < 0) text with
  | some n => least ≤ n && n < bound
  | none => false

/-- A text without a sign before it. -/
def unsigned : List Char → List Char
  | '+' :: rest => rest
  | '-' :: rest => rest
  | rest => rest

/-- Whether a text is an exponent, or nothing. -/
def isExponent : List Char → Bool
  | [] => true
  | c :: rest =>
    let digits := unsigned rest
    (c == 'e' || c == 'E') && !digits.isEmpty && digits.all Char.isDigit

/-- Whether a text writes a number, whole or not: digits with a point among them or beside them, and an
exponent. -/
def isFraction (text : List Char) : Bool :=
  let text := unsigned text
  let whole := text.takeWhile Char.isDigit
  match text.dropWhile Char.isDigit with
  | '.' :: rest =>
    let part := rest.takeWhile Char.isDigit
    !(whole.isEmpty && part.isEmpty) && isExponent (rest.dropWhile Char.isDigit)
  | rest => !whole.isEmpty && isExponent rest

/-- Whether a text names what is no number or greater than all, in any case. -/
def isSpecialNumber (text : List Char) : Bool :=
  ["inf", "infinity", "nan"].contains (String.ofList ((unsigned text).map Char.toLower))

/-! ## Byte strings -/

/-- Whether a digit of an escape in base sixteen may stand at its place; the first may be a plus. -/
def isHexPair (first second : Char) : Bool :=
  (Text.Hex.value? second).isSome && (first == '+' || (Text.Hex.value? first).isSome)

/-- Whether each backslash in a text begins an escape: one of a control character, of a mark, or of a
byte in base eight or sixteen. -/
def isEscaped : List Char → Bool
  | [] => true
  | '\\' :: 'x' :: first :: second :: rest => isHexPair first second && isEscaped rest
  | '\\' :: 'X' :: first :: second :: rest => isHexPair first second && isEscaped rest
  | '\\' :: c :: rest => "abfnrtv\\?'\"01234567".toList.contains c && isEscaped rest
  | '\\' :: [] => false
  | _ :: rest => isEscaped rest

/-! ## Types -/

/-- Whether a text is a default of a scalar type. -/
def acceptsScalarDefault (text : String) : Scalar → Bool
  | .double | .float => isFraction text.toList || isSpecialNumber text.toList
  | .int32 | .sint32 | .sfixed32 => isIntegerWithin (-2147483648) 2147483648 text.toList
  | .int64 | .sint64 | .sfixed64 =>
    isIntegerWithin (-9223372036854775808) 9223372036854775808 text.toList
  | .uint32 | .fixed32 => isIntegerWithin 0 4294967296 text.toList
  | .uint64 | .fixed64 => isIntegerWithin 0 18446744073709551616 text.toList
  | .bool => text == "true" || text == "false"
  | .string => true
  | .bytes => isEscaped text.toList

/-- Whether a text is a default of a type. A value of an enumeration goes by its name, and messages have
no defaults. -/
def Pool.acceptsDefault (pool : Pool) (text : String) : ResolvedType → Bool
  | .scalar type => acceptsScalarDefault text type
  | .enumeration name =>
    ((pool.enumeration? name).map fun e => e.values.any (·.name == text)).getD false
  | .message _ | .group _ => false

end ProtoStore.Descriptor
