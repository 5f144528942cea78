/-!
# Hexadecimal digits

`digit` writes a value below sixteen in lower case; `value?` reads a digit of either case. `encode`
and `decode?` do the same for byte strings, two digits to a byte.
-/

namespace ProtoStore.Text.Hex

/-- The digit of a value below sixteen. -/
def digit (n : Nat) : Char := if n < 10 then Char.ofNat (0x30 + n) else Char.ofNat (0x57 + n)

/-- The value of a digit. -/
def value? (c : Char) : Option Nat :=
  if '0' ≤ c && c ≤ '9' then some (c.toNat - 0x30)
  else if 'a' ≤ c && c ≤ 'f' then some (c.toNat - 0x57)
  else if 'A' ≤ c && c ≤ 'F' then some (c.toNat - 0x37)
  else none

/-- A number in `count` digits, the most significant first. -/
def digits : (count : Nat) → (n : Nat) → List Char
  | 0, _ => []
  | count + 1, n => digits count (n / 16) ++ [digit (n % 16)]

/-- The number that digits write, after the digits of `n`. -/
def number? (n : Nat) : List Char → Option Nat
  | [] => some n
  | c :: rest => (value? c).bind fun d => number? (n * 16 + d) rest

/-- Bytes as digits. -/
def encode (bytes : List UInt8) : List Char := bytes.flatMap fun b => digits 2 b.toNat

/-- The bytes that digits write, two digits to a byte. -/
def decode? : List Char → Option (List UInt8)
  | [] => some []
  | [_] => none
  | c :: d :: rest => do
    let high ← value? c
    let low ← value? d
    return UInt8.ofNat (high * 16 + low) :: (← decode? rest)

end ProtoStore.Text.Hex
