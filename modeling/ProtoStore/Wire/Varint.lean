/-!
# Variable-length numbers

A number is written in groups of seven bits, the lowest first; all bytes but the last have their
highest bit set. `read` takes at most ten bytes, and refuses what does not fit 64 bits.
-/

namespace ProtoStore.Wire.Varint

/-- The bytes of a number. -/
def write (n : Nat) : List UInt8 :=
  if n < 128 then [UInt8.ofNat n] else UInt8.ofNat (n % 128 + 128) :: write (n / 128)

/-- A number and the bytes after it. `place` is the number of its bytes that were read before. -/
def readFrom (place : Nat) : List UInt8 → Option (Nat × List UInt8)
  | [] => none
  | b :: rest =>
    if b.toNat < 128 then
      if place == 9 && 2 ≤ b.toNat then none else some (b.toNat, rest)
    else if place == 9 then none
    else (readFrom (place + 1) rest).map fun (n, rest) => (b.toNat - 128 + 128 * n, rest)

/-- A number and the bytes after it. -/
def read (bytes : List UInt8) : Option (Nat × List UInt8) := readFrom 0 bytes

end ProtoStore.Wire.Varint
