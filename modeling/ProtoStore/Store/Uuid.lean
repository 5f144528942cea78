import ProtoStore.Text.Hex

/-!
# Universally unique identifiers

A `Uuid` is 128 bits. `Uuid.text` writes it as five groups of hexadecimal digits with hyphens between
them. `Uuid.parse?` reads that form in any letter case, also in braces or after `urn:uuid:`, and the
32 digits without hyphens.
-/

namespace ProtoStore

open Text

/-- A universally unique identifier. -/
structure Uuid where
  bits : BitVec 128
deriving Repr, DecidableEq, Inhabited

namespace Uuid

/-- The identifier that stands for none. -/
def nil : Uuid := ⟨0⟩

/-- Whether an identifier stands for none. -/
def isNil (u : Uuid) : Bool := u == nil

/-- The version of an identifier, four bits of its seventh byte. -/
def version (u : Uuid) : Nat := u.bits.toNat / Nat.pow 2 76 % 16

/-- An identifier of version 4 made of 128 bits, six of which are set to mark it as such. -/
def random (bits : BitVec 128) : Uuid :=
  let version : BitVec 128 := 0xF000#128 <<< 64
  let variant : BitVec 128 := 0xC000#128 <<< 48
  ⟨bits &&& ~~~version &&& ~~~variant ||| 0x4000#128 <<< 64 ||| 0x8000#128 <<< 48⟩

/-- The 32 digits of an identifier. -/
def digits (u : Uuid) : List Char := Hex.digits 32 u.bits.toNat

/-- Digits in groups of 8, 4, 4, 4 and 12, with hyphens between them. -/
def hyphenated (digits : List Char) : List Char :=
  digits.take 8 ++ '-' :: (digits.drop 8).take 4 ++ '-' :: (digits.drop 12).take 4
    ++ '-' :: (digits.drop 16).take 4 ++ '-' :: digits.drop 20

/-- The text of an identifier. -/
def text (u : Uuid) : String := String.ofList (hyphenated u.digits)

/-- The identifier of 32 digits. -/
def ofDigits? (digits : List Char) : Option Uuid :=
  if digits.length == 32 then (Hex.number? 0 digits).map fun n => ⟨BitVec.ofNat 128 n⟩ else none

/-- The identifier of 32 digits in hyphenated groups. -/
def ofGroups? (text : List Char) : Option Uuid :=
  let digits := text.take 8 ++ (text.drop 9).take 4 ++ (text.drop 14).take 4
    ++ (text.drop 19).take 4 ++ text.drop 24
  if hyphenated digits == text then ofDigits? digits else none

/-- What stands between braces. -/
def inBraces? (text : List Char) : Option (List Char) :=
  match text.head?, text.getLast? with
  | some '\x7b', some '\x7d' => some (text.drop 1).dropLast
  | _, _ => none

/-- What follows `urn:uuid:` in any letter case. -/
def afterScheme? (text : List Char) : Option (List Char) :=
  if (text.take 9).map Char.toLower == "urn:uuid:".toList then some (text.drop 9) else none

/-- The identifier that a text writes in any of the accepted forms. -/
def ofChars? (text : List Char) : Option Uuid :=
  match inBraces? text with
  | some inner => ofGroups? inner
  | none =>
    match afterScheme? text with
    | some rest => ofGroups? rest
    | none => (ofGroups? text).or (ofDigits? text)

/-- The identifier that a text writes in any of the accepted forms. -/
def parse? (text : String) : Option Uuid := ofChars? text.toList

/-- The bytes of an identifier, the most significant first. -/
def ofBytes (bytes : List UInt8) : Uuid :=
  ⟨BitVec.ofNat 128 (bytes.foldl (fun n b => n * 256 + b.toNat) 0)⟩

end Uuid

end ProtoStore
