import ProtoStore.Number.Binary
import ProtoStore.Wire.Entry

/-!
# Message codecs

A `Codec` of messages is a blank message and the fields it has. A message is encoded field by field.
It is decoded by putting its entries into the blank message one after the other: entries of unknown
fields are skipped, entries of a form the field does not have are refused.

A single field without presence is left out if it has its default; of several entries for it the
last counts. Entries for a nested message are merged.
-/

namespace ProtoStore.Wire

open Number

/-! ## Scalars -/

/-- How values of type `α` are written as a payload, and read from one. -/
structure Scalar (α : Type) where
  type : WireType
  write : α → List UInt8
  read : Payload → Option α

namespace Scalar

/-- Numbers of variable length. -/
def number {α : Type} (toNat : α → Nat) (ofNat : Nat → α) : Scalar α where
  type := .varint
  write a := Varint.write (toNat a)
  read
    | .varint n => some (ofNat n)
    | _ => none

/-- Unsigned numbers of 64 bits. -/
def uint64 : Scalar UInt64 := number UInt64.toNat UInt64.ofNat

/-- Signed numbers of 64 bits, as unsigned ones of the same bits. -/
def int64 : Scalar Int64 := number (·.toUInt64.toNat) fun n => (UInt64.ofNat n).toInt64

/-- Signed numbers of 32 bits, as signed ones of 64 bits; of greater numbers the low bits count. -/
def int32 : Scalar Int32 :=
  number (·.toInt64.toUInt64.toNat) fun n => (UInt64.ofNat n).toInt64.toInt32

/-- Truth values. -/
def bool : Scalar Bool := number (fun b => if b then 1 else 0) (· != 0)

/-- Doubles. -/
def double : Scalar Double where
  type := .fixed64
  write x := writeFixed 8 x.bits.toNat
  read
    | .fixed64 n => some ⟨UInt64.ofNat n⟩
    | _ => none

/-- Byte strings. -/
def bytes : Scalar (List UInt8) where
  type := .delimited
  write := writeDelimited
  read
    | .delimited bytes => some bytes
    | _ => none

/-- The bytes of a text. -/
def utf8 (text : String) : List UInt8 := text.toUTF8.data.toList

/-- The text of bytes, if they are one. -/
def ofUtf8? (bytes : List UInt8) : Option String := String.fromUTF8? ⟨bytes.toArray⟩

/-- Texts. -/
def string : Scalar String where
  type := .delimited
  write text := writeDelimited (utf8 text)
  read
    | .delimited bytes => ofUtf8? bytes
    | _ => none

/-- Values that go by a code. -/
def coded {α : Type} (code : α → Int32) (ofCode : Int32 → α) : Scalar α where
  type := int32.type
  write a := int32.write (code a)
  read payload := (int32.read payload).map ofCode

end Scalar

/-! ## Fields -/

/-- A field of messages of type `M`. -/
structure Field (M : Type) where
  number : Nat
  /-- All entries for the field. -/
  write : M → List UInt8
  /-- Puts a payload into a message. -/
  read : (depth : Nat) → Payload → M → Option M

/-- How messages of type `M` are written and read. -/
structure Codec (M : Type) where
  blank : M
  fields : List (Field M)

namespace Codec

variable {M : Type} (codec : Codec M)

/-- The bytes of a message. -/
def encode (message : M) : List UInt8 := codec.fields.flatMap fun field => field.write message

/-- Puts an entry into a message. -/
def put (depth : Nat) (message : M) (entry : Entry) : Option M :=
  match codec.fields.find? (·.number == entry.number) with
  | some field => field.read depth entry.payload message
  | none => if depth == 0 then none else some message

/-- Puts all entries of an encoded message into a message. -/
def merge (depth : Nat) (bytes : List UInt8) (message : M) : Option M :=
  (entries? depth bytes).bind fun entries => entries.foldlM (codec.put depth) message

/-- How deep messages may be nested. -/
def depthLimit : Nat := 100

/-- The message of bytes. -/
def decode? (bytes : List UInt8) : Option M := codec.merge depthLimit bytes codec.blank

/-- The bytes of a message after their number. -/
def encodeDelimited (message : M) : List UInt8 := writeDelimited (codec.encode message)

/-- The bytes of several messages, each after its number of bytes. -/
def encodeAll (messages : List M) : List UInt8 := messages.flatMap codec.encodeDelimited

/-- The message at the beginning of bytes, after its number of bytes, and what follows it. -/
def readDelimited (bytes : List UInt8) : Option (M × List UInt8) := do
  let (taken, rest) ← Wire.readDelimited bytes
  let message ← codec.merge (depthLimit - 1) taken codec.blank
  return (message, rest)

/-- The messages of bytes. -/
def decodeAll? (bytes : List UInt8) : Option (List M) :=
  match bytes with
  | [] => some []
  | first :: others =>
    match codec.readDelimited (first :: others) with
    | none => none
    | some (message, rest) =>
      if rest.length < (first :: others).length then (decodeAll? rest).map (message :: ·)
      else none
termination_by bytes.length
decreasing_by assumption

end Codec

namespace Field

variable {M α : Type}

/-- One entry. -/
def writeOne (number : Nat) (scalar : Scalar α) (value : α) : List UInt8 :=
  writeKey number scalar.type ++ scalar.write value

/-- A single field without presence. -/
def single [DecidableEq α] [Inhabited α] (number : Nat) (scalar : Scalar α) (get : M → α)
    (set : α → M → M) : Field M where
  number := number
  write message :=
    if get message = default then [] else writeOne number scalar (get message)
  read _ payload message := (scalar.read payload).map fun value => set value message

/-- A single field with presence. -/
def optional (number : Nat) (scalar : Scalar α) (get : M → Option α)
    (set : Option α → M → M) : Field M where
  number := number
  write message :=
    match get message with
    | none => []
    | some value => writeOne number scalar value
  read _ payload message := (scalar.read payload).map fun value => set (some value) message

/-- A repeated field, one entry for each value. -/
def repeated (number : Nat) (scalar : Scalar α) (get : M → List α) (set : List α → M → M) :
    Field M where
  number := number
  write message := (get message).flatMap (writeOne number scalar)
  read _ payload message := (scalar.read payload).map fun value => set (get message ++ [value]) message

/-- Numbers one after the other. -/
def numbers? (bytes : List UInt8) : Option (List Nat) :=
  match bytes with
  | [] => some []
  | first :: others =>
    match Varint.read (first :: others) with
    | none => none
    | some (n, rest) =>
      if rest.length < (first :: others).length then (numbers? rest).map (n :: ·) else none
termination_by bytes.length
decreasing_by assumption

/-- A repeated field of numbers: an entry holds one of them, or many one after the other. -/
def numbers (number : Nat) (get : M → List Nat) (set : List Nat → M → M) : Field M where
  number := number
  write message := (get message).flatMap fun n => writeKey number .varint ++ Varint.write n
  read _ payload message :=
    match payload with
    | .varint n => some (set (get message ++ [n]) message)
    | .delimited bytes => (numbers? bytes).map fun more => set (get message ++ more) message
    | _ => none

/-- A field that is read but not kept. -/
def ignored (number : Nat) (scalar : Scalar α) : Field M where
  number := number
  write _ := []
  read _ payload message := (scalar.read payload).map fun _ => message

/-- The entry of a nested message. -/
def writeNested (number : Nat) (codec : Codec α) (value : α) : List UInt8 :=
  writeKey number .delimited ++ codec.encodeDelimited value

/-- Puts a payload into a nested message. -/
def readNested (codec : Codec α) (value : α) : (depth : Nat) → Payload → Option α
  | depth + 1, .delimited bytes => codec.merge depth bytes value
  | _, _ => none

/-- A nested message. -/
def nested (number : Nat) (codec : Codec α) (get : M → Option α) (set : Option α → M → M) :
    Field M where
  number := number
  write message :=
    match get message with
    | none => []
    | some value => writeNested number codec value
  read depth payload message :=
    (readNested codec ((get message).getD codec.blank) depth payload).map fun value =>
      set (some value) message

/-- A repeated nested message. -/
def nestedAll (number : Nat) (codec : Codec α) (get : M → List α) (set : List α → M → M) :
    Field M where
  number := number
  write message := (get message).flatMap (writeNested number codec)
  read depth payload message :=
    (readNested codec codec.blank depth payload).map fun value => set (get message ++ [value]) message

/-- A nested message that is read but not kept. -/
def ignoredNested (number : Nat) (codec : Codec α) : Field M where
  number := number
  write _ := []
  read depth payload message :=
    (readNested codec codec.blank depth payload).map fun _ => message

/-- A nested message that is kept as its bytes, of which `codec` reads the known part. -/
def verbatim (number : Nat) (codec : Codec α) (get : M → List UInt8) (set : List UInt8 → M → M) :
    Field M where
  number := number
  write message := if (get message).isEmpty then [] else writeKey number .delimited ++ writeDelimited (get message)
  read depth payload message :=
    match payload with
    | .delimited bytes =>
      (readNested codec codec.blank depth payload).map fun _ => set (get message ++ bytes) message
    | _ => none

end Field

end ProtoStore.Wire
