import ProtoStore.Descriptor.Options

/-!
# Contents

A message whose type is known by its descriptor only is read into its content: a value for each field
number. A value is kept as the entries it is written as, so that content can be written without the
descriptor. Numbers are cut to the width of their type, a field that may be left out is left out if it
has its default, and of the members of a oneof the last one read is kept. Entries of unknown fields
are kept as they are.

`Pool.read` reads the content of a message, `Content.write` writes it.
-/

namespace ProtoStore

/-! ## Scalars -/

namespace Scalar

/-- The form of the entries that hold a scalar. -/
def wireType : Scalar → Wire.WireType
  | double | fixed64 | sfixed64 => .fixed64
  | float | fixed32 | sfixed32 => .fixed32
  | string | bytes => .delimited
  | int32 | int64 | uint32 | uint64 | sint32 | sint64 | bool => .varint

/-- The number of an entry, cut to the width of a type. -/
def cut (type : Scalar) (n : Nat) : Nat :=
  match type with
  | bool => if n == 0 then 0 else 1
  | int32 => (UInt64.ofNat n).toInt64.toInt32.toInt64.toUInt64.toNat
  | uint32 | sint32 => n % UInt32.size
  | _ => n

/-- The payload that holds what a type takes from a payload. -/
def payload? (type : Scalar) : Wire.Payload → Option Wire.Payload
  | .varint n => if type.wireType == .varint then some (.varint (type.cut n)) else none
  | .fixed64 n => if type.wireType == .fixed64 then some (.fixed64 n) else none
  | .fixed32 n => if type.wireType == .fixed32 then some (.fixed32 n) else none
  | .delimited b =>
    match type with
    | bytes => some (.delimited b)
    | string => if (Wire.Scalar.ofUtf8? b).isSome then some (.delimited b) else none
    | _ => none
  | .group _ => none

end Scalar

namespace Descriptor

/-! ## Values -/

/-- The value of a field. -/
inductive Value
  | scalar (payload : Wire.Payload)
  | message (fields : List (Nat × Value))
  | group (fields : List (Nat × Value))
  /-- The values of a repeated field, all in one entry if they are packed. -/
  | list (packed : Bool) (values : List Value)
  /-- The payloads of a field that is not known. -/
  | unknown (payloads : List Wire.Payload)

/-- The content of a message: the values of its fields, in the order of their numbers. -/
abbrev Content := List (Nat × Value)

namespace Value

/-- The content of a message that is a value. -/
def content? : Value → Option Content
  | message fields => some fields
  | group fields => some fields
  | _ => none

/-- The values of a repeated field. -/
def elements : Value → List Value
  | list _ values => values
  | _ => []

/-- Whether a value is the default of its type. -/
def isBlank : Value → Bool
  | scalar (.varint n) => n == 0
  | scalar (.fixed64 n) => n == 0
  | scalar (.fixed32 n) => n == 0
  | scalar (.delimited bytes) => bytes.isEmpty
  | list _ values => values.isEmpty
  | _ => false

end Value

namespace Content

/-- The value of the field with the given number. -/
def get? (content : Content) (number : Nat) : Option Value := content.lookup number

/-- Puts a value in the place of that of a field. -/
def set (number : Nat) (value : Value) : Content → Content
  | [] => [(number, value)]
  | (n, v) :: rest =>
    if number < n then (number, value) :: (n, v) :: rest
    else if number = n then (number, value) :: rest
    else (n, v) :: set number value rest

/-- Takes a field away. -/
def erase (content : Content) (number : Nat) : Content := content.filter (·.1 != number)

/-- Adds an entry of an unknown field. -/
def addUnknown (content : Content) (entry : Wire.Entry) : Content :=
  let before := match content.get? entry.number with
    | some (.unknown payloads) => payloads
    | _ => []
  content.set entry.number (.unknown (before ++ [entry.payload]))

end Content

/-! ## Writing -/

/-- A payload without its key. -/
def writePayload : Wire.Payload → List UInt8
  | .varint n => Wire.Varint.write n
  | .fixed64 n => Wire.writeFixed 8 n
  | .fixed32 n => Wire.writeFixed 4 n
  | .delimited bytes => Wire.writeDelimited bytes
  | .group bytes => bytes

/-- The form of a payload. -/
def payloadType : Wire.Payload → Wire.WireType
  | .varint _ => .varint
  | .fixed64 _ => .fixed64
  | .fixed32 _ => .fixed32
  | .delimited _ => .delimited
  | .group _ => .groupStart

/-- An entry. -/
def writeEntry (number : Nat) (payload : Wire.Payload) : List UInt8 :=
  let closing := match payload with
    | .group _ => Wire.writeKey number .groupEnd
    | _ => []
  Wire.writeKey number (payloadType payload) ++ writePayload payload ++ closing

/-- What a packed list holds of a value. -/
def Value.writeBare : Value → List UInt8
  | .scalar payload => writePayload payload
  | _ => []

mutual

/-- The entries of a value. -/
def Value.write (number : Nat) : Value → List UInt8
  | .scalar payload => writeEntry number payload
  | .message fields => writeEntry number (.delimited (Value.writeFields fields))
  | .group fields => writeEntry number (.group (Value.writeFields fields))
  | .list true values => writeEntry number (.delimited (values.flatMap Value.writeBare))
  | .list false values => Value.writeEach number values
  | .unknown payloads => payloads.flatMap (writeEntry number)

/-- The entries of the values of a repeated field. -/
def Value.writeEach (number : Nat) : List Value → List UInt8
  | [] => []
  | value :: rest => value.write number ++ Value.writeEach number rest

/-- The entries of fields. -/
def Value.writeFields : List (Nat × Value) → List UInt8
  | [] => []
  | (number, value) :: rest => value.write number ++ Value.writeFields rest

end

/-- The bytes of content. -/
def Content.write (content : Content) : List UInt8 := Value.writeFields content

/-! ## Slots -/

/-- How a message holds the value of a field. -/
structure Slot where
  type : ResolvedType
  repeated : Bool
  packed : Bool
  /-- Whether the default is told apart from no value. -/
  hasPresence : Bool
  /-- The numbers of the other members of the oneof the field is in. -/
  rivals : List Nat

namespace ResolvedType

/-- The scalar type that values are written as, if it is one. -/
def scalar? : ResolvedType → Option Scalar
  | scalar type => some type
  | enumeration _ => some .int32
  | message _ | group _ => none

/-- The form of the values of a list, if they can be packed. -/
def packing? (type : ResolvedType) : Option Wire.WireType :=
  (type.scalar?.map (·.wireType)).filter (· != .delimited)

end ResolvedType

/-- The number of a field. -/
def Field.place (field : Field) : Nat := field.number.toInt.toNat

namespace Pool

variable (pool : Pool)

/-- The slot of a field that stands in a scope. -/
def slotOf? (file : File) (scope : String) (field : Field) (rivals : List Nat) : Option Slot := do
  let type ← (pool.type file scope field).toOption
  let repeated := field.label == .repeated
  return {
    type
    repeated
    packed := repeated && type.packing?.isSome && field.isPacked file
    hasPresence := field.proto3Optional || field.oneofIndex.isSome
      || (!repeated && (type.scalar?.isNone || file.hasPresence))
    rivals }

/-- The slot of the field of a message with the given number. -/
def ownSlot? (m : Located) (field : Field) : Option Slot :=
  pool.slotOf? m.file m.fullName field <|
    if field.oneofIndex.isNone then []
    else (m.message.fields.filter fun other =>
      other.oneofIndex == field.oneofIndex && other.number != field.number).map (·.place)

/-- The slot of an extension. -/
def extensionSlot? (x : Extension) : Option Slot := pool.slotOf? x.file x.scope x.field []

/-- The slot of the field with the given number, of a message itself or of an extension of it. -/
def slot? (m : Located) (number : Nat) : Option Slot :=
  match m.message.fields.find? (·.place == number) with
  | some field => pool.ownSlot? m field
  | none =>
    (pool.extensions.find? fun x =>
      x.field.place == number && (pool.extended x).toOption == some m.fullName).bind
        pool.extensionSlot?

end Pool

/-- Puts a value in its slot. -/
def Content.fill (content : Content) (slot : Slot) (number : Nat) (value : Value) : Content :=
  let content := slot.rivals.foldl Content.erase content
  if value.isBlank && !slot.hasPresence then content.erase number else content.set number value

/-! ## Reading -/

/-- The payloads of a form that stand one after the other. -/
def payloads? (type : Wire.WireType) (bytes : List UInt8) : Option (List Wire.Payload) :=
  match bytes with
  | [] => some []
  | first :: others =>
    match Wire.readPayload 0 0 (first :: others) type with
    | none => none
    | some (payload, rest) =>
      if rest.length < (first :: others).length then (payloads? type rest).map (payload :: ·)
      else none
termination_by bytes.length
decreasing_by assumption

namespace Pool

variable (pool : Pool)

/-- Reads a payload into a value of a type. `nested` reads the bytes of a message into content. -/
def readValue (nested : Located → List UInt8 → Content → Option Content) (type : ResolvedType)
    (before : Content) (payload : Wire.Payload) : Option Value :=
  match type, payload with
  | .message name, .delimited bytes => do
    return .message (← nested (← pool.message? name) bytes before)
  | .group name, .group bytes => do
    return .group (← nested (← pool.message? name) bytes before)
  | type, payload => do
    return .scalar (← (← type.scalar?).payload? payload)

/-- Reads a payload into the values of a repeated field. -/
def readElements (nested : Located → List UInt8 → Content → Option Content) (type : ResolvedType)
    (payload : Wire.Payload) : Option (List Value) :=
  match type.packing?, payload with
  | some form, .delimited bytes => do
    (← payloads? form bytes).mapM (pool.readValue nested type [])
  | _, _ => do return [← pool.readValue nested type [] payload]

/-- Reads an entry of a message into its content. -/
def readEntry (nested : Located → List UInt8 → Content → Option Content) (m : Located)
    (content : Content) (entry : Wire.Entry) : Option Content :=
  match pool.slot? m entry.number with
  | none => some (content.addUnknown entry)
  | some slot => do
    let before := content.get? entry.number
    let value ← if slot.repeated then do
        let more ← pool.readElements nested slot.type entry.payload
        pure (Value.list slot.packed ((before.map (·.elements)).getD [] ++ more))
      else pool.readValue nested slot.type ((before.bind (·.content?)).getD []) entry.payload
    return content.fill slot entry.number value

/-- Reads the bytes of a message into content. Messages in it may be nested so deep. -/
def readInto (m : Located) (bytes : List UInt8) (content : Content) : (depth : Nat) → Option Content
  | 0 => do
    (← Wire.entries? 0 bytes).foldlM (pool.readEntry (fun _ _ _ => none) m) content
  | depth + 1 => do
    (← Wire.entries? (depth + 1) bytes).foldlM
      (pool.readEntry (fun m bytes content => readInto m bytes content depth) m) content

/-- The content of a message. -/
def read (m : Located) (bytes : List UInt8) : Option Content :=
  pool.readInto m bytes [] Wire.Codec.depthLimit

end Pool

end Descriptor

end ProtoStore
