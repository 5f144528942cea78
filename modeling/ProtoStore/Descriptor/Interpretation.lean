import ProtoStore.Descriptor.Content

/-!
# Interpreting options

`Pool.options` gives the content of options. The bytes are read by the descriptor of the options in
the pool, or by the standard one if the pool has none. Then the uninterpreted options among them are
put in: the path of each is followed to a field, which must not have a value yet unless it is repeated,
and the value is taken from the notation that the type of the field asks for.
-/

namespace ProtoStore.Descriptor

open Number

/-! ## Values from notations -/

/-- A number as the payload of a type of variable length. -/
def intPayload (n : Int) : Wire.Payload := .varint (Int64.ofInt n).toUInt64.toNat

/-- A number as the payload of a type in which signs alternate. -/
def zigzagPayload (n : Int) : Wire.Payload :=
  .varint (if n < 0 then (-2 * n - 1).toNat else (2 * n).toNat)

namespace Uninterpreted

variable (option : Uninterpreted)

/-- The payload of a scalar type that an option gives. -/
def payload? : Scalar → Option Wire.Payload
  | .bool => option.bool?.map fun b => .varint (if b then 1 else 0)
  | .int32 => (option.intWithin? (-2147483648) 2147483648).map intPayload
  | .sint32 => (option.intWithin? (-2147483648) 2147483648).map zigzagPayload
  | .sfixed32 => (option.intWithin? (-2147483648) 2147483648).map fun n =>
    .fixed32 (Int32.ofInt n).toUInt32.toNat
  | .int64 => (option.intWithin? (-9223372036854775808) 9223372036854775808).map intPayload
  | .sint64 => (option.intWithin? (-9223372036854775808) 9223372036854775808).map zigzagPayload
  | .sfixed64 => (option.intWithin? (-9223372036854775808) 9223372036854775808).map fun n =>
    .fixed64 (Int64.ofInt n).toUInt64.toNat
  | .uint32 => (option.intWithin? 0 4294967296).map intPayload
  | .fixed32 => (option.intWithin? 0 4294967296).map fun n => .fixed32 n.toNat
  | .uint64 => (option.intWithin? 0 18446744073709551616).map fun n => .varint n.toNat
  | .fixed64 => (option.intWithin? 0 18446744073709551616).map fun n => .fixed64 n.toNat
  | .double => option.double?.map fun x => .fixed64 x.bits.toNat
  | .float => option.double?.map fun x => .fixed32 (Single.ofDouble x).bits.toNat
  | .string => (option.string.filter fun b => (Wire.Scalar.ofUtf8? b).isSome).map .delimited
  | .bytes => option.string.map .delimited

/-- The value of a type that an option gives. A value of an enumeration goes by its name, and there is
no notation for messages. -/
def value? (pool : Pool) (type : ResolvedType) : Option Value := do
  match type with
  | .scalar type => return .scalar (← option.payload? type)
  | .enumeration name =>
    let e ← pool.enumeration? name
    let value ← e.values.find? fun value => some value.name == option.identifier
    return .scalar (intPayload value.number.toInt)
  | .message _ | .group _ => none

end Uninterpreted

/-! ## Paths -/

namespace Pool

variable (pool : Pool)

/-- The number and the slot of the field of a message that a step of a path leads to. Extensions must
be seen from the scope of a file the options stand in, and extend the message. -/
def stepSlot? (file : File) (scope : String) (m : Located) (part : NamePart) :
    Option (Nat × Slot) := do
  if part.isExtension then
    let named ← (pool.resolve file (· == .extension) scope part.name).toOption
    let x ← pool.extensions.find? (·.fullName == named.name)
    if (pool.extended x).toOption == some m.fullName then
      return (x.field.place, ← pool.extensionSlot? x)
    else none
  else
    let field ← m.message.fields.find? (·.name == part.name)
    return (field.place, ← pool.ownSlot? m field)

/-- Puts the value an option gives to the end of a path into the content of a message. -/
def assign (file : File) (scope : String) (option : Uninterpreted) :
    List NamePart → Located → Content → Option Content
  | [], _, content => some content
  | [part], m, content => do
    let (number, slot) ← pool.stepSlot? file scope m part
    let value ← option.value? pool slot.type
    let before := content.get? number
    if slot.repeated then
      let values := (before.map (·.elements)).getD []
      return content.fill slot number (.list slot.packed (values ++ [value]))
    else if before.isSome then none
    else return content.fill slot number value
  | part :: next :: rest, m, content => do
    let (number, slot) ← pool.stepSlot? file scope m part
    let before := ((content.get? number).bind (·.content?)).getD []
    match slot.repeated, slot.type with
    | false, .message name =>
      let inner ← assign file scope option (next :: rest) (← pool.message? name) before
      return content.fill slot number (.message inner)
    | false, .group name =>
      let inner ← assign file scope option (next :: rest) (← pool.message? name) before
      return content.fill slot number (.group inner)
    | _, _ => none

/-- The content of options that belong to something in a scope of a file. -/
def options? (kind : OptionsKind) (file : File) (scope : String) (bytes : List UInt8) :
    Option Content := do
  let standard ← standardOptions.message? kind.fullName
  let _ ← standardOptions.read standard bytes
  let uninterpreted ← Uninterpreted.all? bytes
  let (pool, m) := match pool.message? kind.fullName with
    | some m => (pool, m)
    | none => (standardOptions, standard)
  let content ← pool.read m bytes
  uninterpreted.foldlM
    (fun content option => pool.assign file scope option option.path m content) content

/-- The content of options that belong to something in a scope of a file. -/
def options (kind : OptionsKind) (file : File) (scope : String) (bytes : List UInt8) :
    Except Error Content :=
  if bytes.isEmpty then .ok []
  else match pool.options? kind file scope bytes with
    | some content => .ok content
    | none => .error (.invalidOptions scope)

end Pool

end ProtoStore.Descriptor
