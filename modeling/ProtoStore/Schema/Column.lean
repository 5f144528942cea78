import ProtoStore.Schema.Basic
import ProtoStore.Schema.Error

/-!
# Columns

`Field.role` decides what becomes of a field: a column of a certain type, an association, or nothing
because the field is dropped. Anything else is an error. A column type says what is stored, whether
it may be null, and how the value of the message is converted.
-/

namespace ProtoStore

/-- What a column holds. -/
inductive ColumnScalar
  | bool | i32 | i64 | u32 | u64 | f32 | f64 | string | bytes | dateTime | uuid
deriving Repr, DecidableEq

/-- How a value gets from the message to the record. -/
inductive Conversion
  /-- As it is. -/
  | direct
  /-- A timestamp message as a date and time. -/
  | timestamp
  /-- A UUID message as a UUID. -/
  | uuid
  /-- Repeated scalars or a map of scalars as JSON text. -/
  | json
  /-- A message as its encoding. -/
  | message
  /-- Messages as their encodings, each after its length. -/
  | messages
deriving Repr, DecidableEq

/-- The type of a column. -/
structure ColumnType where
  scalar : ColumnScalar
  nullable : Bool
  conversion : Conversion
deriving Repr, DecidableEq

/-- What becomes of a field. -/
inductive FieldRole
  | column (type : ColumnType)
  | association (target : String)
  | dropped
deriving Repr, DecidableEq

/-- Whether values are copied rather than cloned. -/
def ColumnScalar.isCopy : ColumnScalar → Bool
  | .string | .bytes => false
  | _ => true

/-- The storage of a scalar field. -/
def Scalar.storage : Scalar → ColumnScalar
  | .double => .f64
  | .float => .f32
  | .int32 | .sint32 | .sfixed32 => .i32
  | .int64 | .sint64 | .sfixed64 => .i64
  | .uint32 | .fixed32 => .u32
  | .uint64 | .fixed64 => .u64
  | .bool => .bool
  | .string => .string
  | .bytes => .bytes

namespace ColumnType

/-- A column that takes the value as it is. -/
def direct (scalar : ColumnScalar) (nullable : Bool) : ColumnType := ⟨scalar, nullable, .direct⟩

/-- The column of repeated scalars and maps. -/
def json : ColumnType := ⟨.string, false, .json⟩

/-- Whether the record field is copied rather than cloned. -/
def isCopy (type : ColumnType) : Bool := type.scalar.isCopy

end ColumnType

/-! ## Well-known messages -/

/-- The full name of the UUID message. -/
def uuidMessage : String := "persist.types.UUID"

/-- Messages with a storage of their own. -/
inductive WellKnown
  | timestamp
  | uuid
  /-- A message around one optional scalar. -/
  | wrapper (scalar : ColumnScalar)
  /-- A message that has no encoding. -/
  | unsupported
deriving Repr, DecidableEq

/-- The well-known messages by full name. -/
def WellKnown.table : List (String × WellKnown) :=
  [("google.protobuf.Timestamp", .timestamp), (uuidMessage, .uuid),
    ("google.protobuf.DoubleValue", .wrapper .f64), ("google.protobuf.FloatValue", .wrapper .f32),
    ("google.protobuf.Int64Value", .wrapper .i64), ("google.protobuf.UInt64Value", .wrapper .u64),
    ("google.protobuf.Int32Value", .wrapper .i32), ("google.protobuf.UInt32Value", .wrapper .u32),
    ("google.protobuf.BoolValue", .wrapper .bool), ("google.protobuf.StringValue", .wrapper .string),
    ("google.protobuf.BytesValue", .wrapper .bytes), ("google.protobuf.Empty", .unsupported)]

/-- The well-known message with a name. -/
def WellKnown.ofName? (name : String) : Option WellKnown := WellKnown.table.lookup name

/-! ## The role of a field -/

/-- The column of a message that is not persisted, or `none` if it has no encoding. -/
def messageColumn? (name : String) (repeated : Bool) : Option ColumnType :=
  match WellKnown.ofName? name, repeated with
  | some .unsupported, _ => none
  | some (.wrapper _), true => some .json
  | _, true => some ⟨.bytes, false, .messages⟩
  | some (.wrapper scalar), false => some (.direct scalar true)
  | some .timestamp, false => some ⟨.dateTime, true, .timestamp⟩
  | some .uuid, false => some ⟨.uuid, true, .uuid⟩
  | none, false => some ⟨.bytes, true, .message⟩

/-- The role of a field of `message`. -/
def Field.role (schema : Schema) (message : Message) (field : Field) :
    Except SchemaError FieldRole :=
  if field.dropped then .ok .dropped
  else
    let unmappable (type : String) : Except SchemaError FieldRole :=
      .error (.unmappable message.fullName field.name type)
    match field.oneof with
    | some oneof => unmappable s!"member of oneof `{oneof}`"
    | none =>
      match field.kind with
      | .group => unmappable "group"
      | .map _ (.scalar _) | .map _ (.enumeration _) => .ok (.column .json)
      | .map _ _ => unmappable "map with message values"
      | .scalar type =>
        .ok (.column (if field.repeated then .json else .direct type.storage field.isOptional))
      | .enumeration _ =>
        .ok (.column (if field.repeated then .json else .direct .i32 field.isOptional))
      | .message name =>
        if schema.isPersisted name then .ok (.association name)
        else
          match messageColumn? name field.repeated with
          | some type => .ok (.column type)
          | none => unmappable name

/-- Whether the value of the message field is copied rather than cloned. -/
def Field.valueIsCopy (field : Field) : Bool :=
  !field.repeated &&
    match field.kind with
    | .scalar type => type.storage.isCopy
    | .enumeration _ => true
    | .message name =>
      match WellKnown.ofName? name with
      | some (.wrapper scalar) => scalar.isCopy
      | _ => false
    | .map _ _ | .group => false

end ProtoStore
