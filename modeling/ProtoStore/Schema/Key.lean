import ProtoStore.Schema.Column
import ProtoStore.Schema.Naming

/-!
# Primary keys

`Message.primaryKey` finds the key of a message: the field annotated as such, or else the field
named `id`. A message may have none. `KeyKind` lists the types of keys and the columns that hold a
key or refer to it.
-/

namespace ProtoStore

/-- The types of primary keys. -/
inductive KeyKind
  | int32 | int64 | uint32 | uint64 | string | uuid
deriving Repr, DecidableEq

/-- What a key looks like that identifies nothing. -/
inductive Emptiness
  | zero
  | emptyString
  /-- No identifier, or the nil UUID. -/
  | null
deriving Repr, DecidableEq

namespace KeyKind

/-- The kind of key a scalar can be. -/
def ofScalar? : Scalar → Option KeyKind
  | .int32 | .sint32 | .sfixed32 => some .int32
  | .int64 | .sint64 | .sfixed64 => some .int64
  | .uint32 | .fixed32 => some .uint32
  | .uint64 | .fixed64 => some .uint64
  | .string => some .string
  | .double | .float | .bool | .bytes => none

/-- The kind of key a field of the given type can be. -/
def ofKind? : FieldKind → Option KeyKind
  | .scalar type => ofScalar? type
  | .message name => if name == uuidMessage then some .uuid else none
  | _ => none

/-- What a key column holds. -/
def storage : KeyKind → ColumnScalar
  | .int32 => .i32
  | .int64 => .i64
  | .uint32 => .u32
  | .uint64 => .u64
  | .string => .string
  | .uuid => .uuid

/-- What an empty key looks like. -/
def emptiness : KeyKind → Emptiness
  | .string => .emptyString
  | .uuid => .null
  | _ => .zero

/-- The column of the key itself; a UUID is null until it is generated. -/
def keyType (kind : KeyKind) : ColumnType :=
  ⟨kind.storage, kind == .uuid, if kind == .uuid then .uuid else .direct⟩

/-- The column of a foreign key. -/
def foreignKeyType (kind : KeyKind) (nullable : Bool) : ColumnType :=
  .direct kind.storage (nullable || kind == .uuid)

/-- Whether a foreign key holds the key as an optional value although the key is not optional
itself. -/
def wrapsForeignKey (kind : KeyKind) (nullable : Bool) : Bool := nullable && kind != .uuid

end KeyKind

/-- The primary key of a message. -/
structure PrimaryKey where
  /-- The field that holds the key. -/
  field : String
  column : String
  kind : KeyKind
  /-- Whether the value of the message field is copied. -/
  valueIsCopy : Bool
deriving Repr, DecidableEq

/-- The identifier of the key, on the message and on the record. -/
def PrimaryKey.ident (key : PrimaryKey) : Except CodeError Ident := Naming.fieldIdent key.field

/-- The column of a field. -/
def Field.columnName (field : Field) : String := field.column.getD (Naming.snake field.name)

/-- The field that is the key, if there is one. -/
def Message.keyField? (message : Message) : Except SchemaError (Option Field) :=
  match message.fields.filter (·.isKey) with
  | [] => .ok ((message.field? "id").filter (!·.dropped))
  | [field] => .ok (some field)
  | first :: second :: _ =>
    .error (.malformed message.fullName
      s!"both `{first.name}` and `{second.name}` are marked primary_key")

/-- The key a field makes. -/
def Field.toKey (message : Message) (field : Field) : Except SchemaError PrimaryKey :=
  let malformed (reason : String) : Except SchemaError PrimaryKey :=
    .error (.malformed s!"{message.fullName}.{field.name}" reason)
  if field.dropped then malformed "a primary key cannot be dropped"
  else if field.repeated then malformed "a primary key cannot be repeated"
  else if field.oneof.isSome then malformed "a primary key cannot be a oneof member"
  else
    match KeyKind.ofKind? field.kind with
    | none => malformed "a primary key must be an integer, a string or a persist.types.UUID"
    | some kind =>
      if kind != .uuid && field.isOptional then malformed "a primary key cannot be optional"
      else .ok ⟨field.name, field.columnName, kind, field.valueIsCopy⟩

/-- The primary key of a message. -/
def Message.primaryKey (message : Message) : Except SchemaError (Option PrimaryKey) := do
  match ← message.keyField? with
  | none => return none
  | some field => return some (← field.toKey message)

/-- Primary keys by the full names of their messages. -/
abbrev Keys := List (String × PrimaryKey)

/-- The key of a message; of several messages with one name, that of the last. -/
def Keys.find? (keys : Keys) (fullName : String) : Option PrimaryKey :=
  keys.reverse.lookup fullName

/-- The keys of the persisted messages. -/
def Schema.keys (schema : Schema) : Except SchemaError Keys := do
  let found ← schema.persisted.mapM fun message => do
    return (message.fullName, ← message.primaryKey)
  return found.filterMap fun entry => entry.2.map fun key => (entry.1, key)

/-- The keys of all messages for which there is one, whatever is wrong with the others. -/
def Schema.soundKeys (schema : Schema) : Keys :=
  schema.messages.filterMap fun message =>
    match message.primaryKey with
    | .ok (some key) => some (message.fullName, key)
    | _ => none

end ProtoStore
