import ProtoStore.Strategy

/-!
# Schemas

The schema the bindings are generated from: files of messages, messages of fields, and the
annotations that say how they are stored. Names are those of the schema; spellings of the generated
code are derived from them elsewhere.
-/

namespace ProtoStore

/-- The scalar types of a field. -/
inductive Scalar
  | double | float
  | int32 | int64 | uint32 | uint64
  | sint32 | sint64 | fixed32 | fixed64 | sfixed32 | sfixed64
  | bool | string | bytes
deriving Repr, DecidableEq

/-- The scalar types and their names. -/
def Scalar.names : List (String × Scalar) :=
  [("double", double), ("float", float), ("int32", int32), ("int64", int64), ("uint32", uint32),
    ("uint64", uint64), ("sint32", sint32), ("sint64", sint64), ("fixed32", fixed32),
    ("fixed64", fixed64), ("sfixed32", sfixed32), ("sfixed64", sfixed64), ("bool", bool),
    ("string", string), ("bytes", bytes)]

/-- The declared type of a field; enumerations and messages go by their full names. -/
inductive FieldKind
  | scalar (type : Scalar)
  | enumeration (name : String)
  | message (name : String)
  | map (key : Scalar) (value : FieldKind)
  | group
deriving Repr, DecidableEq, Inhabited

/-- What a field says about its presence. -/
inductive Presence
  | optional
  | required
  | unspecified
deriving Repr, DecidableEq

/-- The kinds of association between persisted messages. -/
inductive AssociationKind
  /-- The owner holds the key of the target. -/
  | embeddedOne
  /-- Each child holds the key of the owner. -/
  | hasMany
  /-- A join record holds both keys. -/
  | manyToMany
deriving Repr, DecidableEq

/-- An association as it is declared on a field. -/
structure Declaration where
  /-- The kind, if it is not left to the cardinality of the field. -/
  kind : Option AssociationKind
  strategy : Strategy
  /-- Whether the foreign key may be null, if that is said. -/
  nullable : Option Bool
  /-- The foreign key, or the owner column of a join table. -/
  foreignKey : Option String
  /-- The target column of a join table. -/
  targetKey : Option String
  joinTable : Option String
deriving Repr, DecidableEq

/-- A field of a message. -/
structure Field where
  name : String
  number : Nat
  kind : FieldKind
  /-- Whether the field holds many values. -/
  repeated : Bool
  presence : Presence
  /-- The oneof the field is a member of. -/
  oneof : Option String
  /-- The column the field asks for. -/
  column : Option String
  /-- Whether the field is annotated as the primary key. -/
  isKey : Bool
  /-- Whether the field is left out of the record. -/
  dropped : Bool
  association : Option Declaration
deriving Repr, DecidableEq

/-- The full name of the message the field holds, if its type is a message. -/
def Field.messageType? (field : Field) : Option String :=
  match field.kind with
  | .message name => some name
  | _ => none

/-- Whether the field is declared optional. -/
def Field.isOptional (field : Field) : Bool := field.presence == .optional

/-- A message type. -/
structure Message where
  name : String
  fullName : String
  package : String
  /-- The name of the file that declares the message. -/
  file : String
  fields : List Field
  /-- Whether bindings are generated for the message. -/
  persisted : Bool
  /-- The table the message asks for. -/
  table : Option String
deriving Repr, DecidableEq

/-- The first field with the given name. -/
def Message.field? (message : Message) (name : String) : Option Field :=
  message.fields.find? (·.name == name)

/-- A schema file and the messages at its top level. -/
structure SchemaFile where
  name : String
  package : String
  /-- Whether output is wanted for the file. -/
  generate : Bool
  messages : List Message
deriving Repr, DecidableEq

/-- The files of a request, imports included. -/
structure Schema where
  files : List SchemaFile
deriving Repr, DecidableEq

namespace Schema

/-- The messages of all files, in order of declaration. -/
def messages (schema : Schema) : List Message := schema.files.flatMap (·.messages)

/-- The messages bindings are generated for. -/
def persisted (schema : Schema) : List Message := schema.messages.filter (·.persisted)

/-- The first message with the given full name. -/
def message? (schema : Schema) (fullName : String) : Option Message :=
  schema.messages.find? (·.fullName == fullName)

/-- Whether a full name is that of a persisted message. -/
def isPersisted (schema : Schema) (fullName : String) : Bool :=
  (schema.message? fullName).any (·.persisted)

end Schema

end ProtoStore
