import ProtoStore.Schema.Association

/-!
# Record models

A persisted message is stored in a record. `Schema.recordOf` lists its fields: the columns of the
message in order of declaration, then the foreign keys of its embedded messages, then the foreign
keys that refer back to the owners whose child it is. `Schema.models` does so for a whole schema.
-/

namespace ProtoStore

/-- Where a field of a record comes from. -/
inductive FieldOrigin
  /-- A field of the message. -/
  | schema (field : String)
  /-- An embedded message, which the field refers to. -/
  | foreignKey (association : String)
  /-- A has-many association of another message, whose row the field refers to. -/
  | backReference (owner association : String)
deriving Repr, DecidableEq

/-- A field of a record. -/
structure RecordField where
  /-- The name in code, before it is made an identifier. -/
  name : String
  column : String
  type : ColumnType
  origin : FieldOrigin
deriving Repr, DecidableEq

namespace RecordField

/-- The identifier of the field. -/
def ident (field : RecordField) : Except CodeError Ident := Ident.ofText field.name

/-- The field of the message that is stored in this one. -/
def schemaField? (field : RecordField) : Option String :=
  match field.origin with
  | .schema name => some name
  | _ => none

/-- Whether the field refers back to an owner. -/
def isBackReference (field : RecordField) : Bool :=
  match field.origin with
  | .backReference .. => true
  | _ => false

end RecordField

/-- The record of a persisted message. -/
structure RecordModel where
  /-- The full name of the message. -/
  message : String
  name : String
  package : String
  file : String
  table : String
  fields : List RecordField
  primaryKey : Option PrimaryKey
  /-- The associations the message declares. -/
  associations : List Association
deriving Repr, DecidableEq

namespace RecordModel

/-- The identifier of the record type. -/
def ident (record : RecordModel) : Except CodeError Ident := Naming.recordIdent record.name

/-- The join records the message owns. -/
def joins (record : RecordModel) : List Join :=
  record.associations.filterMap fun association =>
    match association.link with
    | .manyToMany join => some join
    | _ => none

/-- The fields that refer back to owners. -/
def backReferences (record : RecordModel) : List RecordField :=
  record.fields.filter (·.isBackReference)

end RecordModel

/-! ## The fields of a record -/

/-- The record field of a field of the message, if it has a column. -/
def Field.recordField? (schema : Schema) (message : Message) (field : Field) :
    Except SchemaError (Option RecordField) := do
  match ← field.role schema message with
  | .column type =>
    return some ⟨Naming.snake field.name, field.columnName, type, .schema field.name⟩
  | .association _ | .dropped => return none

/-- The foreign key an association adds to the record of its owner. -/
def Association.ownerField? (association : Association) : Option RecordField :=
  match association.link with
  | .embeddedOne foreignKey nullable targetKey =>
    some ⟨foreignKey, foreignKey, targetKey.foreignKeyType nullable, .foreignKey association.field⟩
  | _ => none

/-- The foreign key an association adds to the record of its children. -/
def Association.childField? (association : Association) : Option RecordField :=
  match association.link with
  | .hasMany foreignKey nullable false ownerKey =>
    some ⟨foreignKey, foreignKey, ownerKey.foreignKeyType nullable,
      .backReference association.owner association.field⟩
  | _ => none

/-- The first text that occurs again later than itself, found at its second occurrence. -/
def firstRepeated? (seen : List String) : List String → Option String
  | [] => none
  | text :: rest => if seen.contains text then some text else firstRepeated? (text :: seen) rest

/-- The record of a message. No two of its fields have one column. -/
def Schema.recordOf (schema : Schema) (keys : Keys) (resolution : Resolution) (message : Message) :
    Except SchemaError RecordModel := do
  let columns ← message.fields.mapM fun field => field.recordField? schema message
  let associations := resolution.ownedBy message.fullName
  let fields := columns.filterMap id ++ associations.filterMap (·.ownerField?)
    ++ (resolution.childrenOf message.fullName).filterMap (·.childField?)
  match firstRepeated? [] (fields.map (·.column)) with
  | some column =>
    throw (.malformed message.fullName s!"column `{column}` is used by more than one field")
  | none =>
    return {
      message := message.fullName
      name := message.name
      package := message.package
      file := message.file
      table := message.table.getD (Naming.tableName message.name)
      fields
      primaryKey := keys.find? message.fullName
      associations }

/-! ## The records of a schema -/

/-- The records of a schema and how they are associated. -/
structure Models where
  resolution : Resolution
  /-- The records, in the order of the resolution. -/
  records : List RecordModel
deriving Repr, DecidableEq

/-- The record of a message. -/
def Models.record? (models : Models) (fullName : String) : Option RecordModel :=
  models.records.find? (·.message == fullName)

/-- Resolves the associations of a schema and builds its records. -/
def Schema.models (schema : Schema) : Except SchemaError Models := do
  let keys ← schema.keys
  let resolution ← schema.resolve keys
  let messages := resolution.order.filterMap schema.message?
  let records ← messages.mapM (schema.recordOf keys resolution)
  return ⟨resolution, records⟩

end ProtoStore
