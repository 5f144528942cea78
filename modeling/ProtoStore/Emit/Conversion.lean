import ProtoStore.Emit.Hooks
import ProtoStore.Emit.Record

/-!
# Emitted conversions

`to_orm` makes the record of a message and `to_pb` the message of a record. They copy every field
that has a column, between two hooks each; keys of other rows and associated messages are left to the
operations.
-/

namespace ProtoStore.Emit

/-- The value a column gets from the field of the message with the given identifier and name. -/
def toRecord (rt : Code) (type : ColumnType) (field : Ident) (name : String) : Code :=
  match type.conversion with
  | .direct => selfField field type.isCopy
  | .timestamp =>
    Code.fill
      "self . $ . as_ref () . map (| value | $ :: convert :: timestamp_to_datetime (value , $))
        . transpose () ?"
      [field.code, rt, Code.literal name]
  | .uuid =>
    Code.fill "$ :: convert :: uuid_from_proto (self . $ . as_ref () , $) ?"
      [rt, field.code, Code.literal name]
  | .json =>
    Code.fill "$ :: convert :: encode_json (& self . $ , $) ?" [rt, field.code, Code.literal name]
  | .message =>
    Code.fill "self . $ . as_ref () . map ($ :: convert :: encode_message)" [field.code, rt]
  | .messages => Code.fill "$ :: convert :: encode_messages (& self . $)" [rt, field.code]

/-- The value a field of the message gets from its column. -/
def toMessage (rt : Code) (type : ColumnType) (field : Ident) (name : String) : Code :=
  match type.conversion with
  | .direct => selfField field type.isCopy
  | .timestamp =>
    Code.fill "self . $ . as_ref () . map ($ :: convert :: datetime_to_timestamp)" [field.code, rt]
  | .uuid => Code.fill "self . $ . as_ref () . map ($ :: convert :: uuid_to_proto)" [field.code, rt]
  | .json =>
    Code.fill "$ :: convert :: decode_json (& self . $ , $) ?" [rt, field.code, Code.literal name]
  | .message =>
    Code.fill
      "self . $ . as_deref () . map (| column | $ :: convert :: decode_message (column , $))
        . transpose () ?"
      [field.code, rt, Code.literal name]
  | .messages =>
    Code.fill "$ :: convert :: decode_messages (& self . $ , $) ?"
      [rt, field.code, Code.literal name]

/-- One of the two conversions: its name and doc, the types on both sides, and its statements. -/
def conversionItem (rt : Code) (hooksTrait source target : Ident) (doc : String) (name : String)
    (copies : Code) : Item :=
  .implementation none source.code
    (docComment [doc]
      ++ Code.fill
        "pub fn $ < H : $ + ? Sized > (& self , ctx : & $ :: Context , hooks : & H ,)
          -> :: core :: result :: Result < $ , $ :: PersistError > ⟨
          let mut to = $ :: default () ;
          $ $ $
          Ok (to)
        ⟩"
        [[.atom name], hooksTrait.code, rt, target.code, rt, target.code, call "before_", copies,
          call "after_"])
where
  /-- The hook on one side of the copying. -/
  call (when : String) : Code :=
    hookCall rt hooksTrait.code (when ++ name) [[.atom "self"], Code.ofText "& mut to"]

/-- The conversions of the message in a scope. -/
def conversion (scope : Scope) : Except CodeError (List Item) := do
  let rt := scope.rt
  let message ← scope.messageIdent
  let record ← scope.recordIdent
  let hooksTrait ← scope.hooksIdent
  let columns := scope.record.fields.filterMap fun field =>
    field.schemaField?.map fun name => (field, name)
  let copies ← columns.mapM fun (field, name) => do
    return (field.type, ← field.ident, ← Naming.fieldIdent name, name)
  let assign (column : Ident) (value : Code) : Code :=
    Code.fill "to . $ = $ ;" [column.code, value]
  return [
    conversionItem rt hooksTrait message record "Convert to the storage record." "to_orm"
      (copies.flatMap fun (type, column, field, name) =>
        assign column (toRecord rt type field name)),
    conversionItem rt hooksTrait record message "Convert back to the message." "to_pb"
      (copies.flatMap fun (type, column, field, name) =>
        assign column (toMessage rt type field name))]

end ProtoStore.Emit
