import ProtoStore.Emit.Scope
import ProtoStore.Emit.Types

/-!
# Emitted records

The struct that stores a message, its binding to a table, and the join records of its many-to-many
associations. A record without a key has no operations and is bound by the name of its table alone.
-/

namespace ProtoStore.Emit

/-- A field of `self`, cloned unless it is copied. -/
def selfField (field : Ident) (isCopy : Bool) : Code :=
  Code.fill (if isCopy then "self . $" else "self . $ . clone ()") [field.code]

/-- What the generated struct of a record derives. -/
def recordAttributes (doc : String) : Code :=
  docAttribute doc ++ Code.ofText "# [derive (Debug , Clone , Default , PartialEq)]"

/-- The arm that reads a column. -/
def readArm (rt : Code) (column : String) (value : Code) : Code :=
  Code.fill "$ => :: core :: option :: Option :: Some ($ :: Value :: from ($)) ,"
    [Code.literal column, rt, value]

/-- The arm that resets a column. -/
def resetArm (column : String) (field : Ident) : Code :=
  Code.fill "$ => self . $ = :: core :: default :: Default :: default () ,"
    [Code.literal column, field.code]

/-- What a binding of a record to its table needs. -/
structure Binding where
  keyType : Code
  table : String
  keyColumn : String
  columns : List String
  /-- The value of the key. -/
  key : Code
  /-- The statement that sets the key. -/
  setKey : Code
  readArms : Code
  resetArms : Code
  /-- The test whether the key is empty, where it is not that of the key type. -/
  isEmpty : Option Code

/-- The body of the implementation that binds a record to its table. -/
def Binding.body (rt : Code) (binding : Binding) : Code :=
  Code.fill
    "type Key = $ ;
    const TABLE_NAME : & 'static str = $ ;
    const PRIMARY_KEY : & 'static str = $ ;
    const COLUMNS : & 'static [& 'static str] = & [$] ;
    fn primary_key (& self) -> Self :: Key ⟨ $ ⟩
    fn set_primary_key (& mut self , key : Self :: Key) ⟨ $ ⟩
    fn column (& self , column : & str) -> :: core :: option :: Option < $ :: Value > ⟨
      match column ⟨ $ _ => :: core :: option :: Option :: None , ⟩
    ⟩
    fn reset_column (& mut self , column : & str) -> bool ⟨
      match column ⟨ $ _ => return false , ⟩
      true
    ⟩"
    [binding.keyType, Code.literal binding.table, Code.literal binding.keyColumn,
      Code.joined [.atom ","] (binding.columns.map Code.literal), binding.key, binding.setKey, rt,
      binding.readArms, binding.resetArms]
    ++ match binding.isEmpty with
      | some test => Code.fill "fn key_is_empty (& self) -> bool ⟨ $ ⟩" [test]
      | none => []

/-- The implementation that binds a record to its table. -/
def Binding.item (rt : Code) (record : Ident) (binding : Binding) : Item :=
  .implementation (some (Code.fill "$ :: Record" [rt])) record.code (binding.body rt)

/-- The binding of the record of a message with a key. -/
def keyedBinding (rt : Code) (record : RecordModel) (key : PrimaryKey)
    (fields : List (RecordField × Ident)) : Except CodeError Binding := do
  let ident ← key.ident
  return {
    keyType := key.typeCode rt
    table := record.table
    keyColumn := key.column
    columns := record.fields.map (·.column)
    key := selfField ident (key.kind != .string)
    setKey := Code.fill "self . $ = key ;" [ident.code]
    readArms := fields.flatMap fun (field, ident) =>
      readArm rt field.column (selfField ident field.type.isCopy)
    resetArms := fields.flatMap fun (field, ident) => resetArm field.column ident
    isEmpty := some (key.kind.emptiness.test (Code.fill "self . $" [ident.code])) }

/-- The struct and the binding of a join record. -/
def joinItems (rt : Code) (owner : RecordModel) (join : Join) : Except CodeError (List Item) := do
  let name ← Ident.ofText join.name
  let ownerField ← Ident.ofText join.ownerColumn
  let targetField ← Ident.ofText join.targetColumn
  let ownerType := join.ownerKey.keyType.code rt
  let targetType := join.targetKey.keyType.code rt
  let ownerValue := selfField ownerField (join.ownerKey != .string)
  let targetValue := selfField targetField (join.targetKey != .string)
  let binding : Binding := {
    keyType := Code.fill "($ , $)" [ownerType, targetType]
    table := join.table
    keyColumn := join.ownerColumn
    columns := [join.ownerColumn, join.targetColumn]
    key := Code.fill "($ , $)" [ownerValue, targetValue]
    setKey := Code.fill "(self . $ , self . $) = key ;" [ownerField.code, targetField.code]
    readArms := readArm rt join.ownerColumn ownerValue ++ readArm rt join.targetColumn targetValue
    resetArms := resetArm join.ownerColumn ownerField ++ resetArm join.targetColumn targetField
    isEmpty := none }
  return [
    .record (recordAttributes s!" Join record linking `{owner.message}` to its associated rows.") name
      [(ownerField, ownerType), (targetField, targetType)],
    binding.item rt name]

/-- The item that binds the record of a message to its table. -/
def bindingItem (rt : Code) (record : RecordModel) (name : Ident)
    (fields : List (RecordField × Ident)) : Except CodeError Item :=
  match record.primaryKey with
  | some key => do return (← keyedBinding rt record key fields).item rt name
  | none => .ok (.implementation none name.code
      (docComment ["Table the record lives in"]
        ++ Code.fill "pub const TABLE_NAME : & 'static str = $ ;" [Code.literal record.table]))

/-- The record of a message, its binding and its join records. -/
def record (scope : Scope) : Except CodeError (List Item) := do
  let rt := scope.rt
  let name ← scope.recordIdent
  let fields ← scope.record.fields.mapM fun field => do return (field, ← field.ident)
  let binding ← bindingItem rt scope.record name fields
  let joins ← scope.record.joins.mapM (joinItems rt scope.record)
  return [
    .record (recordAttributes s!" Storage record of `{scope.record.message}`.") name
      (fields.map fun (field, ident) => (ident, field.type.code rt)),
    binding] ++ joins.flatten

end ProtoStore.Emit
