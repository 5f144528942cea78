import ProtoStore.Descriptor.Annotation
import ProtoStore.Descriptor.Check

/-!
# The schema of a pool

`Pool.schema` takes the files of a pool, the messages at their top level and the annotations of these
as a schema. Fields come in the order of their numbers.

Annotations are looked for under the numbers that the extensions `persist.model` and `persist.field`
have in the pool.
-/

namespace ProtoStore.Descriptor

namespace Pool

variable (pool : Pool)

/-! ## Annotations -/

/-- The annotation that options hold under the number of the extension with the given full name. What
is there counts if it is a message. -/
def annotation? {A : Type} (codec : Wire.Codec A) (name : String) (options : Content) :
    Except Error (Option A) :=
  let value : Option Content := do
    let x ← pool.extensions.find? (·.fullName == name)
    (← options.get? x.field.place).content?
  match value with
  | none => .ok none
  | some content =>
    match codec.decode? content.write with
    | some annotation => .ok (some annotation)
    | none => .error (.invalidOptions name)

/-- The annotations of a message. -/
def modelAnnotation? (m : Located) : Except Error (Option Annotation.Model) := do
  let options ← pool.options .message m.file m.fullName m.message.options
  pool.annotation? Annotation.Model.codec "persist.model" options

/-- The annotations of a field of a message. -/
def columnAnnotation? (m : Located) (field : Field) : Except Error (Option Annotation.Column) := do
  let options ← pool.options .field m.file (qualify m.fullName field.name) field.options
  pool.annotation? Annotation.Column.codec "persist.field" options

/-! ## Fields -/

/-- A type outside of maps. -/
def plainKind : ResolvedType → FieldKind
  | .scalar type => .scalar type
  | .group name => .message name
  | .message name => .message name
  | .enumeration name => .enumeration name

/-- The type of the field of a map entry with the given number. -/
def entryType (entry : Located) (number : Int32) : Except Error ResolvedType :=
  match entry.message.field? number with
  | some field => pool.type entry.file entry.fullName field
  | none => .error .malformed

/-- The type of a map with the given entries; a key that is no scalar counts as a text. -/
def mapKind (entry : Located) : Except Error FieldKind := do
  let key := match ← pool.entryType entry 1 with
    | .scalar type => type
    | _ => .string
  return .map key (plainKind (← pool.entryType entry 2))

/-- The type of a field of a message. -/
def fieldKind (m : Located) (field : Field) : Except Error FieldKind := do
  match ← pool.type m.file m.fullName field with
  | .group _ => return .group
  | .message name =>
    match (pool.message? name).filter (·.message.isMapEntry) with
    | some entry => if field.label == .repeated then pool.mapKind entry else return .message name
    | none => return .message name
  | type => return plainKind type

/-- What a field of a file says about its presence. -/
def presence (file : File) (field : Field) : Presence :=
  if field.proto3Optional then .optional
  else if file.hasPresence then
    match field.label with
    | .optional => .optional
    | .required => .required
    | .repeated => .unspecified
  else .unspecified

/-- A field of a message. -/
def field (m : Located) (field : Field) : Except Error ProtoStore.Field := do
  let annotation := (← pool.columnAnnotation? m field).getD default
  return {
    name := field.name
    number := field.number.toInt.toNat
    kind := ← pool.fieldKind m field
    repeated := field.label == .repeated
    presence := presence m.file field
    oneof := if field.proto3Optional then none else (m.message.oneof? field).map (·.name)
    column := annotation.column
    isKey := annotation.isKey
    dropped := annotation.dropped
    association := annotation.association }

/-! ## Messages -/

/-- A message. -/
def message (m : Located) : Except Error ProtoStore.Message := do
  let annotation := (← pool.modelAnnotation? m).getD default
  let fields := m.message.fields.mergeSort fun x y => x.number ≤ y.number
  return {
    name := m.message.name
    fullName := m.fullName
    package := m.file.package
    file := m.file.name
    fields := ← fields.mapM (pool.field m)
    persisted := annotation.persisted
    table := annotation.table }

mutual

/-- Checks the annotations of messages declared in a message. Nothing is generated for these. -/
def checkNested (file : File) (scope : String) : Message → Except Error Unit
  | ⟨name, _, nested, _, _, _, _, _, _⟩ => checkNestedAll file (qualify scope name) nested

/-- Checks the annotations of messages and of those declared in them, entries of maps excepted. -/
def checkNestedAll (file : File) (scope : String) : List Message → Except Error Unit
  | [] => .ok ()
  | message :: rest => do
    unless message.isMapEntry do
      let _ ← pool.modelAnnotation? ⟨qualify scope message.name, message, file⟩
      checkNested file scope message
    checkNestedAll file scope rest

end

/-- A file, for which output may be wanted. -/
def schemaFile (targets : List String) (file : File) : Except Error SchemaFile := do
  let generate := targets.contains file.name
  let messages ← file.messages.mapM fun m => do
    let message ← pool.message ⟨qualify file.package m.name, m, file⟩
    if generate then pool.checkNested file file.package m
    return message
  return { name := file.name, package := file.package, generate, messages }

/-- The schema of the files, with output wanted for those with the given names. -/
def schema (targets : List String) : Except Error Schema := do
  return ⟨← pool.files.mapM (pool.schemaFile targets)⟩

end Pool

end ProtoStore.Descriptor
