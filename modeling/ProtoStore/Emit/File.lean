import ProtoStore.Emit.Conversion
import ProtoStore.Emit.FieldMask
import ProtoStore.Emit.Operations

/-!
# Generated files

`Schema.generate` makes one file for each schema file that is asked for and declares a persisted
message. A file holds the items of its messages, each message after those it requires.
-/

namespace ProtoStore

/-- A generated file before it is laid out. -/
structure GeneratedFile where
  name : String
  /-- Its first three lines. -/
  header : List String
  items : List Item

/-- Why nothing is generated. -/
inductive GenerateError
  | schema (error : SchemaError)
  | code (error : CodeError)
deriving Repr, DecidableEq

namespace Emit

/-- The items of a message. -/
def messageItems (scope : Scope) : Except CodeError (List Item) := do
  return (← record scope) ++ (← conversion scope) ++ (← hooks scope) ++ (← fieldMask scope)
    ++ (← operations scope)

/-- A line without the return at its end. -/
def withoutReturn (line : String) : String :=
  if line.toList.getLast? == some '\r' then String.ofList line.toList.dropLast else line

/-- The first three lines of the file generated for a schema file: two comments and an empty line,
unless the name of the schema file has several lines itself. -/
def header (file : String) : List String :=
  let lines := Naming.splitOn '\n' [] ("// source: " ++ file).toList ++ [""]
  "// @generated by protoc-gen-persist. DO NOT EDIT." :: (lines.take 2).map withoutReturn

/-- The scopes of the persisted messages of a file, in the order of the resolution. -/
def fileScopes (schema : Schema) (config : Config) (models : Models) (file : SchemaFile) :
    List Scope :=
  models.resolution.order.filterMap fun name =>
    (schema.scope? config models name).filter (·.message.file == file.name)

/-- The file generated for a schema file, if it has persisted messages. -/
def fileOf (schema : Schema) (config : Config) (models : Models) (file : SchemaFile) :
    Except CodeError (Option GeneratedFile) := do
  let scopes := fileScopes schema config models file
  let items := (← scopes.mapM messageItems).flatten
  if scopes.isEmpty then return none
  else if config.runtime.beginsType && config.runtime.suitsExpressions
      && items.all (·.wellFormed) then
    return some ⟨config.outputName file.name, header file.name, items⟩
  else throw (.malformed file.name)

end Emit

/-- The files generated for a schema. -/
def Schema.generate (schema : Schema) (config : Config) :
    Except GenerateError (List GeneratedFile) := do
  let models ← schema.models.mapError .schema
  let files ← ((schema.files.filter (·.generate)).mapM
    (Emit.fileOf schema config models)).mapError .code
  return files.filterMap id

end ProtoStore
