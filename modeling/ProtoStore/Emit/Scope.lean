import ProtoStore.Code.Item
import ProtoStore.Config
import ProtoStore.Schema.Model

/-!
# What is known when a message is emitted

Generated code calls the types of its own message by their bare names and those of other packages by
paths through their modules. A `Scope` holds what is needed to find these names.
-/

namespace ProtoStore

/-- A message to be emitted, its record and the records it may refer to. -/
structure Scope where
  config : Config
  models : Models
  message : Message
  record : RecordModel

namespace Scope

variable (scope : Scope)

/-- The path of the library the generated code uses. -/
def rt : Code := scope.config.runtime.code

/-- The type of the message. -/
def messageIdent : Except CodeError Ident := Naming.typeIdent scope.message.name

/-- The type of its record. -/
def recordIdent : Except CodeError Ident := scope.record.ident

/-- The trait of its hooks. -/
def hooksIdent : Except CodeError Ident := Naming.hooksIdent scope.message.name

/-- A name generated for another message, as it is reached from this one. -/
def pathTo (target : RecordModel) (ident : Ident) : Except CodeError Code :=
  Naming.pathTo scope.record.package target.package ident

/-- The type of another message. -/
def messagePath (target : RecordModel) : Except CodeError Code := do
  scope.pathTo target (← Naming.typeIdent target.name)

/-- The record type of another message. -/
def recordPath (target : RecordModel) : Except CodeError Code := do
  scope.pathTo target (← target.ident)

/-- The hook trait of another message. -/
def hooksPath (target : RecordModel) : Except CodeError Code := do
  scope.pathTo target (← Naming.hooksIdent target.name)

/-- A function about another message. -/
def functionPath (target : RecordModel) (before after : String) : Except CodeError Code := do
  scope.pathTo target (← Naming.functionIdent before target.name after)

/-- The associations of the message and the records of their targets. -/
def associations : List (Association × RecordModel) :=
  scope.record.associations.filterMap fun association =>
    (scope.models.record? association.target).map fun target => (association, target)

/-- The records of the associated messages, each once and without the message's own. -/
def others (seen : List String) : List (Association × RecordModel) → List RecordModel
  | [] => []
  | (association, target) :: rest =>
    if seen.contains association.target then others seen rest
    else target :: others (association.target :: seen) rest

/-- The bound on the hooks of an operation: those of the message and of all associated ones. -/
def hooksBound : Except CodeError Code := do
  let own ← scope.hooksIdent
  let paths ← (others [scope.record.message] scope.associations).mapM scope.hooksPath
  return Code.joined [.atom "+"] (own.code :: paths) ++ Code.ofText "+ ? Sized"

end Scope

/-- The scope of a persisted message. -/
def Schema.scope? (schema : Schema) (config : Config) (models : Models) (fullName : String) :
    Option Scope := do
  let message ← schema.message? fullName
  let record ← models.record? fullName
  return ⟨config, models, message, record⟩

end ProtoStore
