import ProtoStore.Emit.Phase
import ProtoStore.Emit.Scope

/-!
# Emitted hooks

Each message has a trait with one method for each phase, which does nothing unless it is overridden.
The trait and the calls of its methods are made from the catalog of phases. A message without a key
has no operations and gets the phases of its conversion only.
-/

namespace ProtoStore.Emit

/-- The types a hook trait speaks of. -/
structure HookTypes where
  rt : Code
  message : Ident
  record : Ident

/-- The type of what a hook is given. -/
def HookTypes.argument (types : HookTypes) : HookArgument → Code
  | .message => Code.fill "& $" [types.message.code]
  | .messageMut => Code.fill "& mut $" [types.message.code]
  | .messages => Code.fill "& [$]" [types.message.code]
  | .record => Code.fill "& $" [types.record.code]
  | .recordMut => Code.fill "& mut $" [types.record.code]
  | .recordsMut => Code.fill "& mut :: prost :: alloc :: vec :: Vec < $ >" [types.record.code]
  | .queryMut => Code.fill "& mut $ :: Query < $ >" [types.rt, types.record.code]
  | .mask => Code.fill "& $ :: FieldMask" [types.rt]

/-- The method of a phase. -/
def HookTypes.method (types : HookTypes) (phase : Phase) : Code :=
  let parameters := phase.parameters.map fun (name, argument) =>
    [.atom ("_" ++ name), .atom ":"] ++ types.argument argument
  docAttribute phase.doc
    ++ Code.fill "fn $ (& self , _ctx : & $ :: Context , $) -> $ :: HookResult ⟨ Ok (()) ⟩"
      [[.atom phase.name], types.rt, Code.joined [.atom ","] parameters, types.rt]

/-- The hook trait of a message and its implementation that does nothing. -/
def hookTrait (name : Ident) (types : HookTypes) (operations : Bool) : List Item :=
  let phases := Phase.catalog.filter fun phase => operations || phase.stage == .conversion
  [.interface
    (docAttribute (s!" Extension points of the `{types.message.spelling}` operations. "
      ++ "Every method defaults to doing nothing."))
    name (Code.ofText "Send + Sync") (phases.flatMap types.method),
    .implementation (some name.code) (Code.fill "$ :: NoHooks" [types.rt]) []]

/-- The hook trait of the message in a scope. -/
def hooks (scope : Scope) : Except CodeError (List Item) := do
  let name ← scope.hooksIdent
  let message ← scope.messageIdent
  let record ← scope.recordIdent
  return hookTrait name ⟨scope.rt, message, record⟩ scope.record.primaryKey.isSome

/-- The call of a phase on the hooks of an operation. -/
def hookCall (rt hooksTrait : Code) (phase : String) (arguments : List Code) : Code :=
  Code.fill "$ :: $ (hooks , ctx , $) . map_err ($ :: PersistError :: Hook) ? ;"
    [hooksTrait, [.atom phase], Code.joined [.atom ","] arguments, rt]

end ProtoStore.Emit
