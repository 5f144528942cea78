import ProtoStore.Domain.Basic

/-!
# Actions

Operations are actions: they may fail, and they change the store, the context, and the notes of the
hooks. What an action has changed stays so when it fails. Calls of the store take their time: the context
is that of some moments later after them.
-/

namespace ProtoStore.Domain

/-- What actions change. -/
structure World (K σ : Type) [Catalog K] where
  store : Store K
  context : Context
  /-- The notes of the hooks. -/
  notes : σ

/-- The world some moments later. -/
def World.after {K σ : Type} [Catalog K] (world : World K σ) (moments : Nat) : World K σ :=
  { world with context := world.context.after moments }

/-- Computations that may fail and change the world. -/
abbrev Action (K σ : Type) [Catalog K] := ExceptT Failure (StateM (World K σ))

namespace Action

variable {K σ α : Type} [Catalog K]

/-- Goes on with the value of a computation that changes nothing. -/
def ofExcept (result : Except Failure α) : Action K σ α := fun world => (result, world)

/-- Asks the store. -/
def ask (moments : Nat) (question : Context → Store K → Except Failure α) : Action K σ α :=
  fun world => (question world.context world.store, world.after moments)

/-- Writes to the store, and goes on with what was written. -/
def write (moments : Nat) (call : Context → Store K → Writing K α) : Action K σ α := fun world =>
  let writing := call world.context world.store
  (writing.result.map fun _ => writing.written, { world.after moments with store := writing.store })

/-- Deletes from the store. -/
def remove (call : Context → Store K → Except Failure (Store K × Nat)) : Action K σ Unit :=
  fun world =>
    match call world.context world.store with
    | .error failure => (.error failure, world.after 1)
    | .ok (store, _) => (.ok (), { world.after 1 with store := store })

/-- Lets a hook act. -/
def hook (call : HookM σ α) : Action K σ α := fun world =>
  let (result, context, notes) := call (world.context, world.notes)
  (result.mapError .hook, { world with context := context, notes := notes })

end Action

end ProtoStore.Domain
