import ProtoStore.Domain.Action

/-!
# Operations

The eight operations on the messages of a domain: create, read, strict update, patch, patch set,
delete, delete set and list. A message is converted to its record, its links are stored with it as
their strategies say, and what is returned is converted back from the stored rows with all links
loaded.
-/

namespace ProtoStore.Domain.Operations

variable {E K σ : Type} [DecidableEq K] [Catalog K] [Bindings E K] (hooks : Hooks E σ)

/-! ## Conversions -/

/-- The record of a message. Links are left out. -/
def toRecord (e : E) (message : Message e) : Action K σ (Record e) := do
  let row ← .hook (hooks.call e (.beforeToRecord message) (Bindings.blankRecord e))
  let row ← .ofExcept (Bindings.fillRecord e message row)
  .hook (hooks.call e (.afterToRecord message) row)

/-- The message of a record. Links are left out. -/
def toMessage (e : E) (row : Record e) : Action K σ (Message e) := do
  let message ← .hook (hooks.call e (.beforeToMessage row) (Bindings.blank e))
  let message ← .ofExcept (Bindings.fillMessage e row message)
  .hook (hooks.call e (.afterToMessage row) message)

/-! ## Links -/

/-- A link with the records of the messages that are to be linked. -/
inductive Pending (e : E)
  | reference (link : Reference e) (row : Option (Record link.target))
  | children (link : Children e) (rows : List (Record link.target))
  | joined (link : Joined e) (rows : List (Record link.target))

/-- Converts the messages of a link. -/
def collectOne (e : E) (message : Message e) : MessageLink e → Action K σ (Pending e)
  | .reference link => do
    return .reference link (← (link.get message).mapM (toRecord hooks link.target))
  | .children link => do
    return .children link (← (link.get message).mapM (toRecord hooks link.target))
  | .joined link => do
    return .joined link (← (link.get message).mapM (toRecord hooks link.target))

/-- Converts the messages of all links. -/
def collect (e : E) (message : Message e) : Action K σ (List (Pending e)) :=
  (Bindings.links e).mapM (collectOne hooks e message)

/-- Saves the target of a reference and points a record to it. -/
def prepareOne {e : E} (row : Record e) : Pending e → Action K σ (Record e)
  | .reference link none => return link.assign none row
  | .reference link (some target) => do
    let target ← .write 1 fun context store => store.save context (table link.target) target
    return link.assign (some target) row
  | .children _ _ | .joined _ _ => return row

/-- Saves the targets of all references and points a record to them. -/
def prepare {e : E} (pending : List (Pending e)) (row : Record e) : Action K σ (Record e) :=
  pending.foldlM prepareOne row

/-- The value of a record's key. -/
def keyOf (e : E) (row : Record e) : Value := (record (table e)).keyValue row

/-- Deletes what the strategy of a link removes. -/
def pruneOne {e : E} (row : Record e) : Pending e → Action K σ Unit
  | .reference _ _ => return ()
  | .children link rows => .remove fun context store =>
    store.pruneChildren context (table link.target) link.strategy link.column (keyOf e row) rows
  | .joined link _ => .remove fun context store =>
    store.pruneLinks context link.join link.strategy link.ownerColumn (keyOf e row)

/-- Deletes what the strategies of all links remove. A record without a key has no linked rows. -/
def prune {e : E} (pending : List (Pending e)) (row : Record e) : Action K σ Unit :=
  if (record (table e)).keyIsEmpty row then return () else pending.forM (pruneOne row)

/-- Saves the rows of a link of a saved record. -/
def saveOne {e : E} (row : Record e) : Pending e → Action K σ Unit
  | .reference _ _ => return ()
  | .children link rows => do
    let _ ← .write rows.length fun context store =>
      store.saveChildren context (table link.target) link.strategy (link.attach row) rows
  | .joined link rows => do
    let _ ← .write (3 * rows.length) fun context store =>
      store.saveLinks context (table link.target) link.join link.strategy (link.link row) rows

/-- Saves the rows of all links of a saved record. -/
def saveCollections {e : E} (pending : List (Pending e)) (row : Record e) : Action K σ Unit :=
  pending.forM (saveOne row)

/-- Loads what a record is linked to into its message. -/
def loadOne {e : E} (row : Record e) (message : Message e) :
    MessageLink e → Action K σ (Message e)
  | .reference link =>
    if link.keyIsEmpty row then return link.set none message
    else do
      let found ← .ask 1 fun context store =>
        store.loadOne context (table link.target) (link.key row)
      return link.set (← found.mapM (toMessage hooks link.target)) message
  | .children link => do
    let rows ← .ask 1 fun context store =>
      store.loadChildren context (table link.target) link.column (keyOf e row)
    return link.set (← rows.mapM (toMessage hooks link.target)) message
  | .joined link => do
    let rows ← .ask 2 fun context store =>
      store.loadLinked context (table link.target) link.join link.ownerColumn (keyOf e row)
        link.targetColumn
    return link.set (← rows.mapM (toMessage hooks link.target)) message

/-- The message of a stored record with all its links. -/
def respond (e : E) (row : Record e) : Action K σ (Message e) := do
  (Bindings.links e).foldlM (loadOne hooks row) (← toMessage hooks e row)

/-! ## Arguments -/

/-- An argument that must be there. -/
def required {α : Type} : Option α → Action K σ α
  | none => throw (.argument .nilArgument)
  | some a => return a

/-- Fails for a record without a key. -/
def requireKey (e : E) (row : Record e) : Action K σ Unit :=
  if (record (table e)).keyIsEmpty row then throw (.argument .emptyKey) else return ()

/-- The rows with the key of a record. -/
def byKey (e : E) (row : Record e) : Query :=
  Query.all.filter (.eq (record (table e)).keyColumn (keyOf e row))

/-! ## Operations -/

/-- Stores a new message with its links. -/
def create (e : E) (input : Option (Message e)) : Action K σ (Message e) := do
  let message ← required input
  let row ← toRecord hooks e message
  let pending ← collect hooks e message
  let row ← .hook (hooks.call e .beforeCreate row)
  let row ← prepare pending row
  let row ← .write 1 fun context store => store.create context (table e) row
  saveCollections pending row
  .hook (hooks.call e (.afterCreate row) ())
  respond hooks e row

/-- The message with the key of the input, with only the selected columns if some are selected. -/
def read (e : E) (input : Option (Message e)) (fields : Option (List String)) :
    Action K σ (Message e) := do
  let message ← required input
  let row ← toRecord hooks e message
  requireKey e row
  let query ← .hook (hooks.call e (.beforeReadQuery row) (byKey e row))
  let query ← .hook (hooks.call e (.beforeReadFind row) (query.select fields))
  match ← .ask 1 fun context store => store.first context (table e) query with
  | none => throw .notFound
  | some found =>
    let found ← .hook (hooks.call e .afterReadFind found)
    respond hooks e found

/-- The result of a strict update. -/
structure Upserted (M : Type) where
  value : M
  /-- Whether there was no row with the key before. -/
  created : Bool

/-- Whether no row has the key of a record, and the record with the keys of parents that such a row
holds. -/
def lockRow (e : E) (row : Record e) : Action K σ (Bool × Record e) := do
  let query := (byKey e row).forUpdate
  match Bindings.keepParents? e with
  | none =>
    let count ← .ask 1 fun context store => store.count context (table e) query
    return (count == 0, row)
  | some keep =>
    match ← .ask 1 fun context store => store.first context (table e) query with
    | none => return (true, row)
    | some stored => return (false, keep stored row)

/-- Replaces the whole row of a message and its links, or stores it as a new one. -/
def strictUpdate (e : E) (input : Option (Message e)) : Action K σ (Upserted (Message e)) := do
  let message ← required input
  let row ← toRecord hooks e message
  let pending ← collect hooks e message
  let (created, row) ← lockRow e row
  let row ← .hook (hooks.call e .beforeUpdateCleanup row)
  let row ← prepare pending row
  prune pending row
  let row ← .hook (hooks.call e .beforeUpdateSave row)
  let row ← .write 1 fun context store => store.save context (table e) row
  saveCollections pending row
  .hook (hooks.call e (.afterUpdateSave row) ())
  return ⟨← respond hooks e row, created⟩

/-- Reads a message, takes the fields a mask names from the input, and updates it. -/
def patch (e : E) (input : Option (Message e)) (mask : List String) : Action K σ (Message e) := do
  let message ← required input
  .hook (hooks.call e (.beforePatchRead message mask) ())
  let current ← read hooks e (some (Bindings.keyOnly e message)) none
  .hook (hooks.call e (.beforePatchApply current message mask) ())
  let merged := Mask.apply (Bindings.maskFields e) mask "" message current
  let merged ← .hook (hooks.call e (.beforePatchSave message mask) merged)
  let saved ← strictUpdate hooks e (some merged)
  .hook (hooks.call e (.afterPatchSave saved.value message mask) ())
  return saved.value

/-- Patches messages, each with its mask, up to the first failure. -/
def patchSet (e : E) (input : Option (List (Message e))) (masks : List (List String)) :
    Action K σ (List (Message e)) := do
  let messages ← required input
  if messages.length ≠ masks.length then
    throw (.argument (.maskCount masks.length messages.length))
  (messages.zip masks).mapM fun (message, mask) => patch hooks e (some message) mask

/-- Deletes the row of a message. -/
def delete (e : E) (input : Option (Message e)) : Action K σ Unit := do
  let message ← required input
  let row ← toRecord hooks e message
  requireKey e row
  let query ← .hook (hooks.call e (.beforeDelete row) (byKey e row))
  .remove fun context store => store.delete context (table e) query
  .hook (hooks.call e (.afterDelete row) ())

/-- The key of a message that must have one. -/
def requiredKey (e : E) (message : Message e) : Action K σ Value := do
  let row ← toRecord hooks e message
  requireKey e row
  return keyOf e row

/-- Deletes the rows of messages, all of which must have keys. -/
def deleteSet (e : E) (input : Option (List (Message e))) : Action K σ Unit := do
  let messages ← required input
  let keys ← messages.mapM (requiredKey hooks e)
  let query := Query.all.filter (.isIn (record (table e)).keyColumn keys)
  let query ← .hook (hooks.call e (.beforeDeleteSet messages) query)
  .remove fun context store => store.delete context (table e) query
  .hook (hooks.call e (.afterDeleteSet messages) ())

/-- The messages that a caller asks for; those that his sorting does not tell apart are sorted by
their keys. -/
def list (e : E) (operators : Operators) : Action K σ (List (Message e)) := do
  let query ← .hook (hooks.call e .beforeListQuery Query.all)
  let query ← .hook (hooks.call e .beforeListFind (query.apply operators))
  let query := query.orderBy (record (table e)).keyColumn
  let rows ← .ask 1 fun context store => store.find context (table e) query
  let rows ← .hook (hooks.call e .afterListFind rows)
  rows.mapM (respond hooks e)

end ProtoStore.Domain.Operations
