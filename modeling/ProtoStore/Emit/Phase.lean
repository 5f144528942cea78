/-!
# Hook phases

Every extension point of the generated code is a `Phase`. `Phase.catalog` lists them in the order the
hook traits declare them, each with the operation it belongs to, what it is given and what it is for.
-/

namespace ProtoStore

/-- The operations a phase can belong to. -/
inductive Stage
  | conversion | create | read | delete | deleteSet | strictUpdate | patch | list
deriving Repr, DecidableEq

/-- What a hook is given besides the context. -/
inductive HookArgument
  | message
  /-- A message it may change. -/
  | messageMut
  | messages
  | record
  /-- A record it may change. -/
  | recordMut
  /-- Records it may change. -/
  | recordsMut
  /-- A query it may change. -/
  | queryMut
  | mask
deriving Repr, DecidableEq

/-- An extension point. -/
structure Phase where
  name : String
  stage : Stage
  parameters : List (String × HookArgument)
  doc : String
deriving Repr, DecidableEq

/-- Every phase, in order of declaration. -/
def Phase.catalog : List Phase := [
  ⟨"before_to_orm", .conversion, [("from", .message), ("to", .recordMut)],
    "Runs before the message fields are copied into the record."⟩,
  ⟨"after_to_orm", .conversion, [("from", .message), ("to", .recordMut)],
    "Runs after the message fields are copied into the record."⟩,
  ⟨"before_to_pb", .conversion, [("from", .record), ("to", .messageMut)],
    "Runs before the record fields are copied into the message."⟩,
  ⟨"after_to_pb", .conversion, [("from", .record), ("to", .messageMut)],
    "Runs after the record fields are copied into the message."⟩,
  ⟨"before_create", .create, [("record", .recordMut)],
    "Runs before the row is inserted."⟩,
  ⟨"after_create", .create, [("record", .record)],
    "Runs after the row and its associations are stored."⟩,
  ⟨"before_read_apply_query", .read, [("record", .record), ("query", .queryMut)],
    "Runs before the field selection is applied to the read query."⟩,
  ⟨"before_read_find", .read, [("record", .record), ("query", .queryMut)],
    "Runs right before the read query is executed."⟩,
  ⟨"after_read_find", .read, [("record", .recordMut)],
    "Runs on the row found by a read."⟩,
  ⟨"before_delete", .delete, [("record", .record), ("query", .queryMut)],
    "Runs before the row is deleted."⟩,
  ⟨"after_delete", .delete, [("record", .record)],
    "Runs after the row is deleted."⟩,
  ⟨"before_delete_set", .deleteSet, [("objects", .messages), ("query", .queryMut)],
    "Runs before the batched delete, once every key is validated."⟩,
  ⟨"after_delete_set", .deleteSet, [("objects", .messages)],
    "Runs after the batched delete."⟩,
  ⟨"before_strict_update_cleanup", .strictUpdate, [("record", .recordMut)],
    "Runs after the row is locked and before associations are pruned."⟩,
  ⟨"before_strict_update_save", .strictUpdate, [("record", .recordMut)],
    "Runs right before the row is saved."⟩,
  ⟨"after_strict_update_save", .strictUpdate, [("record", .record)],
    "Runs after the row and its associations are saved."⟩,
  ⟨"before_patch_read", .patch, [("patch", .message), ("mask", .mask)],
    "Runs before the current state is read."⟩,
  ⟨"before_patch_apply_field_mask", .patch,
    [("current", .message), ("patch", .message), ("mask", .mask)],
    "Runs before the masked fields are merged into the current state."⟩,
  ⟨"before_patch_save", .patch, [("merged", .messageMut), ("patch", .message), ("mask", .mask)],
    "Runs on the merged object before it is saved."⟩,
  ⟨"after_patch_save", .patch, [("saved", .message), ("patch", .message), ("mask", .mask)],
    "Runs after the merged object is saved."⟩,
  ⟨"before_list_apply_query", .list, [("query", .queryMut)],
    "Runs before the collection operators are applied."⟩,
  ⟨"before_list_find", .list, [("query", .queryMut)],
    "Runs right before the list query is executed."⟩,
  ⟨"after_list_find", .list, [("records", .recordsMut)],
    "Runs on the rows found by a list, before conversion."⟩]

/-- The phase with a name. -/
def Phase.find? (name : String) : Option Phase := Phase.catalog.find? (·.name == name)

end ProtoStore
