import ProtoStore.Store.Context
import ProtoStore.Store.Query

/-!
# Hooks

Operations call hooks at certain points. A `HookPoint M R α` is such a point for messages of type `M`
with records of type `R`: it carries what the hook may look at, and `α` is what it may change. A hook
may also fail, cancel the context, and keep notes of its own.
-/

namespace ProtoStore.Domain

/-- A point of an operation at which hooks are called. -/
inductive HookPoint (M R : Type) : Type → Type
  | beforeToRecord (source : M) : HookPoint M R R
  | afterToRecord (source : M) : HookPoint M R R
  | beforeToMessage (source : R) : HookPoint M R M
  | afterToMessage (source : R) : HookPoint M R M
  | beforeCreate : HookPoint M R R
  | afterCreate (row : R) : HookPoint M R Unit
  | beforeReadQuery (row : R) : HookPoint M R Query
  | beforeReadFind (row : R) : HookPoint M R Query
  | afterReadFind : HookPoint M R R
  | beforeDelete (row : R) : HookPoint M R Query
  | afterDelete (row : R) : HookPoint M R Unit
  | beforeDeleteSet (objects : List M) : HookPoint M R Query
  | afterDeleteSet (objects : List M) : HookPoint M R Unit
  | beforeUpdateCleanup : HookPoint M R R
  | beforeUpdateSave : HookPoint M R R
  | afterUpdateSave (row : R) : HookPoint M R Unit
  | beforePatchRead (patch : M) (mask : List String) : HookPoint M R Unit
  | beforePatchApply (current patch : M) (mask : List String) : HookPoint M R Unit
  | beforePatchSave (patch : M) (mask : List String) : HookPoint M R M
  | afterPatchSave (saved patch : M) (mask : List String) : HookPoint M R Unit
  | beforeListQuery : HookPoint M R Query
  | beforeListFind : HookPoint M R Query
  | afterListFind : HookPoint M R (List R)

/-- The name of a point, which is that of the method the hooks of a message have for it. -/
def HookPoint.name {M R α : Type} : HookPoint M R α → String
  | .beforeToRecord _ => "before_to_orm"
  | .afterToRecord _ => "after_to_orm"
  | .beforeToMessage _ => "before_to_pb"
  | .afterToMessage _ => "after_to_pb"
  | .beforeCreate => "before_create"
  | .afterCreate _ => "after_create"
  | .beforeReadQuery _ => "before_read_apply_query"
  | .beforeReadFind _ => "before_read_find"
  | .afterReadFind => "after_read_find"
  | .beforeDelete _ => "before_delete"
  | .afterDelete _ => "after_delete"
  | .beforeDeleteSet _ => "before_delete_set"
  | .afterDeleteSet _ => "after_delete_set"
  | .beforeUpdateCleanup => "before_strict_update_cleanup"
  | .beforeUpdateSave => "before_strict_update_save"
  | .afterUpdateSave _ => "after_strict_update_save"
  | .beforePatchRead _ _ => "before_patch_read"
  | .beforePatchApply _ _ _ => "before_patch_apply_field_mask"
  | .beforePatchSave _ _ => "before_patch_save"
  | .afterPatchSave _ _ _ => "after_patch_save"
  | .beforeListQuery => "before_list_apply_query"
  | .beforeListFind => "before_list_find"
  | .afterListFind => "after_list_find"

/-- What hooks compute in: they may fail with a text, and change the context and their notes. -/
abbrev HookM (σ : Type) := ExceptT String (StateM (Context × σ))

end ProtoStore.Domain
