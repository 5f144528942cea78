import ProtoStore.Proofs.Code.Ident
import ProtoStore.Proofs.Emit.Files

/-!
# The names of items

Structs, traits and functions have names, implementations have none. A function about a message has the name of the
message between two texts, its affixes.

* `Item.names`, `Item.declarations` : the names that items declare, and with them what is declared;
* `Scope.itemNames` : the names a message gives to its items;
* `Emit.Operations.items_declared` : the eight operations, and the function that loads associations;
* `Emit.messageItems_declared` : what all items of a message declare;
* `Emit.messageItems_names` : so they have the names that the message gives;
* `Emit.messageItems_records`, `Emit.messageItems_operations` : the structs among them, and the operations.
-/

namespace ProtoStore

variable {scope : Scope} {items : List Item} {item : Item} {ident : Ident} {text name before after : String}

namespace Item

/-- The name an item declares. An implementation declares none. -/
def name? : Item → Option String
  | .record _ name _ | .interface _ name _ _ | .function _ _ _ name _ _ => some name.text
  | .implementation .. => none

/-- The names that items declare, in order. -/
def names (items : List Item) : List String := items.filterMap name?

theorem names_flatten (parts : List (List Item)) : names parts.flatten = parts.flatMap names := by
  rw [names, List.filterMap_flatten, List.flatMap_def]
  rfl

/-- What a name stands for. An operation is a function that is public and asynchronous. -/
inductive Kind
  | record
  | interface
  | operation
  | helper
deriving DecidableEq

/-- What an item declares. -/
structure Declaration where
  kind : Kind
  name : String
deriving DecidableEq

/-- The declaration of an item that has a name. -/
def declaration? : Item → Option Declaration
  | .record _ name _ => some ⟨.record, name.text⟩
  | .interface _ name _ _ => some ⟨.interface, name.text⟩
  | .function _ isPublic isAsync name _ _ => some ⟨if isPublic && isAsync then .operation else .helper, name.text⟩
  | .implementation .. => none

/-- What items declare, in order. -/
def declarations (items : List Item) : List Declaration := items.filterMap declaration?

/-- The names of the declarations of one kind, in order. -/
def Declaration.ofKind (kind : Kind) (declarations : List Declaration) : List String :=
  (declarations.filter (·.kind = kind)).map (·.name)

/-- The names of the items of one kind, in order. -/
def namesOf (kind : Kind) (items : List Item) : List String := Declaration.ofKind kind (declarations items)

@[simp]
theorem declarations_nil : declarations [] = [] := rfl

theorem declarations_cons (item : Item) (items : List Item) :
    declarations (item :: items) = item.declaration?.toList ++ declarations items := by
  cases found : item.declaration? <;> simp [declarations, found]

theorem declarations_append (first second : List Item) :
    declarations (first ++ second) = declarations first ++ declarations second :=
  List.filterMap_append

theorem declarations_flatten (parts : List (List Item)) :
    declarations parts.flatten = parts.flatMap declarations := by
  rw [declarations, List.filterMap_flatten, List.flatMap_def]
  rfl

namespace Declaration

variable {kind other : Kind}

@[simp]
theorem ofKind_nil : ofKind kind [] = [] := rfl

@[simp]
theorem ofKind_cons (declaration : Declaration) (declarations : List Declaration) :
    ofKind kind (declaration :: declarations) =
      (if declaration.kind = kind then [declaration.name] else []) ++ ofKind kind declarations := by
  by_cases same : declaration.kind = kind <;> simp [ofKind, same]

@[simp]
theorem ofKind_append (first second : List Declaration) :
    ofKind kind (first ++ second) = ofKind kind first ++ ofKind kind second := by
  simp [ofKind]

@[simp]
theorem ofKind_map {α : Type} (name : α → String) (all : List α) :
    ofKind kind (all.map (⟨other, name ·⟩)) = if other = kind then all.map name else [] := by
  by_cases same : other = kind <;> simp [ofKind, List.filter_map, Function.comp_def, same]

end Declaration

theorem map_declarations (items : List Item) : (declarations items).map (·.name) = names items := by
  rw [declarations, List.map_filterMap]
  refine List.filterMap_congr fun item _ => ?_
  cases item <;> rfl

end Item

theorem Ident.text_of_ofText (h : ofText text = .ok ident) : ident.text = text := by
  obtain ⟨-, rfl⟩ := Ident.ofText_ok h
  rfl

/-! ## Affixes -/

/-- What stands before and after the name of a message in the name of a function about it. -/
structure Affixes where
  before : String
  after : String
deriving DecidableEq

namespace Affixes

/-- A name between its affixes. -/
def around (affixes : Affixes) (name : String) : String := affixes.before ++ name ++ affixes.after

/-- The affixes of the merge function. -/
def mask : Affixes := ⟨"default_apply_field_mask_", ""⟩

/-- The affixes of the function that loads associations. -/
def load : Affixes := ⟨"load_", "_associations"⟩

/-- The affixes of the eight operations. -/
def operations : List Affixes :=
  [⟨"default_create_", ""⟩, ⟨"default_read_", ""⟩, ⟨"default_strict_update_", ""⟩, ⟨"default_patch_", ""⟩,
    ⟨"default_patch_set_", ""⟩, ⟨"default_delete_", ""⟩, ⟨"default_delete_", "_set"⟩, ⟨"default_list_", ""⟩]

end Affixes

/-- The affixes of the functions about a message. -/
def Scope.affixes (scope : Scope) : List Affixes :=
  .mask :: match scope.record.primaryKey with
    | none => []
    | some _ => Affixes.operations ++ if scope.associations.any (·.2.primaryKey.isSome) then [.load] else []

/-- What the operations of a message declare, with the function that loads its associations. -/
def Scope.operations (scope : Scope) : List Item.Declaration :=
  match scope.record.primaryKey with
  | none => []
  | some _ => Affixes.operations.map (⟨.operation, ·.around (Text.snakeCase scope.record.name)⟩) ++
      if scope.associations.any (·.2.primaryKey.isSome) then
        [⟨.helper, Affixes.load.around (Text.snakeCase scope.record.name)⟩]
      else []

/-- What the items of a message declare. -/
def Scope.declarations (scope : Scope) : List Item.Declaration :=
  ⟨.record, Naming.camel scope.record.name ++ "Orm"⟩ :: scope.record.joins.map (⟨.record, ·.name⟩)
    ++ ⟨.interface, Naming.camel scope.message.name ++ "Hooks"⟩
      :: ⟨.helper, Affixes.mask.around (Text.snakeCase scope.message.name)⟩ :: scope.operations

/-- The names of the items of a message. -/
def Scope.itemNames (scope : Scope) : List String :=
  (Naming.camel scope.message.name ++ "Orm") :: scope.record.joins.map (·.name)
    ++ (Naming.camel scope.message.name ++ "Hooks")
      :: scope.affixes.map (·.around (Text.snakeCase scope.message.name))

namespace Emit

/-! ## Records, conversions, hooks and masks -/

theorem joinItems_declared {rt : Code} {owner : RecordModel} {join : Join} (h : joinItems rt owner join = .ok items) :
    Item.declarations items = [⟨.record, join.name⟩] := by
  unfold joinItems at h
  obtain ⟨name, found, h⟩ := Except.bind_eq_ok.mp h
  obtain ⟨ownerField, -, h⟩ := Except.bind_eq_ok.mp h
  obtain ⟨targetField, -, h⟩ := Except.bind_eq_ok.mp h
  cases h
  rw [← Ident.text_of_ofText found]
  rfl

theorem bindingItem_declared {rt : Code} {record : RecordModel} {fields : List (RecordField × Ident)}
    (h : bindingItem rt record ident fields = .ok item) : item.declaration? = none := by
  unfold bindingItem at h
  split at h
  · obtain ⟨binding, -, h⟩ := Except.bind_eq_ok.mp h
    cases h
    rfl
  · cases h
    rfl

theorem record_declared (h : Emit.record scope = .ok items) : Item.declarations items =
    ⟨.record, Naming.camel scope.record.name ++ "Orm"⟩ :: scope.record.joins.map (⟨.record, ·.name⟩) := by
  unfold Emit.record at h
  obtain ⟨name, found, h⟩ := Except.bind_eq_ok.mp h
  obtain ⟨fields, -, h⟩ := Except.bind_eq_ok.mp h
  obtain ⟨binding, bound, h⟩ := Except.bind_eq_ok.mp h
  obtain ⟨joins, joined, h⟩ := Except.bind_eq_ok.mp h
  cases h
  have each : joins.map Item.declarations = scope.record.joins.map fun join => [⟨.record, join.name⟩] :=
    List.map_of_mapM joined fun _ _ _ => joinItems_declared
  have text : name.text = Naming.camel scope.record.name ++ "Orm" := Ident.text_of_ofText found
  rw [Item.declarations_append, Item.declarations_flatten, List.flatMap_def, each, ← List.flatMap_def,
    ← List.map_eq_flatMap, Item.declarations_cons, Item.declarations_cons, bindingItem_declared bound, ← text]
  rfl

theorem conversion_declared (h : conversion scope = .ok items) : Item.declarations items = [] := by
  unfold conversion at h
  obtain ⟨message, -, h⟩ := Except.bind_eq_ok.mp h
  obtain ⟨record, -, h⟩ := Except.bind_eq_ok.mp h
  obtain ⟨hooks, -, h⟩ := Except.bind_eq_ok.mp h
  obtain ⟨copies, -, h⟩ := Except.bind_eq_ok.mp h
  cases h
  rfl

theorem hooks_declared (h : hooks scope = .ok items) :
    Item.declarations items = [⟨.interface, Naming.camel scope.message.name ++ "Hooks"⟩] := by
  unfold hooks at h
  obtain ⟨name, found, h⟩ := Except.bind_eq_ok.mp h
  obtain ⟨message, -, h⟩ := Except.bind_eq_ok.mp h
  obtain ⟨record, -, h⟩ := Except.bind_eq_ok.mp h
  cases h
  have text : name.text = Naming.camel scope.message.name ++ "Hooks" := Ident.text_of_ofText found
  rw [← text]
  rfl

theorem fieldMask_declared (h : fieldMask scope = .ok items) :
    Item.declarations items = [⟨.helper, Affixes.mask.around (Text.snakeCase scope.message.name)⟩] := by
  unfold fieldMask at h
  obtain ⟨message, -, h⟩ := Except.bind_eq_ok.mp h
  obtain ⟨name, found, h⟩ := Except.bind_eq_ok.mp h
  obtain ⟨entries, -, h⟩ := Except.bind_eq_ok.mp h
  cases h
  exact congrArg (fun text => [Item.Declaration.mk .helper text]) (Ident.text_of_ofText found)

/-! ## Operations -/

namespace Operations

variable {ops : Operations} {load : Ident} {key : PrimaryKey}

/-- The name of a function about the message. -/
def spelled (ops : Operations) (affixes : Affixes) : String :=
  affixes.around (Text.snakeCase ops.scope.record.name)

theorem name_spelled (h : ops.name before after = .ok ident) : ident.text = ops.spelled ⟨before, after⟩ :=
  Ident.text_of_ofText h

/-- An operation has the name that is read for it. -/
theorem function_declared {doc : List String} {parameters result body : Code}
    (h : (do return ops.function doc (← ops.name before after) parameters result body) = Except.ok item) :
    item.declaration? = some ⟨.operation, ops.spelled ⟨before, after⟩⟩ := by
  obtain ⟨name, found, h⟩ := Except.bind_eq_ok.mp h
  cases h
  exact congrArg (fun text => some (Item.Declaration.mk .operation text)) (name_spelled found)

theorem strictUpdate_declared (h : ops.strictUpdate load = .ok item) :
    item.declaration? = some ⟨.operation, ops.spelled ⟨"default_strict_update_", ""⟩⟩ := by
  obtain ⟨name, found, h⟩ := Except.bind_eq_ok.mp h
  obtain ⟨restore, -, h⟩ := Except.bind_eq_ok.mp h
  cases h
  exact congrArg (fun text => some (Item.Declaration.mk .operation text)) (name_spelled found)

theorem patch_declared (h : ops.patch = .ok item) :
    item.declaration? = some ⟨.operation, ops.spelled ⟨"default_patch_", ""⟩⟩ := by
  obtain ⟨read, -, h⟩ := Except.bind_eq_ok.mp h
  obtain ⟨update, -, h⟩ := Except.bind_eq_ok.mp h
  obtain ⟨merge, -, h⟩ := Except.bind_eq_ok.mp h
  exact function_declared h

theorem patchSet_declared (h : ops.patchSet = .ok item) :
    item.declaration? = some ⟨.operation, ops.spelled ⟨"default_patch_set_", ""⟩⟩ := by
  obtain ⟨patch, -, h⟩ := Except.bind_eq_ok.mp h
  exact function_declared h

theorem loadFunction_declared (ops : Operations) (load : Ident) :
    Item.declarations (ops.loadFunction load) = if ops.linked.isEmpty then [] else [⟨.helper, load.text⟩] := by
  unfold loadFunction
  split <;> rfl

/-- The eight operations, and the function that loads associations if there are any. -/
theorem items_declared (h : ops.items = .ok items) : Item.declarations items =
    Affixes.operations.map (⟨.operation, ops.spelled ·⟩) ++
      if ops.linked.isEmpty then [] else [⟨.helper, ops.spelled .load⟩] := by
  unfold Operations.items at h
  obtain ⟨load, load_found, h⟩ := Except.bind_eq_ok.mp h
  obtain ⟨create, created, h⟩ := Except.bind_eq_ok.mp h
  obtain ⟨read, reads, h⟩ := Except.bind_eq_ok.mp h
  obtain ⟨strictUpdate, updates, h⟩ := Except.bind_eq_ok.mp h
  obtain ⟨patch, patches, h⟩ := Except.bind_eq_ok.mp h
  obtain ⟨patchSet, patches_set, h⟩ := Except.bind_eq_ok.mp h
  obtain ⟨delete, deletes, h⟩ := Except.bind_eq_ok.mp h
  obtain ⟨deleteSet, deletes_set, h⟩ := Except.bind_eq_ok.mp h
  obtain ⟨list, lists, h⟩ := Except.bind_eq_ok.mp h
  cases h
  have eight : Item.declarations [create, read, strictUpdate, patch, patchSet, delete, deleteSet, list] =
      Affixes.operations.map (⟨.operation, ops.spelled ·⟩) := by
    simp only [Item.declarations_cons, Item.declarations_nil, function_declared created, function_declared reads,
      strictUpdate_declared updates, patch_declared patches, patchSet_declared patches_set, function_declared deletes,
      function_declared deletes_set, function_declared lists, Option.toList_some, List.singleton_append,
      Affixes.operations, List.map_cons, List.map_nil]
  have loads : load.text = ops.spelled Affixes.load := name_spelled load_found
  rw [Item.declarations_append, eight, loadFunction_declared, loads]

theorem ofScope_linked (h : ofScope scope key = .ok ops) : ops.scope = scope ∧
    ops.linked.isEmpty = !scope.associations.any (·.2.primaryKey.isSome) := by
  obtain ⟨linked, made, h⟩ := Except.bind_eq_ok.mp h
  obtain ⟨keyField, -, h⟩ := Except.bind_eq_ok.mp h
  obtain ⟨message, -, h⟩ := Except.bind_eq_ok.mp h
  obtain ⟨record, -, h⟩ := Except.bind_eq_ok.mp h
  obtain ⟨hooks, -, h⟩ := Except.bind_eq_ok.mp h
  obtain ⟨bound, -, h⟩ := Except.bind_eq_ok.mp h
  cases h
  refine ⟨rfl, ?_⟩
  have size := (List.mapM_ok made).length_eq
  rw [Bool.eq_iff_iff, List.isEmpty_iff_length_eq_zero, ← size, ← List.isEmpty_iff_length_eq_zero, List.isEmpty_iff]
  simp

end Operations

theorem operations_declared (h : operations scope = .ok items) : Item.declarations items = scope.operations := by
  unfold operations at h
  unfold Scope.operations
  cases keyed : scope.record.primaryKey with
  | none =>
    rw [keyed] at h
    cases h
    rfl
  | some key =>
    rw [keyed] at h
    obtain ⟨ops, made, h⟩ := Except.bind_eq_ok.mp h
    have emitted : ops.items = .ok items := h
    obtain ⟨rfl, linked⟩ := Operations.ofScope_linked made
    rw [Operations.items_declared emitted, linked]
    cases ops.scope.associations.any (·.2.primaryKey.isSome) <;> rfl

theorem messageItems_declared (h : messageItems scope = .ok items) :
    Item.declarations items = scope.declarations := by
  obtain ⟨records, conversions, hookItems, masks, operationItems, recorded, converted, hooked, masked, operated, rfl⟩ :=
    messageItems_eq_ok.mp h
  simp only [Item.declarations_append, record_declared recorded, conversion_declared converted, hooks_declared hooked,
    fieldMask_declared masked, operations_declared operated]
  simp [Scope.declarations]

/-- The items of a message have its names. -/
theorem messageItems_names (named : scope.record.name = scope.message.name) (h : messageItems scope = .ok items) :
    Item.names items = scope.itemNames := by
  rw [← Item.map_declarations, messageItems_declared h]
  unfold Scope.declarations Scope.itemNames Scope.operations Scope.affixes
  cases scope.record.primaryKey with
  | none => simp [named, Function.comp_def]
  | some key => cases scope.associations.any (·.2.primaryKey.isSome) <;> simp [named, Function.comp_def]

/-- The structs of a message are its record and its join records. -/
theorem messageItems_records (h : messageItems scope = .ok items) : Item.namesOf .record items =
    (Naming.camel scope.record.name ++ "Orm") :: scope.record.joins.map (·.name) := by
  rw [Item.namesOf, messageItems_declared h]
  unfold Scope.declarations Scope.operations
  cases scope.record.primaryKey with
  | none => simp
  | some key => cases scope.associations.any (·.2.primaryKey.isSome) <;> simp

/-- A message has operations exactly if its record has a key. -/
theorem messageItems_operations (h : messageItems scope = .ok items) : Item.namesOf .operation items =
    if scope.record.primaryKey.isSome then Affixes.operations.map (·.around (Text.snakeCase scope.record.name))
    else [] := by
  rw [Item.namesOf, messageItems_declared h]
  unfold Scope.declarations Scope.operations
  cases scope.record.primaryKey with
  | none => simp
  | some key => cases scope.associations.any (·.2.primaryKey.isSome) <;> simp

end Emit

end ProtoStore
