import ProtoStore.Proofs.Emit.Files
import ProtoStore.Proofs.Emit.Required
import ProtoStore.Proofs.Source.Paths

/-!
# When a schema can be rendered

The models of a schema put its texts into code as they are, and whether code can be made of them is found out only
when it is. So a schema that has models may have no files.

* `Schema.Lettered` : the names of the schema begin with a letter, whatever its annotations say;
* `Schema.scope_sound` : the scope of a message is sound if its code can write its keys;
* `Schema.keys_of_items` : and it can if its items are well formed;
* `Schema.generate_iff` : so a schema with models has files exactly if the code of its messages can write their keys
  and the path of the library can stand where it is put.
-/

namespace ProtoStore

open Text (IsLettered)

variable {schema : Schema} {keys : Keys} {message : Message} {models : Models} {record : RecordModel}
  {association : Association} {config : Config} {scope : Scope} {name : String} {items : List Item}

/-! ## Lettered schemas -/

/-- A message whose name, package, fields and oneofs begin with letters. -/
structure Message.Lettered (message : Message) : Prop where
  name : IsLettered message.name.toList
  package : ∀ segment ∈ Naming.packageSegments message.package, IsLettered segment.toList
  fields : ∀ field ∈ message.fields, IsLettered field.name.toList ∧
    ∀ oneof, field.oneof = some oneof → IsLettered oneof.toList

instance : DecidablePred Message.Lettered := fun message =>
  decidable_of_iff (IsLettered message.name.toList ∧
      (∀ segment ∈ Naming.packageSegments message.package, IsLettered segment.toList) ∧
      ∀ field ∈ message.fields, IsLettered field.name.toList ∧ ∀ oneof ∈ field.oneof, IsLettered oneof.toList)
    ⟨fun h => ⟨h.1, h.2.1, h.2.2⟩, fun h => ⟨h.name, h.package, h.fields⟩⟩

/-- A schema of such messages. -/
def Schema.Lettered (schema : Schema) : Prop := ∀ message ∈ schema.messages, message.Lettered

instance (schema : Schema) : Decidable schema.Lettered :=
  inferInstanceAs (Decidable (∀ message ∈ schema.messages, message.Lettered))

namespace Schema

theorem records_lettered (lettered : schema.Lettered) (built : schema.models = .ok models) :
    ∀ record ∈ models.records, record.Lettered := by
  intro record there
  obtain ⟨keys, -, -, each⟩ := models_built built
  obtain ⟨message, listed, made⟩ := each.exists_left there
  obtain ⟨own, -, found⟩ := List.mem_filterMap.mp listed
  have names := lettered message (message?_ok found).1
  obtain ⟨name, package, -⟩ := recordOf_copies made
  exact ⟨name ▸ names.name, package ▸ names.package⟩

theorem key_lettered (lettered : schema.Lettered) (keyed : schema.keys = .ok keys) {key : PrimaryKey}
    (found : keys.find? name = some key) : IsLettered key.field.toList := by
  obtain ⟨message, persisted, -, primary⟩ := keys_ok keyed found
  obtain ⟨field, declared, made⟩ := Message.primaryKey_ok primary
  obtain ⟨-, -, -, -, -, same, -⟩ := Field.toKey_ok made
  exact same ▸ ((lettered message (mem_persisted.mp persisted).1).fields field declared).1

/-- The keys of an association that are written by the code of a message. -/
theorem mem_writtenKeys (resolved : schema.resolve keys = .ok models.resolution)
    (inside : association ∈ models.resolution.associations) {entry : String × String}
    (there : entry ∈ association.writtenKeys) : entry ∈ schema.writtenKeys := by
  rw [← written_eq resolved]
  exact List.mem_flatMap.mpr ⟨association, inside, there⟩

/-- The site of an association. -/
theorem exists_resolved (resolved : schema.resolve keys = .ok models.resolution)
    (inside : association ∈ models.resolution.associations) :
    ∃ site ∈ schema.sites keys, ∃ earlier, AssociationField.resolve site earlier = .ok association :=
  (resolve_each resolved).exists_left inside

/-- The record of the target of a has-many association, and the field in which it keeps the key of the owner. -/
theorem child_record (built : schema.models = .ok models) {site : AssociationField} (keyed : schema.keys = .ok keys)
    (there : site ∈ schema.sites keys) (inside : association ∈ models.resolution.associations)
    (resolved : site.Resolved association) {foreignKey : String} {nullable reused : Bool} {ownerKey : KeyKind}
    (link : association.link = .hasMany foreignKey nullable reused ownerKey) {child : RecordModel}
    (found : models.record? association.target = some child) :
    child.primaryKey = keys.find? association.target ∧ ∃ column, child.childKey? foreignKey = some column ∧
      (reused = false ∧ column.name = foreignKey ∨
        reused = true ∧ ∃ field ∈ site.target.fields, column.name = Naming.snake field.name) := by
  obtain ⟨own_keys, message, own_keyed, own_resolved, message_found, made⟩ := record?_built built found
  obtain rfl : keys = own_keys := Except.ok.inj (keyed.symm.trans own_keyed)
  rw [resolved.target, message?_of_site there] at message_found
  obtain rfl : site.target = message := Option.some.inj message_found
  have own := recordOf_ok made
  exact ⟨resolved.target ▸ own.primaryKey, own.child_key (resolve_ok own_resolved).1 there rfl inside resolved link⟩

/-! ## Sound scopes -/

variable (built : schema.models = .ok models) (found : schema.scope? config models name = some scope)
include built found

/-- What the record of a scope is built from. -/
theorem scope_record : ∃ keys, schema.keys = .ok keys ∧ schema.resolve keys = .ok models.resolution ∧
    schema.recordOf keys models.resolution scope.message = .ok scope.record ∧ scope.message.fullName = name := by
  obtain ⟨-, -, message_found, record_found⟩ := scope?_ok found
  obtain ⟨keys, message, keyed, resolved, again, made⟩ := record?_built built record_found
  obtain rfl : scope.message = message := Option.some.inj (message_found.symm.trans again)
  exact ⟨keys, keyed, resolved, made, (message?_ok again).2⟩

/-- The record of a scope has a key exactly if the message has one. -/
theorem hasKey_iff : schema.HasKey name ↔ scope.record.primaryKey.isSome = true := by
  obtain ⟨keys, keyed, -, made, rfl⟩ := scope_record built found
  rw [(recordOf_ok made).primaryKey, Option.isSome_iff_exists]
  constructor
  · rintro ⟨own, key, own_keyed, own_found⟩
    obtain rfl : keys = own := Except.ok.inj (keyed.symm.trans own_keyed)
    exact ⟨key, own_found⟩
  · rintro ⟨key, key_found⟩
    exact ⟨keys, key, keyed, key_found⟩

/-- The associations of a message have keys that name fields if its code can write them. -/
theorem association_named (lettered : schema.Lettered)
    (writes : ∀ entry ∈ schema.writtenKeys, entry.1 = name → schema.CanWrite entry)
    (there : association ∈ scope.record.associations) :
    IsLettered association.field.toList ∧ association.Named models scope.record := by
  have has_key := hasKey_iff built found
  obtain ⟨keys, keyed, resolved, made, rfl⟩ := scope_record built found
  obtain ⟨inside, owner⟩ := (recordOf_associations made).mp there
  obtain ⟨site, site_there, earlier, site_resolved⟩ := exists_resolved resolved inside
  have own := (AssociationField.resolve_ok site_resolved).1
  have written {key : String} (there : (association.owner, key) ∈ association.writtenKeys)
      (has : schema.HasKey association.owner) : Ident.Names key :=
    (writes _ (mem_writtenKeys resolved inside there) owner).2 has
  obtain ⟨-, same_keys, site_owner, site_field, site_target⟩ := site_ok site_there
  have owner_keyed (several : association.link.kind ≠ .embeddedOne) : schema.HasKey association.owner := by
    obtain ⟨key, key_found⟩ := AssociationField.ownerKey_of_resolve site_resolved several
    exact ⟨keys, key, keyed, own.owner ▸ same_keys ▸ key_found⟩
  have owner_lettered := lettered _ (mem_persisted.mp site_owner).1
  have field_lettered := (owner_lettered.fields _ site_field).1
  refine ⟨own.field ▸ field_lettered, ?_⟩
  unfold Association.Named
  cases link : association.link with
  | embeddedOne foreignKey nullable targetKey =>
    exact fun keyed => written (by simp [Association.writtenKeys, link]) (owner ▸ has_key.mpr keyed)
  | hasMany foreignKey nullable reused ownerKey =>
    intro child child_found
    obtain ⟨-, column, stored, origin⟩ := child_record built keyed site_there inside own link child_found
    have names : Ident.Names column.name := by
      rcases origin with ⟨rfl, same⟩ | ⟨-, field, declared, same⟩
      · exact same ▸ written (by simp [Association.writtenKeys, link]) (owner_keyed (by simp [link, Link.kind]))
      · exact same ▸ Naming.snake_names ((lettered _ (mem_persisted.mp site_target).1).fields field declared).1
    obtain ⟨ident, ident_found, ident_names⟩ := names.ofText
    refine ⟨(ident, column.column), ?_, ident_names⟩
    rw [Emit.childKey_of_found stored]
    exact Except.bind_eq_ok.mpr ⟨ident, ident_found, rfl⟩
  | manyToMany join =>
    have joins := AssociationField.joins_of_resolve site_resolved link
    have has := owner_keyed (by simp [link, Link.kind])
    refine ⟨Ident.valid_of_lettered ?_, written (by simp [Association.writtenKeys, link]) has,
      written (by simp [Association.writtenKeys, link]) has⟩
    rw [joins.name, Field.joinName, String.toList_append, String.toList_append]
    exact ((Naming.camel_lettered owner_lettered.name).append (Naming.camel_lettered field_lettered).chars).append
      (by decide)

/-- The columns of a message name fields where they have to if its code can write its keys. -/
theorem column_named (lettered : schema.Lettered)
    (writes : ∀ entry ∈ schema.writtenKeys, entry.1 = name → schema.CanWrite entry) {column : RecordField}
    (there : column ∈ scope.record.fields) : column.Named scope.record := by
  have has_key := hasKey_iff built found
  obtain ⟨keys, keyed, resolved, made, rfl⟩ := scope_record built found
  have declared := lettered _ (message?_ok (scope?_ok found).2.2.1).1
  rw [(recordOf_ok made).fields, List.mem_append, List.mem_append] at there
  rcases there with (of_message | of_owner) | of_child
  · obtain ⟨field, inside, stored⟩ := List.mem_filterMap.mp of_message
    obtain ⟨type, -, rfl⟩ := Field.stored?_ok stored
    have field_lettered := (declared.fields field inside).1
    have names := Naming.snake_names field_lettered
    constructor
    · dsimp only
      exact names.declares
    · dsimp only
      exact fun _ => names
    · dsimp only [RecordField.schemaField?]
      intro name same
      cases same
      exact ⟨field_lettered, names⟩
  · obtain ⟨association, owned, made⟩ := List.mem_filterMap.mp of_owner
    obtain ⟨inside, owner⟩ := Resolution.mem_ownedBy.mp owned
    obtain ⟨foreignKey, nullable, targetKey, link, rfl⟩ := Association.ownerField?_ok made
    obtain ⟨declares, names⟩ := writes (association.owner, foreignKey)
      (mem_writtenKeys resolved inside (by simp [Association.writtenKeys, link])) owner
    exact ⟨declares, fun keyed => names (owner ▸ has_key.mpr keyed), by simp [RecordField.schemaField?]⟩
  · obtain ⟨association, child, made⟩ := List.mem_filterMap.mp of_child
    obtain ⟨inside, target, -⟩ := Resolution.mem_childrenOf.mp child
    obtain ⟨foreignKey, nullable, ownerKey, link, rfl⟩ := Association.childField?_ok made
    obtain ⟨declares, names⟩ := writes (association.target, foreignKey)
      (mem_writtenKeys resolved inside (by simp [Association.writtenKeys, link])) target
    exact ⟨declares, fun keyed => names (target ▸ has_key.mpr keyed), by simp [RecordField.schemaField?]⟩

/-- The scope of a message is sound if its code can write its keys. -/
theorem scope_sound (lettered : schema.Lettered) (rt_neat : config.runtime.code.neat = true)
    (writes : ∀ entry ∈ schema.writtenKeys, entry.1 = name → schema.CanWrite entry) : scope.Sound := by
  obtain ⟨same_config, same_models, message_found, record_found⟩ := scope?_ok found
  obtain ⟨keys, keyed, resolved, made, -⟩ := scope_record built found
  have declared := lettered _ (message?_ok message_found).1
  have records := records_lettered lettered built
  exact {
    rt := by rw [Scope.rt, same_config, rt_neat]
    message := declared.name
    fields := declared.fields
    record := records _ (List.mem_of_find?_eq_some record_found)
    records := same_models ▸ records
    columns := fun column there => column_named built found lettered writes there
    key := fun key has => key_lettered lettered keyed ((recordOf_ok made).primaryKey.symm.trans has)
    associations := fun association there =>
      same_models ▸ association_named built found lettered writes there }

/-- The items of a message can be emitted, all of them well formed, if its code can write its keys. -/
theorem exists_items (lettered : schema.Lettered) (rt_neat : config.runtime.code.neat = true)
    (writes : ∀ entry ∈ schema.writtenKeys, entry.1 = name → schema.CanWrite entry) :
    ∃ items, Emit.messageItems scope = .ok items ∧ ∀ item ∈ items, item.wellFormed = true := by
  have sound := scope_sound built found lettered rt_neat writes
  obtain ⟨records, records_made, records_formed⟩ := sound.record_ok
  obtain ⟨conversions, conversions_made, conversions_formed⟩ := sound.conversion_ok
  obtain ⟨hooks, hooks_made, hooks_formed⟩ := sound.hooks_ok
  obtain ⟨masks, masks_made, masks_formed⟩ := sound.fieldMask_ok
  obtain ⟨operations, operations_made, operations_formed⟩ := sound.operations_ok
  refine ⟨_, Emit.messageItems_eq_ok.mpr ⟨records, conversions, hooks, masks, operations, records_made,
    conversions_made, hooks_made, masks_made, operations_made, rfl⟩, ?_⟩
  simp only [List.forall_mem_append]
  exact ⟨⟨⟨⟨records_formed, conversions_formed⟩, hooks_formed⟩, masks_formed⟩, operations_formed⟩

/-! ## What is required -/

omit found in
/-- The operations of an owner select the keys of its children, and so these name fields. -/
theorem selected_names (keyed : schema.keys = .ok keys) (resolved : schema.resolve keys = .ok models.resolution)
    (made : schema.recordOf keys models.resolution scope.message = .ok scope.record)
    (same_models : scope.models = models) (emitted : Emit.operations scope = .ok items)
    (formed : ∀ item ∈ items, item.wellFormed = true)
    (inside : association ∈ models.resolution.associations) (owned : association.owner = scope.message.fullName)
    {foreignKey : String} {nullable : Bool} {ownerKey : KeyKind}
    (link : association.link = .hasMany foreignKey nullable false ownerKey) : Ident.Names foreignKey := by
  obtain ⟨site, site_there, earlier, site_resolved⟩ := exists_resolved resolved inside
  obtain ⟨-, same_keys, -, -, site_target⟩ := site_ok site_there
  obtain ⟨owner_key, owner_keyed⟩ := AssociationField.ownerKey_of_resolve site_resolved
    (by simp [link, Link.kind])
  obtain ⟨target_key, target_keyed⟩ := AssociationField.targetKey_of_resolve site_resolved
  have resolution := (AssociationField.resolve_ok site_resolved).1
  obtain ⟨child, child_found⟩ := exists_record built site_target
  rw [← resolution.target] at child_found target_keyed
  rw [same_keys] at target_keyed owner_keyed
  obtain ⟨child_key, column, stored, ⟨-, rfl⟩ | ⟨no, -⟩⟩ :=
    child_record built keyed site_there inside resolution link child_found
  · have listed : (association, child) ∈ scope.associations :=
      List.mem_filterMap.mpr ⟨association, (recordOf_associations made).mpr ⟨inside, owned⟩,
        by simp [same_models, child_found]⟩
    refine Emit.operations_names emitted formed ?_ listed (by rw [child_key, target_keyed]; rfl) link stored
    rw [(recordOf_ok made).primaryKey, ← owned, resolution.owner, owner_keyed]
    rfl
  · cases no

/-- Where the items of a message can be emitted, all of them well formed, its code can write its keys. -/
theorem keys_of_items (emitted : Emit.messageItems scope = .ok items)
    (formed : ∀ item ∈ items, item.wellFormed = true) :
    ∀ entry ∈ schema.writtenKeys, entry.1 = name → schema.CanWrite entry := by
  have has_key := hasKey_iff built found
  obtain ⟨keys, keyed, resolved, made, rfl⟩ := scope_record built found
  obtain ⟨-, same_models, message_found, record_found⟩ := scope?_ok found
  obtain ⟨records, conversions, hooks, masks, operations, records_made, -, -, -, operations_made, rfl⟩ :=
    Emit.messageItems_eq_ok.mp emitted
  simp only [List.forall_mem_append] at formed
  obtain ⟨⟨⟨⟨records_formed, -⟩, -⟩, -⟩, operations_formed⟩ := formed
  obtain ⟨columns, joins⟩ := Emit.record_names records_made records_formed
  have own := recordOf_ok made
  rw [← written_eq resolved]
  intro entry there same
  rw [← same] at has_key
  obtain ⟨association, inside, there⟩ := List.mem_flatMap.mp there
  unfold Association.writtenKeys at there
  cases link : association.link with
  | embeddedOne foreignKey nullable targetKey =>
    simp only [link, List.mem_singleton] at there
    subst there
    obtain ⟨declares, names⟩ := columns _ (own.foreignKey_mem inside same link)
    exact ⟨declares, fun has => names (has_key.mp has)⟩
  | hasMany foreignKey nullable reused ownerKey =>
    cases reused with
    | true => simp [link] at there
    | false =>
    simp only [link, Bool.false_eq_true, if_false, List.mem_cons, List.not_mem_nil, or_false] at there
    rcases there with rfl | rfl
    · exact canWrite_of_names (selected_names built keyed resolved made same_models operations_made operations_formed
        inside same link)
    · obtain ⟨declares, names⟩ := columns _ (own.backReference_mem inside same link)
      exact ⟨declares, fun has => names (has_key.mp has)⟩
  | manyToMany join =>
    have joined : association.owner = scope.message.fullName → join ∈ scope.record.joins := fun owner =>
      List.mem_filterMap.mpr ⟨association, (recordOf_associations made).mpr ⟨inside, owner⟩, by simp [link]⟩
    simp only [link, List.mem_cons, List.not_mem_nil, or_false] at there
    rcases there with rfl | rfl
    · exact canWrite_of_names (joins join (joined same)).1
    · exact canWrite_of_names (joins join (joined same)).2

end Schema

/-! ## The files of a schema -/

namespace Schema

/-- Whether the code of a message is asked for: it is persisted, and the file that declares it is to have output. -/
def Emits (schema : Schema) (name : String) : Prop :=
  name ∈ schema.persisted.map (·.fullName) ∧ ∃ message ∈ schema.message? name,
    ∃ file ∈ schema.files, file.generate = true ∧ message.file = file.name

instance (schema : Schema) (name : String) : Decidable (schema.Emits name) :=
  inferInstanceAs (Decidable (_ ∧ ∃ message ∈ schema.message? name, _))

theorem exists_files (built : schema.models = .ok models) : (∃ files, schema.generate config = .ok files) ↔
    ∀ file ∈ schema.files, file.generate = true → ∀ scope ∈ Emit.fileScopes schema config models file,
      config.runtime.beginsType = true ∧ config.runtime.suitsExpressions = true ∧
        ∃ items, Emit.messageItems scope = .ok items ∧ ∀ item ∈ items, item.wellFormed = true := by
  have each : (∃ files, schema.generate config = .ok files) ↔
      ∀ file ∈ schema.files.filter (·.generate), ∃ found, Emit.fileOf schema config models file = .ok found := by
    simp only [generate_eq_ok built, ← List.exists_mapM_iff]
    exact ⟨fun ⟨_, found, made, _⟩ => ⟨found, made⟩, fun ⟨found, made⟩ => ⟨_, found, made, rfl⟩⟩
  rw [each]
  simp only [List.mem_filter, and_imp, Emit.fileOf_eq_ok]
  refine forall₃_congr fun file _ _ => ?_
  constructor
  · rintro ⟨found, items, made, ⟨none, -⟩ | ⟨-, begins, suits, formed, -⟩⟩ scope there
    · rw [none] at there
      cases there
    · obtain ⟨own, listed, emitted⟩ := (List.mapM_ok made).exists_right there
      exact ⟨begins, suits, own, emitted, fun item inside => formed item (List.mem_flatten.mpr ⟨own, listed, inside⟩)⟩
  · intro sound
    obtain ⟨items, made, formed⟩ := List.exists_mapM_ok fun scope there => (sound scope there).2.2
    by_cases none : Emit.fileScopes schema config models file = []
    · exact ⟨_, items, made, .inl ⟨none, rfl⟩⟩
    · obtain ⟨scope, there⟩ := List.exists_mem_of_ne_nil _ none
      obtain ⟨begins, suits, -⟩ := sound scope there
      refine ⟨_, items, made, .inr ⟨none, begins, suits, fun item inside => ?_, rfl⟩⟩
      obtain ⟨own, listed, inside⟩ := List.mem_flatten.mp inside
      obtain ⟨scope, -, own_formed⟩ := formed.exists_left listed
      exact own_formed item inside

theorem emits_of_scope (built : schema.models = .ok models) {file : SchemaFile} (there : file ∈ schema.files)
    (wanted : file.generate = true) (inside : scope ∈ Emit.fileScopes schema config models file) :
    ∃ name, schema.scope? config models name = some scope ∧ schema.Emits name := by
  obtain ⟨name, ordered, found, same⟩ := mem_fileScopes.mp inside
  exact ⟨name, found, (models_order built).mem_iff.mp ordered, scope.message, (scope?_ok found).2.2.1, file, there,
    wanted, same⟩

theorem scope_of_emits (config : Config) (built : schema.models = .ok models) (emits : schema.Emits name) :
    ∃ file ∈ schema.files, file.generate = true ∧ ∃ scope ∈ Emit.fileScopes schema config models file,
      schema.scope? config models name = some scope := by
  obtain ⟨named, message, found, file, there, wanted, same⟩ := emits
  obtain ⟨persisted, inside, rfl⟩ := List.mem_map.mp named
  obtain ⟨record, record_found⟩ := exists_record built inside
  have scope_found : schema.scope? config models persisted.fullName = some ⟨config, models, message, record⟩ := by
    simp [scope?, Option.mem_def.mp found, record_found]
  exact ⟨file, there, wanted, _, mem_fileScopes.mpr ⟨_, (models_order built).mem_iff.mpr named, scope_found, same⟩,
    scope_found⟩

/-- Where there are files, the path of the library stands and the keys can be written. -/
theorem required_of_files (built : schema.models = .ok models) {files : List GeneratedFile}
    (generated : schema.generate config = .ok files) (emits : schema.Emits name) :
    config.runtime.beginsType = true ∧ config.runtime.suitsExpressions = true ∧
      ∀ entry ∈ schema.writtenKeys, entry.1 = name → schema.CanWrite entry := by
  obtain ⟨file, there, wanted, scope, inside, found⟩ := scope_of_emits config built emits
  obtain ⟨begins, suits, items, emitted, formed⟩ :=
    (exists_files built).mp ⟨files, generated⟩ file there wanted scope inside
  exact ⟨begins, suits, keys_of_items built found emitted formed⟩

/-- A schema with models has files, or code cannot be made of it. -/
theorem files_or_code (built : schema.models = .ok models) (config : Config) :
    (∃ files, schema.generate config = .ok files) ∨ ∃ error, schema.generate config = .error (.code error) := by
  cases generated : schema.generate config with
  | ok files => exact .inl ⟨files, rfl⟩
  | error error =>
    right
    unfold generate at generated
    rcases Except.bind_eq_error.mp generated with failed | ⟨own, -, later⟩
    · rw [built] at failed
      cases failed
    · rcases Except.bind_eq_error.mp later with failed | ⟨found, -, no⟩
      · obtain ⟨code, -, rfl⟩ := Except.mapError_eq_error.mp failed
        exact ⟨code, rfl⟩
      · cases no

/-- There are files where the path of the library stands and the keys can be written. -/
theorem files_of_written (lettered : schema.Lettered) (built : schema.models = .ok models)
    (rt_neat : config.runtime.code.neat = true)
    (stands : (∃ name, schema.Emits name) → config.runtime.beginsType = true ∧ config.runtime.suitsExpressions = true)
    (writes : ∀ entry ∈ schema.writtenKeys, schema.Emits entry.1 → schema.CanWrite entry) :
    ∃ files, schema.generate config = .ok files := by
  refine (exists_files built).mpr fun file there wanted scope inside => ?_
  obtain ⟨name, found, emits⟩ := emits_of_scope built there wanted inside
  obtain ⟨begins, suits⟩ := stands ⟨name, emits⟩
  refine ⟨begins, suits, exists_items built found lettered rt_neat ?_⟩
  rintro entry written rfl
  exact writes entry written emits

/-- **Rendering.** A lettered schema that has models has files, or code cannot be made of it. It has files exactly if
the path of the library can stand at the head of a type and in expressions, unless no code is asked for, and every
key that is written by the code of a message that is asked for can be: it is an identifier that names a field or, in a
message without a key of its own, that at least declares one. -/
theorem generate_iff {text : String} (lettered : schema.Lettered) (built : schema.models = .ok models)
    (parsed : Config.parse text = .ok config) :
    ((∃ files, schema.generate config = .ok files) ∨ ∃ error, schema.generate config = .error (.code error)) ∧
    ((∃ files, schema.generate config = .ok files) ↔
      ((∃ name, schema.Emits name) → config.runtime.beginsType = true ∧ config.runtime.suitsExpressions = true) ∧
      ∀ entry ∈ schema.writtenKeys, schema.Emits entry.1 → schema.CanWrite entry) := by
  refine ⟨files_or_code built config, ?_, ?_⟩
  · rintro ⟨files, generated⟩
    refine ⟨fun ⟨name, emits⟩ => ?_, fun entry written emits => ?_⟩
    · obtain ⟨begins, suits, -⟩ := required_of_files built generated emits
      exact ⟨begins, suits⟩
    · exact (required_of_files built generated emits).2.2 entry written rfl
  · rintro ⟨stands, writes⟩
    exact files_of_written lettered built (Config.parse_neat parsed) stands writes

/-! ## Comments with a key -/

/-- Posts with comments, which keep the key of their post in a given foreign key. -/
def keyedBlog (foreignKey : String) : Schema :=
  ofMessages [keyedMessage "Comment" [], keyedMessage "Post" [{ plainField "comments" (.message "blog.Comment") with
    repeated := true, association := some ⟨none, .default, none, some foreignKey, none, none⟩ }]]

theorem keyedBlog_built (foreignKey : String) (h : (keyedBlog foreignKey).models.toOption.isSome = true) :
    ∃ models, (keyedBlog foreignKey).models = .ok models := by
  obtain ⟨models, found⟩ := Option.isSome_iff_exists.mp h
  exact ⟨models, Except.toOption_eq_some.mp found⟩

theorem generate_keyword : (keyedBlog "type").Lettered ∧ Config.parse "" = .ok .default ∧
    (keyedBlog "type").writtenKeys = [("blog.Post", "type"), ("blog.Comment", "type")] ∧
    (keyedBlog "type").Emits "blog.Post" ∧ ∃ files, (keyedBlog "type").generate .default = .ok files := by
  have lettered : (keyedBlog "type").Lettered := by decide +kernel
  have written : (keyedBlog "type").writtenKeys = [("blog.Post", "type"), ("blog.Comment", "type")] := by
    decide +kernel
  obtain ⟨models, built⟩ := keyedBlog_built "type" (by decide +kernel)
  have names : Ident.Names "type" := by decide +kernel
  have parsed : Config.parse "" = .ok .default := rfl
  refine ⟨lettered, parsed, written, by decide +kernel, (generate_iff lettered built parsed).2.mpr ⟨?_, ?_⟩⟩
  · exact fun _ => ⟨by decide +kernel, by decide +kernel⟩
  · rw [written]
    simp [canWrite_of_names, names]

theorem keyedBlog_refused {key : String} (lettered : (keyedBlog key).Lettered)
    (has_models : (keyedBlog key).models.toOption.isSome = true) (emits : (keyedBlog key).Emits "blog.Post")
    (written : ("blog.Post", key) ∈ (keyedBlog key).writtenKeys) (undeclared : ¬ Ident.Declares key) :
    (keyedBlog key).Lettered ∧ (∃ models, (keyedBlog key).models = .ok models) ∧
      ∃ error, (keyedBlog key).generate .default = .error (.code error) := by
  obtain ⟨models, built⟩ := keyedBlog_built key has_models
  refine ⟨lettered, ⟨models, built⟩, (files_or_code built .default).resolve_left ?_⟩
  rintro ⟨files, generated⟩
  exact undeclared ((required_of_files built generated emits).2.2 _ written rfl).1

/-- A key that is no identifier, or one that names nothing, is found out only when the code is made. -/
theorem generate_refuses_keys :
    ((keyedBlog "post-id").Lettered ∧ (∃ models, (keyedBlog "post-id").models = .ok models) ∧
      ∃ error, (keyedBlog "post-id").generate .default = .error (.code error)) ∧
    (keyedBlog "self").Lettered ∧ (∃ models, (keyedBlog "self").models = .ok models) ∧
      ∃ error, (keyedBlog "self").generate .default = .error (.code error) := by
  constructor
  · exact keyedBlog_refused (by decide +kernel) (by decide +kernel) (by decide +kernel) (by decide +kernel)
      (by decide +kernel)
  · exact keyedBlog_refused (by decide +kernel) (by decide +kernel) (by decide +kernel) (by decide +kernel)
      (by decide +kernel)

end Schema

end ProtoStore
