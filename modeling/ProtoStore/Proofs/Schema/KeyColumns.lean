import Mathlib.Data.List.Pairwise
import ProtoStore.Emit.Operations
import ProtoStore.Proofs.Schema.Dependencies

/-!
# The columns of keys

The operations name the columns of keys without looking whether a record has them, or of which type they are.
It has them.

* `Schema.keys_ok`, `Message.primaryKey_ok`, `Field.toKey_ok` : where a key comes from;
* `Field.role_of_key` : the field of a key is a column of the type of the key;
* `RecordModel.childKey?` : the field in which the records of children hold a foreign key;
* `RecordOf.embedded_column`, `RecordOf.child_column` : the columns of foreign keys;
* `RecordOf.child_columns_apart` : different foreign keys of one child have different columns;
* `keyColumns` : the columns of keys and foreign keys in the models of a schema.
-/

namespace ProtoStore

variable {schema : Schema} {keys : Keys} {message : Message} {field : Field} {key : PrimaryKey}
  {record : RecordModel} {resolution : Resolution} {models : Models} {association : Association}

/-! ## Primary keys -/

/-- What is checked of the field of a key. -/
theorem Field.toKey_ok (h : field.toKey message = .ok key) :
    field.dropped = false ∧ field.oneof = none ∧ field.repeated = false ∧
      KeyKind.ofKind? field.kind = some key.kind ∧ (key.kind = .uuid ∨ field.isOptional = false) ∧
      key.field = field.name ∧ key.column = field.columnName := by
  unfold toKey at h
  dsimp only at h
  split at h
  · cases h
  next kept =>
  split at h
  · cases h
  next single =>
  split at h
  · cases h
  next free =>
  split at h
  · cases h
  next kind found =>
  split at h
  · cases h
  next present =>
  cases h
  refine ⟨by simpa using kept, by simpa using free, by simpa using single, found, ?_, rfl, rfl⟩
  rcases eq_or_ne kind .uuid with uuid | other
  · exact .inl uuid
  · exact .inr (by simpa [other] using present)

theorem KeyKind.ofScalar?_ok {type : Scalar} {kind : KeyKind} (h : KeyKind.ofScalar? type = some kind) :
    kind ≠ .uuid ∧ type.storage = kind.storage := by
  cases type <;> cases h <;> simp [Scalar.storage, KeyKind.storage]

theorem messageColumn?_uuid : messageColumn? uuidMessage false = some KeyKind.uuid.keyType := rfl

/-- The field of a key is a column of the type of the key. -/
theorem Field.role_of_key (plain : schema.isPersisted uuidMessage = false)
    (h : field.toKey message = .ok key) :
    field.role schema message = .ok (.column key.kind.keyType) := by
  obtain ⟨kept, free, single, kind, present, -⟩ := toKey_ok h
  unfold role
  rw [if_neg (by simp [kept]), free]
  cases type : field.kind with
  | scalar scalar =>
    obtain ⟨other, storage⟩ := KeyKind.ofScalar?_ok (by simpa [KeyKind.ofKind?, type] using kind)
    have required : field.isOptional = false := present.resolve_left other
    simp [single, required, storage, KeyKind.keyType, other, ColumnType.direct]
  | message name =>
    obtain ⟨rfl, uuid⟩ : name = uuidMessage ∧ KeyKind.uuid = key.kind := by
      simpa [KeyKind.ofKind?, type] using kind
    simp [plain, single, messageColumn?_uuid, ← uuid]
  | enumeration | map | group => simp [type, KeyKind.ofKind?] at kind

theorem Message.primaryKey_ok (h : message.primaryKey = .ok (some key)) :
    ∃ field ∈ message.fields, field.toKey message = .ok key := by
  unfold primaryKey at h
  obtain ⟨found, key_field, h⟩ := Except.bind_eq_ok.mp h
  cases found with
  | none => cases h
  | some field =>
    obtain ⟨made, to_key, h⟩ := Except.bind_eq_ok.mp h
    cases h
    refine ⟨field, ?_, to_key⟩
    unfold keyField? at key_field
    split at key_field
    · have named := (Option.filter_eq_some_iff.mp (Except.ok.inj key_field)).1
      exact List.mem_of_find?_eq_some named
    · next annotated =>
      cases key_field
      exact List.mem_of_mem_filter (annotated ▸ List.mem_singleton_self field)
    · cases key_field

theorem Schema.keys_ok (h : schema.keys = .ok keys) {name : String} (found : keys.find? name = some key) :
    ∃ message ∈ schema.persisted, message.fullName = name ∧ message.primaryKey = .ok (some key) := by
  unfold Schema.keys at h
  obtain ⟨all, mapped, h⟩ := Except.bind_eq_ok.mp h
  cases h
  obtain ⟨before, after, split, -⟩ := List.lookup_eq_some_iff.mp found
  have there : (name, key) ∈ all.filterMap fun entry => entry.2.map fun key => (entry.1, key) := by
    rw [← List.mem_reverse, split]
    simp
  obtain ⟨entry, listed, made⟩ := List.mem_filterMap.mp there
  obtain ⟨message, persisted, built⟩ := (List.mapM_ok mapped).exists_left listed
  obtain ⟨own, primary, built⟩ := Except.bind_eq_ok.mp built
  cases built
  obtain ⟨own_key, rfl, same⟩ := Option.map_eq_some_iff.mp made
  cases same
  exact ⟨message, persisted, rfl, primary⟩

/-! ## Foreign keys -/

/-- Whether a field of a record is the one that holds a foreign key of its children. -/
def RecordField.holds (foreignKey : String) (field : RecordField) : Bool :=
  match field.origin with
  | .backReference .. => field.name == foreignKey
  | .schema name => name == foreignKey
  | .foreignKey _ => false

/-- The field in which records hold a foreign key that refers to their owner. -/
def RecordModel.childKey? (child : RecordModel) (foreignKey : String) : Option RecordField :=
  child.fields.find? (·.holds foreignKey)

/-- The field that the operations use is that one, if there is one. -/
theorem Emit.childKey_of_found {column : RecordField} {foreignKey : String}
    (h : record.childKey? foreignKey = some column) :
    childKey record foreignKey = do return (← column.ident, column.column) := by
  simp only [childKey]
  split
  · next found =>
    obtain rfl := Option.some.inj (found.symm.trans h)
    rfl
  · next absent => cases absent.symm.trans h

/-- A column of a foreign key: it holds the key and is null where the foreign key may be. The key has to be
wrapped if and only if the column is optional and that of the key itself is not. -/
structure RecordField.Refers (column : RecordField) (kind : KeyKind) (nullable : Bool) : Prop where
  scalar : column.type.scalar = (kind.foreignKeyType nullable).scalar
  null : column.type.nullable = (kind.foreignKeyType nullable).nullable
  wraps : kind.wrapsForeignKey nullable = true ↔ column.type.nullable = true ∧ kind.keyType.nullable = false

theorem RecordField.refers {column : RecordField} {kind : KeyKind} {nullable : Bool}
    (scalar : column.type.scalar = (kind.foreignKeyType nullable).scalar)
    (null : column.type.nullable = (kind.foreignKeyType nullable).nullable) : column.Refers kind nullable := by
  refine ⟨scalar, null, ?_⟩
  rw [null]
  cases kind <;> simp [KeyKind.wrapsForeignKey, KeyKind.foreignKeyType, KeyKind.keyType, ColumnType.direct]

theorem Association.usesChildKey_self {foreignKey : String} {nullable reused : Bool} {ownerKey : KeyKind}
    (link : association.link = .hasMany foreignKey nullable reused ownerKey) :
    association.usesChildKey association.target foreignKey = true := by
  simp [usesChildKey, link]

instance : Std.Symm Association.KeysApart where
  symm first second apart child foreignKey uses := by
    by_contra other
    rw [apart child foreignKey (by simpa using other)] at uses
    cases uses

theorem Field.stored?_holds {foreignKey : String} :
    (field.stored? schema message).any (·.holds foreignKey) =
      (field.name == foreignKey && (field.stored? schema message).isSome) := by
  unfold stored?
  split <;> simp [RecordField.holds]

namespace Schema.RecordOf

variable (own : schema.RecordOf keys resolution message record) {foreignKey : String} {nullable : Bool}
include own

/-- The record of an owner has exactly one field with the name of the foreign key of an embedded message. -/
theorem embedded_column {targetKey : KeyKind} (there : association ∈ resolution.associations)
    (owned : association.owner = message.fullName)
    (link : association.link = .embeddedOne foreignKey nullable targetKey)
    (free : ∀ field ∈ message.fields, Naming.snake field.name ≠ foreignKey) :
    ∃ column ∈ record.fields, column.name = foreignKey ∧ column.type = targetKey.foreignKeyType nullable ∧
      ∀ other ∈ record.fields, other.name = foreignKey → other = column := by
  have inside := own.foreignKey_mem there owned link
  refine ⟨_, inside, rfl, rfl, fun other other_there named => ?_⟩
  have same_column : other.column = foreignKey := by
    rw [own.fields, List.mem_append, List.mem_append] at other_there
    rcases other_there with (of_message | of_owner) | of_child
    · obtain ⟨field, declared, stored⟩ := List.mem_filterMap.mp of_message
      obtain ⟨type, -, made⟩ := Field.stored?_ok stored
      simp only [made] at named
      exact absurd named (free field declared)
    · obtain ⟨embedding, -, made⟩ := List.mem_filterMap.mp of_owner
      obtain ⟨name, _, _, -, rfl⟩ := Association.ownerField?_ok made
      exact named
    · obtain ⟨collection, -, made⟩ := List.mem_filterMap.mp of_child
      obtain ⟨name, _, _, -, rfl⟩ := Association.childField?_ok made
      exact named
  exact List.inj_on_of_nodup_map own.columns other_there inside same_column

/-- A foreign key in a field that the child declares. -/
theorem reused_column {existing : Field} {type : ColumnType} (found : message.field? foreignKey = some existing)
    (role : existing.role schema message = .ok (.column type)) :
    record.childKey? foreignKey =
      some ⟨Naming.snake existing.name, existing.columnName, type, .schema existing.name⟩ := by
  have stored : existing.stored? schema message =
      some ⟨Naming.snake existing.name, existing.columnName, type, .schema existing.name⟩ := by
    simp [Field.stored?, role]
  obtain ⟨named, before, after, split, others⟩ := List.find?_eq_some_iff_append.mp found
  have first : message.fields.find? (fun field => (field.stored? schema message).any (·.holds foreignKey)) =
      some existing := by
    refine List.find?_eq_some_iff_append.mpr ⟨?_, before, after, split, fun other there => ?_⟩
    · rw [Field.stored?_holds, named, stored]
      rfl
    · rw [Field.stored?_holds, Bool.eq_false_of_not_eq_true' (others other there)]
      rfl
  unfold RecordModel.childKey?
  rw [own.fields, List.find?_append, List.find?_append, List.find?_filterMap, first]
  simp [stored]

/-- A foreign key in a field that the records of the child get. -/
theorem added_column {ownerKey : KeyKind} (apart : resolution.associations.Pairwise Association.KeysApart)
    (absent : message.field? foreignKey = none) (there : association ∈ resolution.associations)
    (target : association.target = message.fullName)
    (link : association.link = .hasMany foreignKey nullable false ownerKey) :
    record.childKey? foreignKey =
      some ⟨foreignKey, foreignKey, ownerKey.foreignKeyType nullable,
        .backReference association.owner association.field⟩ := by
  have of_message : (message.fields.filterMap (·.stored? schema message)).find? (·.holds foreignKey) = none := by
    refine List.find?_eq_none.mpr fun column inside => ?_
    obtain ⟨field, declared, stored⟩ := List.mem_filterMap.mp inside
    obtain ⟨type, -, rfl⟩ := Field.stored?_ok stored
    simpa [RecordField.holds] using List.find?_eq_none.mp absent field declared
  have of_owner : ((resolution.ownedBy message.fullName).filterMap (·.ownerField?)).find?
      (·.holds foreignKey) = none := by
    refine List.find?_eq_none.mpr fun column inside => ?_
    obtain ⟨embedding, -, made⟩ := List.mem_filterMap.mp inside
    obtain ⟨_, _, _, -, rfl⟩ := Association.ownerField?_ok made
    simp [RecordField.holds]
  -- no other association keeps its key there, so the first one found is this one
  have this_one : (resolution.childrenOf message.fullName).find?
      (fun other => other.childField?.any (·.holds foreignKey)) = some association := by
    have listed := Resolution.mem_childrenOf.mpr ⟨there, target, by rw [link]; rfl⟩
    refine find?_of_unique listed (by simp [Association.childField?, link, RecordField.holds]) ?_
    intro other other_listed holds
    obtain ⟨other_there, other_child, -⟩ := Resolution.mem_childrenOf.mp other_listed
    cases made : other.childField? with
    | none => simp [made] at holds
    | some column =>
      obtain ⟨name, _, _, other_link, rfl⟩ := Association.childField?_ok made
      obtain rfl : name = foreignKey := by simpa [made, RecordField.holds] using holds
      have other_target : other.target = association.target := other_child.trans target.symm
      by_contra different
      have unused := apart.forall other_there there different association.target name
        (Association.usesChildKey_self link)
      rw [← other_target, Association.usesChildKey_self other_link] at unused
      cases unused
  unfold RecordModel.childKey?
  rw [own.fields, List.find?_append, List.find?_append, of_message, of_owner, List.find?_filterMap, this_one]
  simp [Association.childField?, link]

/-- Two foreign keys of the records of one child have two columns. -/
theorem child_columns_apart {other : String} {first second : RecordField} (different : foreignKey ≠ other)
    (one : record.childKey? foreignKey = some first) (two : record.childKey? other = some second) :
    first.column ≠ second.column := by
  intro same
  obtain rfl := List.inj_on_of_nodup_map own.columns (List.mem_of_find?_eq_some one)
    (List.mem_of_find?_eq_some two) same
  have one_holds := List.find?_some (p := fun field => RecordField.holds foreignKey field) one
  have two_holds := List.find?_some (p := fun field => RecordField.holds other field) two
  unfold RecordField.holds at one_holds two_holds
  split at one_holds <;> simp_all

/-- The key of a message is a column of its record. -/
theorem key_column (distinct : schema.NamesDistinct) (plain : schema.isPersisted uuidMessage = false)
    (keyed : schema.keys = .ok keys) (there : message ∈ schema.messages) (has : record.primaryKey = some key) :
    ∃ column ∈ record.fields, column.origin = .schema key.field ∧ column.column = key.column ∧
      column.type = key.kind.keyType := by
  obtain ⟨other, persisted, named, primary⟩ := keys_ok keyed (own.primaryKey ▸ has)
  obtain rfl := List.inj_on_of_nodup_map distinct (mem_persisted.mp persisted).1 there named
  obtain ⟨field, declared, made⟩ := Message.primaryKey_ok primary
  have role := Field.role_of_key plain made
  obtain ⟨-, -, -, -, -, name, column⟩ := Field.toKey_ok made
  refine ⟨⟨Naming.snake field.name, field.columnName, key.kind.keyType, .schema field.name⟩, ?_, ?_, ?_, rfl⟩
  · rw [own.fields, List.mem_append, List.mem_append]
    exact .inl (.inl (List.mem_filterMap.mpr ⟨field, declared, by simp [Field.stored?, role]⟩))
  · rw [name]
  · rw [column]

/-- The foreign key of a has-many association has a column in the records of the child. -/
theorem child_column {ownerKey : KeyKind} {reused : Bool} {site : AssociationField}
    (apart : resolution.associations.Pairwise Association.KeysApart)
    (there : association ∈ resolution.associations) (target : association.target = message.fullName)
    (link : association.link = .hasMany foreignKey nullable reused ownerKey)
    (child : site.target = message) (within : site.schema = schema)
    (stored : site.childKey foreignKey ownerKey = .ok (nullable, reused)) :
    ∃ column, record.childKey? foreignKey = some column ∧ column.Refers ownerKey nullable := by
  subst child within
  rcases AssociationField.childKey_ok stored with
    ⟨absent, rfl, -⟩ | ⟨existing, type, found, -, -, role, scalar, null⟩
  · exact ⟨_, own.added_column apart absent there target link, RecordField.refers rfl rfl⟩
  · exact ⟨_, own.reused_column found role, RecordField.refers scalar null⟩

end Schema.RecordOf

/-! ## The columns of a schema -/

/-- The key of a record is of a kind. -/
def RecordModel.HasKey (record : RecordModel) (kind : KeyKind) : Prop :=
  ∃ key, record.primaryKey = some key ∧ key.kind = kind

/-- The column that a has-many association uses, and the child whose column it is. -/
def Models.childColumn? (models : Models) (association : Association) : Option (String × String) :=
  match association.link with
  | .hasMany foreignKey _ _ _ => do
    let child ← models.record? association.target
    let column ← child.childKey? foreignKey
    return (association.target, column.column)
  | _ => none

theorem Models.childColumn?_ok {child column : String}
    (h : models.childColumn? association = some (child, column)) :
    association.target = child ∧ ∃ foreignKey nullable reused ownerKey record field,
      association.link = .hasMany foreignKey nullable reused ownerKey ∧ models.record? child = some record ∧
      record.childKey? foreignKey = some field ∧ field.column = column := by
  unfold childColumn? at h
  split at h
  · next foreignKey nullable reused ownerKey link =>
    obtain ⟨record, found, h⟩ := Option.bind_eq_some_iff.mp h
    obtain ⟨field, key, h⟩ := Option.bind_eq_some_iff.mp h
    cases h
    exact ⟨rfl, foreignKey, nullable, reused, ownerKey, record, field, link, found, key, rfl⟩
  · cases h

theorem Schema.RecordOf.hasKey {kind : KeyKind} {site : AssociationField}
    (own : schema.RecordOf keys resolution message record) (within : site.keys = keys)
    (found : site.keyOf message = .ok kind) : record.HasKey kind := by
  subst within
  obtain ⟨key, there, same⟩ := AssociationField.keyOf_ok found
  exact ⟨key, own.primaryKey.trans there, same⟩

/-- No two has-many associations use one column of one child. -/
theorem Schema.childColumns_nodup (distinct : schema.NamesDistinct) (h : schema.models = .ok models) :
    (models.resolution.associations.filterMap models.childColumn?).Nodup := by
  obtain ⟨keys, -, associated, -, built⟩ := models_ok h
  refine List.pairwise_filterMap.mpr (associated.apart.imp_of_mem ?_)
  rintro first second there - apart ⟨child, column⟩ one ⟨_, _⟩ two same
  cases same
  obtain ⟨first_target, firstKey, _, _, _, record, field, first_link, found, first_key, first_column⟩ :=
    Models.childColumn?_ok one
  obtain ⟨second_target, secondKey, _, _, _, record', field', second_link, found', second_key, second_column⟩ :=
    Models.childColumn?_ok two
  obtain rfl : record = record' := Option.some.inj (found.symm.trans found')
  have different : firstKey ≠ secondKey := by
    rintro rfl
    have unused := apart second.target firstKey (Association.usesChildKey_self second_link)
    rw [second_target, ← first_target, Association.usesChildKey_self first_link] at unused
    cases unused
  obtain ⟨message, persisted, named⟩ := List.mem_map.mp (associated.persisted there).2
  obtain ⟨own_record, own_found, own⟩ := record?_ok distinct h persisted built
  obtain rfl : own_record = record := by
    rw [named, first_target, found] at own_found
    exact (Option.some.inj own_found).symm
  exact own.child_columns_apart different first_key second_key (first_column.trans second_column.symm)

/-- **The columns of keys.** In the models of a schema every record with a key has a column for it, every owner
of an embedded message has one field for its foreign key, and the operations find the foreign key of every
has-many association in the records of the children; no two such associations use one column of one child. All
columns have the types the operations assume. -/
theorem Schema.keyColumns (distinct : schema.NamesDistinct) (plain : schema.isPersisted uuidMessage = false)
    (h : schema.models = .ok models) :
    (∀ record ∈ models.records, ∀ key, record.primaryKey = some key →
      ∃ column ∈ record.fields, column.origin = .schema key.field ∧ column.column = key.column ∧
        column.type = key.kind.keyType) ∧
    (∀ association ∈ models.resolution.associations, ∀ foreignKey nullable targetKey,
      association.link = .embeddedOne foreignKey nullable targetKey →
      ∃ owner target, models.record? association.owner = some owner ∧
        models.record? association.target = some target ∧ target.HasKey targetKey ∧
        ∃ column ∈ owner.fields, column.name = foreignKey ∧
          column.type = targetKey.foreignKeyType nullable ∧ column.Refers targetKey nullable ∧
          ∀ other ∈ owner.fields, other.name = foreignKey → other = column) ∧
    (∀ association ∈ models.resolution.associations, ∀ foreignKey nullable reused ownerKey,
      association.link = .hasMany foreignKey nullable reused ownerKey →
      ∃ owner child, models.record? association.owner = some owner ∧
        models.record? association.target = some child ∧ owner.HasKey ownerKey ∧
        ∃ column, child.childKey? foreignKey = some column ∧ column.Refers ownerKey nullable ∧
          Emit.childKey child foreignKey = do return (← column.ident, column.column)) ∧
    (models.resolution.associations.filterMap models.childColumn?).Nodup := by
  obtain ⟨keys, keyed, associated, -, built⟩ := models_ok h
  refine ⟨fun record there key has => ?_, ?_, ?_, childColumns_nodup distinct h⟩
  · obtain ⟨message, listed, own⟩ := built.exists_left there
    obtain ⟨name, -, found⟩ := List.mem_filterMap.mp listed
    exact own.key_column distinct plain keyed (message?_ok found).1 has
  · intro association there foreignKey nullable targetKey link
    obtain ⟨site, site_there, owned, -, targeted, linked⟩ := associated.resolved.exists_left there
    obtain ⟨-, of_keys, persisted, -, target_persisted⟩ := site_ok site_there
    obtain ⟨owner, owner_found, own⟩ := record?_ok distinct h persisted built
    obtain ⟨target, target_found, target_own⟩ := record?_ok distinct h target_persisted built
    rw [link] at linked
    cases linked with
    | embeddedOne _ key free =>
      have no_field : ∀ field ∈ site.owner.fields, Naming.snake field.name ≠ foreignKey := by
        intro field declared named
        simpa [named] using List.any_eq_false.mp free field declared
      obtain ⟨column, inside, named, type, unique⟩ := own.embedded_column there owned link no_field
      exact ⟨owner, target, owned ▸ owner_found, targeted ▸ target_found, target_own.hasKey of_keys key,
        column, inside, named, type, RecordField.refers (by rw [type]) (by rw [type]), unique⟩
  · intro association there foreignKey nullable reused ownerKey link
    obtain ⟨site, site_there, owned, -, targeted, linked⟩ := associated.resolved.exists_left there
    obtain ⟨within, of_keys, persisted, -, target_persisted⟩ := site_ok site_there
    obtain ⟨owner, owner_found, own⟩ := record?_ok distinct h persisted built
    obtain ⟨child, child_found, child_own⟩ := record?_ok distinct h target_persisted built
    rw [link] at linked
    cases linked with
    | hasMany _ key stored =>
      obtain ⟨column, found, refers⟩ :=
        child_own.child_column associated.apart there targeted link rfl within stored
      exact ⟨owner, child, owned ▸ owner_found, targeted ▸ child_found, own.hasKey of_keys key,
        column, found, refers, Emit.childKey_of_found found⟩

theorem Schema.keyColumns_blog :
    ∃ models, blog.models = .ok models ∧
      (∀ record ∈ models.records, ∀ key, record.primaryKey = some key →
        ∃ column ∈ record.fields, column.origin = .schema key.field ∧ column.column = key.column ∧
          column.type = key.kind.keyType) ∧
      models.resolution.associations.filterMap models.childColumn? =
        [("blog.Comment", "post_id"), ("blog.Post", "author_id")] ∧
      [("blog.Comment", "post_id"), ("blog.Post", "author_id")].Nodup := by
  obtain ⟨models, built⟩ := blog_models
  obtain ⟨keyed, -, -, apart⟩ :=
    keyColumns (by decide +kernel : blog.NamesDistinct) (by decide +kernel) built
  have used : blog.models.toOption.map (fun models => models.resolution.associations.filterMap models.childColumn?) =
      some [("blog.Comment", "post_id"), ("blog.Post", "author_id")] := by decide +kernel
  rw [built] at used
  have used := Option.some.inj used
  exact ⟨models, built, keyed, used, used ▸ apart⟩

end ProtoStore
