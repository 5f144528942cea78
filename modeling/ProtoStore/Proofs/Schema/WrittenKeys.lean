import ProtoStore.Proofs.Code.Ident
import ProtoStore.Proofs.Schema.Joins
import ProtoStore.Proofs.Schema.KeyColumns

/-!
# The keys that associations write

An association keeps keys of rows in columns of its own, which the code of the messages on its sides writes.

* `Schema.writtenKeys` : these columns, each with the message whose code writes it, read off the declarations;
* `Schema.CanWrite` : whether that code can write the column;
* `AssociationField.written_of_resolve`, `Schema.written_eq` : those of the associations of a schema are these;
* `Schema.record?_built` : the record that is found for a message is the one built for it;
* `RecordOf.child_key` : the field in which a child keeps the key of its owner.
-/

namespace ProtoStore

variable {schema : Schema} {keys : Keys} {owner message : Message} {field : Field} {models : Models}
  {resolution : Resolution} {record : RecordModel} {association : Association}

/-! ## Declarations -/

namespace Field

/-- The foreign key in which the owner of the field refers to the message it embeds. -/
def ownerKeyName (field : Field) : String :=
  (field.association.bind (·.foreignKey)).getD (Naming.snake field.name ++ "_id")

/-- The keys that a field has written, each with the message whose code writes it. A key that a child declares is
a column of its own. -/
def writtenKeys (schema : Schema) (owner : Message) (field : Field) : List (String × String) :=
  match (field.target? schema).bind schema.message? with
  | none => []
  | some target =>
    match field.associationKind with
    | .embeddedOne => [(owner.fullName, field.ownerKeyName)]
    | .hasMany =>
      let key := field.childKeyName owner
      if (target.field? key).isSome then [] else [(owner.fullName, key), (target.fullName, key)]
    | .manyToMany => [(owner.fullName, field.childKeyName owner), (owner.fullName, field.targetKeyName owner target)]

end Field

/-- The keys that a schema has written, each with the message whose code writes it. -/
def Schema.writtenKeys (schema : Schema) : List (String × String) :=
  schema.persistedFields.flatMap fun entry => entry.2.writtenKeys schema entry.1

/-- Whether rows of the message of this name are stored under a key. -/
def Schema.HasKey (schema : Schema) (name : String) : Prop :=
  ∃ keys key, schema.keys = .ok keys ∧ keys.find? name = some key

/-- Whether the code of a message can write a key: a struct can declare it and, where the message has a key of its
own, it names a field that can be selected. -/
def Schema.CanWrite (schema : Schema) (entry : String × String) : Prop :=
  Ident.Declares entry.2 ∧ (schema.HasKey entry.1 → Ident.Names entry.2)

theorem Schema.canWrite_of_names {entry : String × String} (names : Ident.Names entry.2) : schema.CanWrite entry :=
  ⟨names.declares, fun _ => names⟩

/-! ## Associations -/

/-- The keys that an association writes, each with the message whose code writes it. -/
def Association.writtenKeys (association : Association) : List (String × String) :=
  match association.link with
  | .embeddedOne key _ _ => [(association.owner, key)]
  | .hasMany key _ reused _ => if reused then [] else [(association.owner, key), (association.target, key)]
  | .manyToMany join => [(association.owner, join.ownerColumn), (association.owner, join.targetColumn)]

namespace AssociationField

variable {site : AssociationField} {earlier : List Association}

theorem Linked.stored {foreignKey : String} {nullable reused : Bool} {ownerKey : KeyKind}
    (h : site.Linked (.hasMany foreignKey nullable reused ownerKey)) :
    site.childKey foreignKey ownerKey = .ok (nullable, reused) := by
  cases h with
  | hasMany _ _ stored => exact stored

theorem embeddedOne_key {targetKey : KeyKind} {link : Link} (h : site.embeddedOne targetKey = .ok link) :
    ∃ nullable, link = .embeddedOne site.field.ownerKeyName nullable targetKey := by
  unfold embeddedOne contradictory at h
  dsimp only at h
  split at h
  · cases h
  split at h
  · cases h
  split at h
  · cases h
  split at h
  · cases h
  · cases h
    exact ⟨_, rfl⟩

theorem embedded_of_resolve {foreignKey : String} {nullable : Bool} {targetKey : KeyKind}
    (h : site.resolve earlier = .ok association)
    (link : association.link = .embeddedOne foreignKey nullable targetKey) :
    foreignKey = site.field.ownerKeyName := by
  have kind := (resolve_ok h).1.linked.kind
  rw [link] at kind
  obtain ⟨targetKey, made, -, rfl, ⟨-, linked⟩ | ⟨ownerKey, -, ⟨other, -⟩ | ⟨other, -⟩⟩⟩ := resolve_eq_ok h
  · obtain ⟨nullable, rfl⟩ := embeddedOne_key linked
    cases link
    rfl
  · cases kind.trans other
  · cases kind.trans other

/-- The target of an association has a key. -/
theorem targetKey_of_resolve (h : site.resolve earlier = .ok association) :
    ∃ key, site.keys.find? site.target.fullName = some key := by
  obtain ⟨targetKey, -, target_key, -⟩ := resolve_eq_ok h
  obtain ⟨key, found, -⟩ := keyOf_ok target_key
  exact ⟨key, found⟩

/-- The owner has one, too, unless it only refers to the target. -/
theorem ownerKey_of_resolve (h : site.resolve earlier = .ok association)
    (several : association.link.kind ≠ .embeddedOne) : ∃ key, site.keys.find? site.owner.fullName = some key := by
  have kind := (resolve_ok h).1.linked.kind
  obtain ⟨targetKey, made, -, -, ⟨other, -⟩ | ⟨ownerKey, owner_key, -⟩⟩ := resolve_eq_ok h
  · exact absurd (kind.trans other) several
  · obtain ⟨key, found, -⟩ := keyOf_ok owner_key
    exact ⟨key, found⟩

/-- The keys an association writes are those its field has written. -/
theorem written_of_resolve (there : site ∈ schema.sites keys) (h : site.resolve earlier = .ok association) :
    association.writtenKeys = site.field.writtenKeys schema site.owner := by
  obtain ⟨owner, -, field, -, found⟩ := mem_sites.mp there
  obtain ⟨target, held, rfl⟩ := Option.map_eq_some_iff.mp found
  have resolved := (resolve_ok h).1
  have linked := resolved.linked
  have kind := linked.kind
  unfold Association.writtenKeys Field.writtenKeys
  rw [held]
  cases link : association.link with
  | embeddedOne foreignKey nullable targetKey =>
    rw [link] at kind
    simp only [← show AssociationKind.embeddedOne = field.associationKind from kind]
    rw [resolved.owner, embedded_of_resolve h link]
  | hasMany foreignKey nullable reused ownerKey =>
    rw [link] at kind linked
    simp only [← show AssociationKind.hasMany = field.associationKind from kind]
    cases linked with
    | hasMany _ _ stored =>
      rcases childKey_ok stored with ⟨absent, rfl, -⟩ | ⟨existing, type, found, rfl, -⟩
      · simp [resolved.owner, resolved.target, absent]
      · simp [found]
  | manyToMany join =>
    rw [link] at kind
    simp only [← show AssociationKind.manyToMany = field.associationKind from kind]
    have joins := joins_of_resolve h link
    rw [resolved.owner, joins.ownerColumn, joins.targetColumn]

end AssociationField

/-- The keys that the associations of a schema write are those it has written. -/
theorem Schema.written_eq (h : schema.resolve keys = .ok resolution) :
    resolution.associations.flatMap (·.writtenKeys) = schema.writtenKeys := by
  have each := resolve_each h
  have same : resolution.associations.map (·.writtenKeys) =
      (schema.sites keys).map fun site => site.field.writtenKeys schema site.owner := by
    rw [← List.forall₂_eq_eq_eq, List.forall₂_map_left_iff, List.forall₂_map_right_iff]
    refine List.forall₂_iff_get.mpr ⟨each.length_eq.symm, fun i inside there => ?_⟩
    obtain ⟨earlier, resolved⟩ := each.get there inside
    exact AssociationField.written_of_resolve (List.getElem_mem there) resolved
  rw [List.flatMap_def, same, ← List.flatMap_def, sites, writtenKeys, List.filterMap_eq_flatMap_toList,
    List.flatMap_assoc]
  refine List.flatMap_congr fun entry _ => ?_
  unfold Field.site?
  cases held : (entry.2.target? schema).bind schema.message? with
  | none => simp [Field.writtenKeys, held]
  | some target => simp

theorem message?_of_site {site : AssociationField} (h : site ∈ schema.sites keys) :
    schema.message? site.target.fullName = some site.target := by
  obtain ⟨owner, -, field, -, found⟩ := mem_sites.mp h
  obtain ⟨target, held, rfl⟩ := Option.map_eq_some_iff.mp found
  obtain ⟨name, -, found⟩ := Option.bind_eq_some_iff.mp held
  rw [(Schema.message?_ok found).2, found]

/-! ## Records -/

/-- The record that is found for a message is the one built for it. -/
theorem Schema.record?_built (h : schema.models = .ok models) {name : String}
    (found : models.record? name = some record) : ∃ keys message, schema.keys = .ok keys ∧
      schema.resolve keys = .ok models.resolution ∧ schema.message? name = some message ∧
      schema.recordOf keys models.resolution message = .ok record := by
  obtain ⟨keys, keyed, resolved, built⟩ := models_built h
  obtain ⟨message, listed, made⟩ := built.exists_left (List.mem_of_find?_eq_some found)
  obtain ⟨own, -, own_found⟩ := List.mem_filterMap.mp listed
  have named : record.message = name := by simpa using List.find?_some found
  obtain rfl : own = name := (message?_ok own_found).2.symm.trans ((recordOf_ok made).named.symm.trans named)
  exact ⟨keys, message, keyed, resolved, own_found, made⟩

/-- Every persisted message has a record. -/
theorem Schema.exists_record (h : schema.models = .ok models) (persisted : message ∈ schema.persisted) :
    ∃ record, models.record? message.fullName = some record := by
  obtain ⟨keys, -, -, built⟩ := models_built h
  have listed : message.fullName ∈ models.resolution.order :=
    (models_order h).mem_iff.mpr (List.mem_map_of_mem persisted)
  obtain ⟨own, own_found⟩ : ∃ own, schema.message? message.fullName = some own :=
    Option.isSome_iff_exists.mp (List.find?_isSome.mpr ⟨message, (mem_persisted.mp persisted).1, by simp⟩)
  obtain ⟨record, inside, made⟩ := built.exists_right (List.mem_filterMap.mpr ⟨_, listed, own_found⟩)
  refine Option.isSome_iff_exists.mp (List.find?_isSome.mpr ⟨record, inside, ?_⟩)
  rw [(recordOf_ok made).named, (message?_ok own_found).2]
  exact beq_self_eq_true _

/-- The field in which the record of a child keeps the key of its owner, and whose name it has. -/
theorem Schema.RecordOf.child_key (own : schema.RecordOf keys resolution message record)
    (associated : schema.Associated keys resolution.associations) {site : AssociationField}
    (there : site ∈ schema.sites keys) (target : site.target = message) (inside : association ∈ resolution.associations)
    (resolved : site.Resolved association) {foreignKey : String} {nullable reused : Bool} {ownerKey : KeyKind}
    (link : association.link = .hasMany foreignKey nullable reused ownerKey) :
    ∃ column, record.childKey? foreignKey = some column ∧
      (reused = false ∧ column.name = foreignKey ∨
        reused = true ∧ ∃ field ∈ message.fields, column.name = Naming.snake field.name) := by
  subst target
  obtain ⟨within, -⟩ := site_ok there
  rcases AssociationField.childKey_ok (link ▸ resolved.linked).stored with
    ⟨absent, rfl, -⟩ | ⟨existing, type, found, rfl, -, role, -⟩
  · exact ⟨_, own.added_column associated.apart absent inside resolved.target link, .inl ⟨rfl, rfl⟩⟩
  · rw [within] at role
    exact ⟨_, own.reused_column found role, .inr ⟨rfl, existing, List.mem_of_find?_eq_some found, by dsimp only⟩⟩

end ProtoStore
