import ProtoStore.Proofs.Schema.Order
import ProtoStore.Proofs.Schema.Resolution

/-!
# The records of a schema

* `Schema.recordOf_ok` : the fields of a record, none with the column of another;
* `Schema.models_ok` : what is built for a whole schema;
* `Schema.models_order` : the order of a resolution lists the persisted messages;
* `Schema.record?_ok` : every persisted message has its record.
-/

namespace ProtoStore

variable {schema : Schema} {keys : Keys} {message : Message} {field : Field} {record : RecordModel}
  {resolution : Resolution} {models : Models}

/-! ## One record -/

/-- The record field of a field that has a column. -/
def Field.stored? (schema : Schema) (message : Message) (field : Field) : Option RecordField :=
  match field.role schema message with
  | .ok (.column type) => some ⟨Naming.snake field.name, field.columnName, type, .schema field.name⟩
  | _ => none

theorem Field.recordField?_ok {column : Option RecordField}
    (h : field.recordField? schema message = .ok column) :
    (∃ role, field.role schema message = .ok role) ∧ column = field.stored? schema message := by
  unfold recordField? at h
  obtain ⟨role, found, h⟩ := Except.bind_eq_ok.mp h
  refine ⟨⟨role, found⟩, ?_⟩
  unfold stored?
  rw [found]
  cases role <;> cases h <;> rfl

theorem Field.stored?_ok {column : RecordField} (h : field.stored? schema message = some column) :
    ∃ type, field.role schema message = .ok (.column type) ∧
      column = ⟨Naming.snake field.name, field.columnName, type, .schema field.name⟩ := by
  unfold stored? at h
  split at h
  · next type role => exact ⟨type, role, (Option.some.inj h).symm⟩
  · cases h

theorem Resolution.mem_ownedBy {association : Association} {owner : String} :
    association ∈ resolution.ownedBy owner ↔
      association ∈ resolution.associations ∧ association.owner = owner := by
  simp [ownedBy]

theorem Resolution.mem_childrenOf {association : Association} {child : String} :
    association ∈ resolution.childrenOf child ↔
      association ∈ resolution.associations ∧ association.target = child ∧ association.link.kind = .hasMany := by
  simp [childrenOf]

theorem Association.ownerField?_ok {association : Association} {column : RecordField}
    (h : association.ownerField? = some column) :
    ∃ foreignKey nullable targetKey, association.link = .embeddedOne foreignKey nullable targetKey ∧
      column = ⟨foreignKey, foreignKey, targetKey.foreignKeyType nullable, .foreignKey association.field⟩ := by
  unfold ownerField? at h
  split at h
  · next foreignKey nullable targetKey link =>
    exact ⟨foreignKey, nullable, targetKey, link, (Option.some.inj h).symm⟩
  · cases h

theorem Association.childField?_ok {association : Association} {column : RecordField}
    (h : association.childField? = some column) :
    ∃ foreignKey nullable ownerKey, association.link = .hasMany foreignKey nullable false ownerKey ∧
      column = ⟨foreignKey, foreignKey, ownerKey.foreignKeyType nullable,
        .backReference association.owner association.field⟩ := by
  unfold childField? at h
  split at h
  · next foreignKey nullable ownerKey link =>
    exact ⟨foreignKey, nullable, ownerKey, link, (Option.some.inj h).symm⟩
  · cases h

theorem firstRepeated?_none {seen texts : List String} (h : firstRepeated? seen texts = none) :
    texts.Nodup ∧ ∀ text ∈ texts, text ∉ seen := by
  induction texts generalizing seen with
  | nil => simp
  | cons text rest ih =>
    unfold firstRepeated? at h
    split at h
    · cases h
    · next fresh =>
      obtain ⟨distinct, apart⟩ := ih h
      have unseen : text ∉ seen := by simpa using fresh
      refine ⟨List.nodup_cons.mpr ⟨fun again => apart text again List.mem_cons_self, distinct⟩, ?_⟩
      intro other there
      rcases List.mem_cons.mp there with rfl | later
      · exact unseen
      · exact fun before => apart other later (List.mem_cons_of_mem _ before)

/-- What the record of a message consists of. -/
structure Schema.RecordOf (schema : Schema) (keys : Keys) (resolution : Resolution) (message : Message)
    (record : RecordModel) : Prop where
  named : record.message = message.fullName
  primaryKey : record.primaryKey = keys.find? message.fullName
  roles : ∀ field ∈ message.fields, ∃ role, field.role schema message = .ok role
  fields : record.fields = message.fields.filterMap (·.stored? schema message)
    ++ (resolution.ownedBy message.fullName).filterMap (·.ownerField?)
    ++ (resolution.childrenOf message.fullName).filterMap (·.childField?)
  columns : (record.fields.map (·.column)).Nodup

theorem Schema.recordOf_ok (h : schema.recordOf keys resolution message = .ok record) :
    schema.RecordOf keys resolution message record := by
  unfold recordOf at h
  obtain ⟨columns, mapped, h⟩ := Except.bind_eq_ok.mp h
  have each := (List.mapM_ok mapped).imp fun _ _ => Field.recordField?_ok
  have stored : columns = message.fields.map (·.stored? schema message) := by
    rw [← List.forall₂_eq_eq_eq, List.forall₂_map_right_iff]
    exact (each.imp fun _ _ both => both.2).flip
  dsimp only at h
  split at h
  · cases h
  · next distinct =>
    cases h
    refine ⟨rfl, rfl, fun field there => ?_, ?_, (firstRepeated?_none distinct).1⟩
    · obtain ⟨-, -, role, -⟩ := each.exists_right there
      exact role
    · simp [stored, List.filterMap_map]

namespace Schema.RecordOf

variable {association : Association} {foreignKey : String} {nullable : Bool}
  (own : schema.RecordOf keys resolution message record) (there : association ∈ resolution.associations)
include own there

/-- The record of an owner has the foreign key of a message it embeds. -/
theorem foreignKey_mem {targetKey : KeyKind} (owned : association.owner = message.fullName)
    (link : association.link = .embeddedOne foreignKey nullable targetKey) :
    ⟨foreignKey, foreignKey, targetKey.foreignKeyType nullable, .foreignKey association.field⟩ ∈ record.fields := by
  have listed := Resolution.mem_ownedBy.mpr ⟨there, owned⟩
  rw [own.fields, List.mem_append, List.mem_append]
  exact .inl (.inr (List.mem_filterMap.mpr ⟨association, listed, by simp [Association.ownerField?, link]⟩))

/-- The record of a child has the foreign key of its owner, unless the child declares it. -/
theorem backReference_mem {ownerKey : KeyKind} (target : association.target = message.fullName)
    (link : association.link = .hasMany foreignKey nullable false ownerKey) :
    ⟨foreignKey, foreignKey, ownerKey.foreignKeyType nullable,
      .backReference association.owner association.field⟩ ∈ record.fields := by
  have listed := Resolution.mem_childrenOf.mpr ⟨there, target, by rw [link]; rfl⟩
  rw [own.fields, List.mem_append]
  exact .inr (List.mem_filterMap.mpr ⟨association, listed, by simp [Association.childField?, link]⟩)

end Schema.RecordOf

/-! ## All records -/

theorem Schema.models_built (h : schema.models = .ok models) :
    ∃ keys, schema.keys = .ok keys ∧ schema.resolve keys = .ok models.resolution ∧
      List.Forall₂ (fun message record => schema.recordOf keys models.resolution message = .ok record)
        (models.resolution.order.filterMap schema.message?) models.records := by
  unfold Schema.models at h
  obtain ⟨keys, keyed, h⟩ := Except.bind_eq_ok.mp h
  obtain ⟨resolution, resolved, h⟩ := Except.bind_eq_ok.mp h
  obtain ⟨records, built, h⟩ := Except.bind_eq_ok.mp h
  cases h
  exact ⟨keys, keyed, resolved, List.mapM_ok built⟩

theorem Schema.models_ok (h : schema.models = .ok models) :
    ∃ keys, schema.keys = .ok keys ∧ schema.Associated keys models.resolution.associations ∧
      (schema.graph models.resolution.associations).order = .ok models.resolution.order ∧
      List.Forall₂ (schema.RecordOf keys models.resolution)
        (models.resolution.order.filterMap schema.message?) models.records := by
  obtain ⟨keys, keyed, resolved, built⟩ := models_built h
  obtain ⟨associated, ordered⟩ := resolve_ok resolved
  exact ⟨keys, keyed, associated, ordered, built.imp fun _ _ => recordOf_ok⟩

/-- The order of a resolution lists the persisted messages, each once. -/
theorem Schema.models_order (h : schema.models = .ok models) :
    models.resolution.order.Perm (schema.persisted.map (·.fullName)) := by
  obtain ⟨keys, -, -, ordered, -⟩ := models_ok h
  exact Graph.order_perm ordered

theorem Schema.record?_ok (distinct : schema.NamesDistinct) (h : schema.models = .ok models)
    (persisted : message ∈ schema.persisted) {keys : Keys}
    (built : List.Forall₂ (schema.RecordOf keys models.resolution)
      (models.resolution.order.filterMap schema.message?) models.records) :
    ∃ record, models.record? message.fullName = some record ∧
      schema.RecordOf keys models.resolution message record := by
  have there := (mem_persisted.mp persisted).1
  have listed : message.fullName ∈ models.resolution.order :=
    (models_order h).mem_iff.mpr (List.mem_map_of_mem persisted)
  have inside : message ∈ models.resolution.order.filterMap schema.message? :=
    List.mem_filterMap.mpr ⟨_, listed, message?_of_mem distinct there⟩
  obtain ⟨own, own_there, own_built⟩ := built.exists_right inside
  obtain ⟨record, found⟩ : ∃ record, models.record? message.fullName = some record :=
    Option.isSome_iff_exists.mp
      (List.find?_isSome.mpr ⟨own, own_there, by simpa using own_built.named⟩)
  refine ⟨record, found, ?_⟩
  -- the record found is that of a message with the same name, and so of this message
  have named : record.message = message.fullName := by simpa using List.find?_some found
  obtain ⟨other, other_there, other_built⟩ := built.exists_left (List.mem_of_find?_eq_some found)
  obtain ⟨name, -, other_found⟩ := List.mem_filterMap.mp other_there
  have same : other.fullName = message.fullName := other_built.named.symm.trans named
  rwa [← List.inj_on_of_nodup_map distinct (message?_ok other_found).1 there same]

end ProtoStore
