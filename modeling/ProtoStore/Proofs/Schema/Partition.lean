import ProtoStore.Proofs.Schema.Dependencies

/-!
# What becomes of the fields of a schema

`Field.role` decides which fields have columns, `Schema.resolve` which are associations; they agree.

* `sites_of_owner`, `ownedBy_resolved` : the associations of one message come from its fields, in order;
* `ownedBy_fields` : these are the fields whose role is that of an association;
* `filterMap_ownerField`, `filterMap_childField` : the foreign keys that associations add to records;
* `fieldsPartition` : each field of a message is either an association, a column of the record, or dropped, and
  the rest of the record are foreign keys.
-/

namespace ProtoStore

variable {schema : Schema} {keys : Keys} {message : Message} {field : Field} {models : Models}
  {resolution : Resolution}

/-! ## Origins -/

/-- The name of a field and the message it is associated with, for a field that is an association. -/
def Field.associated? (schema : Schema) (message : Message) (field : Field) : Option (String × String) :=
  match field.role schema message with
  | .ok (.association target) => some (field.name, target)
  | _ => none

/-- The embedded message whose key a record field is. -/
def RecordField.embedded? (field : RecordField) : Option String :=
  match field.origin with
  | .foreignKey association => some association
  | _ => none

/-- The owner and the association whose back reference a record field is. -/
def RecordField.backReference? (field : RecordField) : Option (String × String) :=
  match field.origin with
  | .backReference owner association => some (owner, association)
  | _ => none

/-- Whether the foreign key of a has-many association gets a field of its own in the records of children. -/
def Association.addsChildKey (association : Association) : Bool :=
  match association.link with
  | .hasMany _ _ reused _ => !reused
  | _ => false

theorem Field.associated?_eq : field.associated? schema message =
    (field.target? schema).map fun target => (field.name, target) := by
  unfold associated?
  split
  · next target role =>
    rw [role_association.mp role]
    rfl
  · next other =>
    cases target : field.target? schema with
    | none => rfl
    | some name => exact absurd (role_association.mpr target) (other name)

theorem Field.origin_of_stored {column : RecordField}
    (h : column ∈ message.fields.filterMap (·.stored? schema message)) :
    ∃ name, column.origin = .schema name := by
  obtain ⟨field, -, h⟩ := List.mem_filterMap.mp h
  obtain ⟨type, -, rfl⟩ := stored?_ok h
  exact ⟨field.name, rfl⟩

theorem Association.origin_of_ownerField {associations : List Association} {column : RecordField}
    (h : column ∈ associations.filterMap (·.ownerField?)) : ∃ name, column.origin = .foreignKey name := by
  obtain ⟨association, -, h⟩ := List.mem_filterMap.mp h
  obtain ⟨foreignKey, nullable, targetKey, -, rfl⟩ := ownerField?_ok h
  exact ⟨association.field, rfl⟩

theorem Association.origin_of_childField {associations : List Association} {column : RecordField}
    (h : column ∈ associations.filterMap (·.childField?)) :
    ∃ owner name, column.origin = .backReference owner name := by
  obtain ⟨association, -, h⟩ := List.mem_filterMap.mp h
  obtain ⟨foreignKey, nullable, ownerKey, -, rfl⟩ := childField?_ok h
  exact ⟨association.owner, association.field, rfl⟩

/-! ## The associations of one message -/

theorem flatMap_of_distinct {α β κ : Type} {key : α → κ} {f : α → List β} {a : α} {l : List α}
    (distinct : (l.map key).Nodup) (there : a ∈ l) (others : ∀ b, key b ≠ key a → f b = []) :
    l.flatMap f = f a := by
  induction l with
  | nil => cases there
  | cons b l ih =>
    obtain ⟨apart, distinct⟩ := List.nodup_cons.mp distinct
    rw [List.flatMap_cons]
    rcases List.mem_cons.mp there with rfl | there
    · have rest : l.flatMap f = [] := by
        refine List.flatMap_eq_nil_iff.mpr fun b inside => others b fun same => apart ?_
        exact same ▸ List.mem_map_of_mem inside
      rw [rest, List.append_nil]
    · have other : key b ≠ key a := fun same => apart (same ▸ List.mem_map_of_mem there)
      rw [others b other, List.nil_append, ih distinct there]

namespace Schema

theorem sites_of_owner (distinct : schema.NamesDistinct) (persisted : message ∈ schema.persisted) :
    (schema.sites keys).filter (·.owner.fullName == message.fullName) =
      message.fields.filterMap (·.site? schema keys message) := by
  have owner {other : Message} {field : Field} {site : AssociationField}
      (h : field.site? schema keys other = some site) : site.owner = other := by
    obtain ⟨target, -, rfl⟩ := Option.map_eq_some_iff.mp h
    rfl
  unfold sites persistedFields
  simp only [List.filterMap_flatMap, List.filterMap_map, List.filter_flatMap, List.filter_filterMap]
  refine (flatMap_of_distinct distinct.persisted persisted fun other different => ?_).trans ?_
  · refine List.filterMap_eq_nil_iff.mpr fun field _ => Option.filter_eq_none_iff.mpr fun site found => ?_
    rw [owner found]
    simpa using different
  · refine List.filterMap_congr fun field _ => ?_
    show (field.site? schema keys message).filter _ = field.site? schema keys message
    cases found : field.site? schema keys message with
    | none => rfl
    | some site => simp [owner found]

/-- The associations a message owns come from its fields, in order of declaration. -/
theorem ownedBy_resolved (distinct : schema.NamesDistinct) (persisted : message ∈ schema.persisted)
    (h : schema.Associated keys resolution.associations) :
    List.Forall₂ AssociationField.Resolved (message.fields.filterMap (·.site? schema keys message))
      (resolution.ownedBy message.fullName) := by
  rw [← sites_of_owner distinct persisted]
  refine List.rel_filter (fun site association resolved => ?_) h.resolved
  show _ == _ ↔ _ == _
  rw [resolved.owner]

/-- The associations a message owns are its fields with the role of an association. -/
theorem ownedBy_fields (distinct : schema.NamesDistinct) (persisted : message ∈ schema.persisted)
    (h : schema.Associated keys resolution.associations) :
    (resolution.ownedBy message.fullName).map (fun association => (association.field, association.target)) =
      message.fields.filterMap (·.associated? schema message) := by
  have sites : message.fields.filterMap (·.associated? schema message) =
      (message.fields.filterMap (·.site? schema keys message)).map
        fun site => (site.field.name, site.target.fullName) := by
    rw [List.map_filterMap]
    refine List.filterMap_congr fun field _ => ?_
    rw [Field.associated?_eq]
    unfold Field.site?
    cases holds : field.target? schema with
    | none => rfl
    | some name =>
      obtain ⟨target, found, -, named⟩ := isPersisted_ok (Field.target?_persisted holds)
      simp [found, named]
  rw [sites, eq_comm, ← List.forall₂_eq_eq_eq, List.forall₂_map_left_iff, List.forall₂_map_right_iff]
  exact (ownedBy_resolved distinct persisted h).imp fun site association resolved => by
    rw [resolved.field, resolved.target]

end Schema

/-! ## Foreign keys -/

theorem filterMap_ownerField (associations : List Association) :
    (associations.filterMap (·.ownerField?)).filterMap (·.embedded?) =
      (associations.filter (·.link.kind == .embeddedOne)).map (·.field) := by
  rw [List.filterMap_filterMap, ← List.filterMap_eq_filter, List.map_filterMap]
  refine List.filterMap_congr fun association _ => ?_
  cases link : association.link <;>
    simp [Association.ownerField?, RecordField.embedded?, Link.kind, link]

theorem filterMap_childField (resolution : Resolution) (child : String) :
    ((resolution.childrenOf child).filterMap (·.childField?)).filterMap (·.backReference?) =
      (resolution.associations.filter fun association =>
        association.target == child && association.addsChildKey).map fun association =>
          (association.owner, association.field) := by
  unfold Resolution.childrenOf
  rw [List.filterMap_filterMap, ← List.filterMap_eq_filter, ← List.filterMap_eq_filter,
    List.filterMap_filterMap, List.map_filterMap]
  refine List.filterMap_congr fun association _ => ?_
  by_cases target : association.target = child
  · cases link : association.link with
    | hasMany foreignKey nullable reused ownerKey =>
      cases reused <;>
        simp [Association.childField?, RecordField.backReference?, Association.addsChildKey, Link.kind,
          Option.guard, link, target]
    | embeddedOne | manyToMany =>
      simp [Association.addsChildKey, Link.kind, Option.guard, link, target]
  · simp [Option.guard, target]

/-! ## The parts of a record -/

namespace Schema.RecordOf

variable {record : RecordModel} (own : schema.RecordOf keys resolution message record)
include own

/-- The fields of a record that come from the message are its columns, in order of declaration. -/
theorem schema_fields : record.fields.filter (·.schemaField?.isSome) =
    message.fields.filterMap (·.stored? schema message) := by
  rw [own.fields, List.filter_append, List.filter_append, List.filter_eq_self.mpr,
    List.filter_eq_nil_iff.mpr, List.filter_eq_nil_iff.mpr, List.append_nil, List.append_nil]
  · intro column there
    obtain ⟨owner, name, origin⟩ := Association.origin_of_childField there
    simp [RecordField.schemaField?, origin]
  · intro column there
    obtain ⟨name, origin⟩ := Association.origin_of_ownerField there
    simp [RecordField.schemaField?, origin]
  · intro column there
    obtain ⟨name, origin⟩ := Field.origin_of_stored there
    simp [RecordField.schemaField?, origin]

theorem embedded_fields : record.fields.filterMap (·.embedded?) =
    ((resolution.ownedBy message.fullName).filter (·.link.kind == .embeddedOne)).map (·.field) := by
  rw [own.fields, List.filterMap_append, List.filterMap_append, filterMap_ownerField,
    List.filterMap_eq_nil_iff.mpr, List.filterMap_eq_nil_iff.mpr, List.append_nil, List.nil_append]
  · intro column there
    obtain ⟨owner, name, origin⟩ := Association.origin_of_childField there
    simp [RecordField.embedded?, origin]
  · intro column there
    obtain ⟨name, origin⟩ := Field.origin_of_stored there
    simp [RecordField.embedded?, origin]

theorem backReference_fields : record.fields.filterMap (·.backReference?) =
    (resolution.associations.filter fun association =>
      association.target == message.fullName && association.addsChildKey).map fun association =>
        (association.owner, association.field) := by
  rw [own.fields, List.filterMap_append, List.filterMap_append, filterMap_childField,
    List.filterMap_eq_nil_iff.mpr, List.filterMap_eq_nil_iff.mpr, List.append_nil, List.nil_append]
  · intro column there
    obtain ⟨name, origin⟩ := Association.origin_of_ownerField there
    simp [RecordField.backReference?, origin]
  · intro column there
    obtain ⟨name, origin⟩ := Field.origin_of_stored there
    simp [RecordField.backReference?, origin]

theorem dropped_iff (there : field ∈ message.fields) : field.dropped = true ↔
    field.associated? schema message = none ∧ field.stored? schema message = none := by
  obtain ⟨role, found⟩ := own.roles field there
  rw [← Field.role_dropped schema message]
  unfold Field.associated? Field.stored?
  rw [found]
  cases role <;> simp

end Schema.RecordOf

/-- **Every field has one place.** A field of a message is one of its associations, a column of its record, or
dropped. What else the record has are the keys of the messages it embeds, one for each, and one key for each
has-many association whose child it is and that does not use a field of the child. -/
theorem Schema.fieldsPartition (distinct : schema.NamesDistinct) (h : schema.models = .ok models)
    (persisted : message ∈ schema.persisted) :
    ∃ record, models.record? message.fullName = some record ∧
      (models.resolution.ownedBy message.fullName).map
          (fun association => (association.field, association.target)) =
        message.fields.filterMap (·.associated? schema message) ∧
      record.fields.filter (·.schemaField?.isSome) = message.fields.filterMap (·.stored? schema message) ∧
      (∀ field ∈ message.fields, field.dropped = true ↔
        field.associated? schema message = none ∧ field.stored? schema message = none) ∧
      record.fields.filterMap (·.embedded?) =
        ((models.resolution.ownedBy message.fullName).filter (·.link.kind == .embeddedOne)).map (·.field) ∧
      record.fields.filterMap (·.backReference?) =
        (models.resolution.associations.filter fun association =>
          association.target == message.fullName && association.addsChildKey).map fun association =>
            (association.owner, association.field) := by
  obtain ⟨keys, -, associated, -, built⟩ := models_ok h
  obtain ⟨record, found, own⟩ := record?_ok distinct h persisted built
  exact ⟨record, found, ownedBy_fields distinct persisted associated, own.schema_fields,
    fun field there => own.dropped_iff there, own.embedded_fields, own.backReference_fields⟩

theorem Schema.fieldsPartition_blogPost :
    ∃ models record, blog.models = .ok models ∧ models.record? "blog.Post" = some record ∧
      (models.resolution.ownedBy "blog.Post").map
          (fun association => (association.field, association.target)) =
        [("comments", "blog.Comment"), ("editor", "blog.Author")] ∧
      (record.fields.filter (·.schemaField?.isSome)).map (·.column) = ["id", "author_id"] := by
  obtain ⟨models, built⟩ := blog_models
  have persisted : blogPost ∈ blog.persisted := by decide +kernel
  obtain ⟨record, found, associations, columns, -⟩ :=
    fieldsPartition (by decide +kernel : blog.NamesDistinct) built persisted
  exact ⟨models, record, built, found, associations.trans (by decide +kernel),
    columns ▸ (by decide +kernel)⟩

end ProtoStore
