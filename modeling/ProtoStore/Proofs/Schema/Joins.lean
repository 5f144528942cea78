import ProtoStore.Proofs.Schema.Partition

/-!
# Join records

What the fields of a schema say of the join records they are associated through, and that its models say the same.

* `Schema.resolve_each` : each association is what its site is resolved to;
* `AssociationField.Joins` : the join record of a site, read off the declaration;
* `RecordOf.copies` : what a record takes over from its message and from the resolution;
* `Schema.models_built`, `Schema.joins_of_fields`, `Schema.map_joins` : the join records of a record are those of the
  fields of its message, in order of declaration.
-/

namespace ProtoStore

variable {schema : Schema} {keys : Keys} {message : Message} {models : Models} {resolution : Resolution}
  {record : RecordModel}

/-! ## The join record of a field -/

namespace Field

/-- Whether the field is associated with persisted messages many to many. -/
def isShared (schema : Schema) (field : Field) : Bool :=
  (field.target? schema).isSome && field.associationKind == .manyToMany

/-- The name of the join record of a field. -/
def joinName (owner : Message) (field : Field) : String :=
  Naming.camel owner.name ++ Naming.camel field.name ++ "Join"

/-- The table of the join record of a field. -/
def joinTable (owner : Message) (field : Field) : String :=
  (field.association.bind (·.joinTable)).getD s!"{Text.snakeCase owner.name}_{Text.snakeCase field.name}"

/-- The column in which join records refer to what the field holds. -/
def targetKeyName (owner target : Message) (field : Field) : String :=
  (field.association.bind (·.targetKey)).getD
    (if owner.fullName == target.fullName then s!"related_{Text.snakeCase target.name}_id"
      else Text.snakeCase target.name ++ "_id")

end Field

namespace AssociationField

variable {site : AssociationField} {association : Association} {earlier : List Association} {join : Join}

/-- A join record that a field asks for. The column of the owner is named as the foreign key of children is. -/
structure Joins (site : AssociationField) (join : Join) : Prop where
  name : join.name = site.field.joinName site.owner
  table : join.table = site.field.joinTable site.owner
  ownerColumn : join.ownerColumn = site.field.childKeyName site.owner
  targetColumn : join.targetColumn = site.field.targetKeyName site.owner site.target

theorem Linked.kind {link : Link} (h : site.Linked link) : link.kind = site.field.associationKind := by
  cases h with
  | embeddedOne kind | hasMany kind | manyToMany kind => exact kind.symm

theorem manyToMany_joins {ownerKey targetKey : KeyKind} {link : Link}
    (h : site.manyToMany ownerKey targetKey = .ok link) : ∃ join, link = .manyToMany join ∧ site.Joins join := by
  unfold manyToMany contradictory at h
  dsimp only at h
  generalize column : (site.declared (·.targetKey)).getD _ = targetColumn at h
  split at h
  · cases h
  · cases h
    exact ⟨_, rfl, rfl, rfl, rfl, column.symm⟩

theorem joins_of_resolve (h : site.resolve earlier = .ok association) (link : association.link = .manyToMany join) :
    site.Joins join := by
  have kind := (resolve_ok h).1.linked.kind
  rw [link] at kind
  obtain ⟨targetKey, made, -, rfl, ⟨other, -⟩ | ⟨ownerKey, -, ⟨other, -⟩ | ⟨-, linked⟩⟩⟩ := resolve_eq_ok h
  · cases kind.trans other
  · cases kind.trans other
  · obtain ⟨other, rfl, joins⟩ := manyToMany_joins linked
    cases link
    exact joins

end AssociationField

theorem Field.site?_owner {field : Field} {site : AssociationField} (h : field.site? schema keys message = some site) :
    site.owner = message := by
  obtain ⟨target, -, rfl⟩ := Option.map_eq_some_iff.mp h
  rfl

/-! ## The associations of a schema -/

namespace Schema

/-- The association that a site is resolved to. -/
theorem resolve_each (h : schema.resolve keys = .ok resolution) :
    List.Forall₂ (fun site association => ∃ earlier, AssociationField.resolve site earlier = .ok association)
      (schema.sites keys) resolution.associations := by
  unfold resolve at h
  obtain ⟨associations, folded, h⟩ := Except.bind_eq_ok.mp h
  obtain ⟨order, -, h⟩ := Except.bind_eq_ok.mp h
  cases h
  refine List.foldlM_ok (fun seen associations =>
    List.Forall₂ (fun site association => ∃ earlier, AssociationField.resolve site earlier = .ok association)
      (seen.filterMap fun entry => entry.2.site? schema keys entry.1) associations) .nil ?_ folded
  rintro seen ⟨owner, field⟩ earlier later - so_far step
  unfold resolveField at step
  obtain ⟨found, site, step⟩ := Except.bind_eq_ok.mp step
  obtain rfl := Field.associationSite?_ok site
  rw [List.filterMap_append]
  split at step
  · next none =>
    cases step
    simpa [none] using so_far
  · next site some =>
    obtain ⟨association, resolved, step⟩ := Except.bind_eq_ok.mp step
    cases step
    exact List.rel_append so_far (by simpa [some] using ⟨earlier, resolved⟩)

/-- The associations a message owns, each with the field it comes from. -/
theorem ownedBy_each (distinct : schema.NamesDistinct) (persisted : message ∈ schema.persisted)
    (h : schema.resolve keys = .ok resolution) :
    List.Forall₂ (fun site association => ∃ earlier, AssociationField.resolve site earlier = .ok association)
      (message.fields.filterMap (·.site? schema keys message)) (resolution.ownedBy message.fullName) := by
  rw [← sites_of_owner distinct persisted]
  refine List.rel_filter (fun site association resolved => ?_) (resolve_each h)
  obtain ⟨earlier, resolved⟩ := resolved
  show _ == _ ↔ _ == _
  rw [(AssociationField.resolve_ok resolved).1.owner]

/-! ## The records of a schema -/

/-- What a record takes over as it is. -/
theorem recordOf_copies (h : schema.recordOf keys resolution message = .ok record) :
    record.name = message.name ∧ record.package = message.package ∧ record.file = message.file ∧
      record.table = message.table.getD (Naming.tableName message.name) ∧
      record.associations = resolution.ownedBy message.fullName := by
  unfold recordOf at h
  obtain ⟨columns, -, h⟩ := Except.bind_eq_ok.mp h
  dsimp only at h
  split at h
  · cases h
  · cases h
    exact ⟨rfl, rfl, rfl, rfl, rfl⟩

theorem recordOf_associations (h : schema.recordOf keys resolution message = .ok record)
    {association : Association} : association ∈ record.associations ↔
      association ∈ resolution.associations ∧ association.owner = message.fullName := by
  rw [(recordOf_copies h).2.2.2.2, Resolution.mem_ownedBy]

/-- The sites of a message that are associated many to many are its shared fields. -/
theorem shared_sites (keys : Keys) (message : Message) :
    ((message.fields.filterMap (·.site? schema keys message)).filter
        (·.field.associationKind == .manyToMany)).map (·.field) = message.fields.filter (·.isShared schema) := by
  rw [List.filter_filterMap, List.map_filterMap, ← List.filterMap_eq_filter]
  refine List.filterMap_congr fun field _ => ?_
  unfold Field.site? Field.isShared
  cases holds : field.target? schema with
  | none => simp [holds, Option.guard]
  | some name =>
    obtain ⟨target, found, -⟩ := isPersisted_ok (Field.target?_persisted holds)
    by_cases kind : field.associationKind = .manyToMany <;> simp [holds, found, kind, Option.guard, Option.filter]

/-- The join records of a record are those of the fields of its message, in order of declaration. -/
theorem joins_of_fields (distinct : schema.NamesDistinct) (persisted : message ∈ schema.persisted)
    (resolved : schema.resolve keys = .ok resolution)
    (built : schema.recordOf keys resolution message = .ok record) :
    List.Forall₂ AssociationField.Joins
      ((message.fields.filterMap (·.site? schema keys message)).filter (·.field.associationKind == .manyToMany))
      record.joins := by
  rw [← List.filterMap_eq_filter]
  unfold RecordModel.joins
  rw [(recordOf_copies built).2.2.2.2]
  refine List.rel_filterMap (fun site association resolved => ?_) (ownedBy_each distinct persisted resolved)
  obtain ⟨earlier, resolved⟩ := resolved
  have kind := (AssociationField.resolve_ok resolved).1.linked.kind
  generalize link : association.link = l at kind
  cases l with
  | manyToMany join =>
    simpa [Option.guard, ← kind, Link.kind] using AssociationField.joins_of_resolve resolved link
  | embeddedOne | hasMany =>
    rw [Option.guard_eq_none_iff.mpr (by simp [← kind, Link.kind])]
    exact .none

/-- What the join records of a record have is what the shared fields of its message say. -/
theorem map_joins {β : Type} {ofJoin : Join → β} {ofField : Field → β} (distinct : schema.NamesDistinct)
    (persisted : message ∈ schema.persisted) (resolved : schema.resolve keys = .ok resolution)
    (built : schema.recordOf keys resolution message = .ok record)
    (same : ∀ site join, site.owner = message → AssociationField.Joins site join → ofJoin join = ofField site.field) :
    record.joins.map ofJoin = (message.fields.filter (·.isShared schema)).map ofField := by
  rw [← shared_sites keys, List.map_map, eq_comm, ← List.forall₂_eq_eq_eq, List.forall₂_map_left_iff,
    List.forall₂_map_right_iff, List.forall₂_iff_get]
  have each := joins_of_fields distinct persisted resolved built
  refine ⟨each.length_eq, fun i inside there => ?_⟩
  obtain ⟨field, -, found⟩ := List.mem_filterMap.mp (List.mem_filter.mp (List.getElem_mem inside)).1
  exact (same _ _ (Field.site?_owner found) (each.get inside there)).symm

end Schema

end ProtoStore
