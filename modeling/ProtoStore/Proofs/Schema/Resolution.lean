import ProtoStore.Proofs.Except
import ProtoStore.Proofs.Schema.Roles

/-!
# The associations of a schema

What a schema says of its associations, read off its fields, and that a resolution that succeeds says the same.

* `Schema.sites` : the fields of persisted messages that hold persisted messages, in order of declaration;
* `AssociationField.Linked` : all that a link can be, with what was checked for it;
* `resolve_ok` : the association of one field;
* `Schema.Associated` : the associations of a schema, one for each site and no two with one child key;
* `Schema.resolveField_ok`, `Schema.resolve_ok` : those of a resolution are such associations.
-/

namespace ProtoStore

variable {schema : Schema} {keys : Keys} {owner : Message} {field : Field}

/-! ## What a field declares -/

namespace Field

/-- The kind of association of a field. -/
def associationKind (field : Field) : AssociationKind :=
  (field.association.bind (·.kind)).getD (if field.repeated then .hasMany else .embeddedOne)

/-- The foreign key in which the children the field holds refer to its owner. -/
def childKeyName (owner : Message) (field : Field) : String :=
  (field.association.bind (·.foreignKey)).getD (Text.snakeCase owner.name ++ "_id")

/-- Whether that foreign key may be null. A child that has a field of its name decides it. -/
def childKeyIsNullable (owner child : Message) (field : Field) : Bool :=
  match child.field? (field.childKeyName owner) with
  | some existing => existing.isOptional
  | none => (field.association.bind (·.nullable)).getD true

/-- The association site of a field. -/
def site? (schema : Schema) (keys : Keys) (owner : Message) (field : Field) : Option AssociationField :=
  ((field.target? schema).bind schema.message?).map fun target => ⟨schema, keys, owner, field, target⟩

theorem associationSite?_ok {found : Option AssociationField}
    (h : field.associationSite? schema keys owner = .ok found) : found = field.site? schema keys owner := by
  unfold associationSite? at h
  unfold site? target?
  split at h
  · next hidden =>
    cases h
    simp [hidden]
  · next visible =>
    rw [if_neg visible]
    split at h
    · next target holds =>
      cases h
      simp [holds]
    · next nothing =>
      split at h
      · cases h
      · cases h
        simp [nothing]

end Field

/-- The association sites of a schema, in order of declaration. -/
def Schema.sites (schema : Schema) (keys : Keys) : List AssociationField :=
  schema.persistedFields.filterMap fun entry => entry.2.site? schema keys entry.1

theorem mem_sites {site : AssociationField} :
    site ∈ schema.sites keys ↔ ∃ owner ∈ schema.persisted, ∃ field ∈ owner.fields,
      field.site? schema keys owner = some site := by
  simp only [Schema.sites, Schema.persistedFields, List.mem_filterMap, List.mem_flatMap, List.mem_map]
  constructor
  · rintro ⟨entry, ⟨owner, there, field, inside, rfl⟩, found⟩
    exact ⟨owner, there, field, inside, found⟩
  · rintro ⟨owner, there, field, inside, found⟩
    exact ⟨(owner, field), ⟨owner, there, field, inside, rfl⟩, found⟩

/-- A site belongs to the schema, and its two messages are persisted. -/
theorem site_ok {site : AssociationField} (h : site ∈ schema.sites keys) :
    site.schema = schema ∧ site.keys = keys ∧ site.owner ∈ schema.persisted ∧
      site.field ∈ site.owner.fields ∧ site.target ∈ schema.persisted := by
  obtain ⟨owner, persisted, field, declared, found⟩ := mem_sites.mp h
  unfold Field.site? at found
  obtain ⟨target, held, rfl⟩ := Option.map_eq_some_iff.mp found
  obtain ⟨name, holds, found⟩ := Option.bind_eq_some_iff.mp held
  obtain ⟨message, again, target_persisted, -⟩ := Schema.isPersisted_ok (Field.target?_persisted holds)
  obtain rfl : message = target := Option.some.inj (again.symm.trans found)
  exact ⟨rfl, rfl, persisted, declared, target_persisted⟩

/-! ## One association -/

/-- Two associations do not keep their keys in one field of one child. -/
def Association.KeysApart (first second : Association) : Prop :=
  ∀ child foreignKey, second.usesChildKey child foreignKey = true →
    first.usesChildKey child foreignKey = false

namespace AssociationField

variable {site : AssociationField} {association : Association} {earlier : List Association} {link : Link}

/-- The links a field can have, each with what has been checked for it. -/
inductive Linked (site : AssociationField) : Link → Prop
  | embeddedOne {foreignKey : String} {targetKey : KeyKind} (kind : site.kind = .embeddedOne)
      (key : site.keyOf site.target = .ok targetKey) (free : site.collides foreignKey = false) :
      Linked site (.embeddedOne foreignKey site.field.isOptional targetKey)
  | hasMany {nullable reused : Bool} {ownerKey : KeyKind} (kind : site.kind = .hasMany)
      (key : site.keyOf site.owner = .ok ownerKey)
      (stored : site.childKey (site.field.childKeyName site.owner) ownerKey = .ok (nullable, reused)) :
      Linked site (.hasMany (site.field.childKeyName site.owner) nullable reused ownerKey)
  | manyToMany {join : Join} (kind : site.kind = .manyToMany) : Linked site (.manyToMany join)

/-- An association that a field can be resolved to. -/
structure Resolved (site : AssociationField) (association : Association) : Prop where
  owner : association.owner = site.owner.fullName
  field : association.field = site.field.name
  target : association.target = site.target.fullName
  linked : site.Linked association.link

theorem kind_eq : site.kind = site.field.associationKind := rfl

theorem keyOf_ok {message : Message} {kind : KeyKind} (h : site.keyOf message = .ok kind) :
    ∃ key, site.keys.find? message.fullName = some key ∧ key.kind = kind := by
  unfold keyOf at h
  split at h
  · next key found =>
    cases h
    exact ⟨key, found, rfl⟩
  · cases h

theorem embeddedOne_ok {targetKey : KeyKind} (kind : site.kind = .embeddedOne)
    (key : site.keyOf site.target = .ok targetKey) (h : site.embeddedOne targetKey = .ok link) :
    site.Linked link ∧ link.kind = .embeddedOne := by
  unfold embeddedOne contradictory at h
  dsimp only at h
  split at h
  · cases h
  split at h
  · cases h
  split at h
  · cases h
  split at h
  · cases h
  · next free =>
    cases h
    exact ⟨.embeddedOne kind key (by simpa using free), rfl⟩

/-- How a child keeps a foreign key: in a field of that name which it declares and which can hold the key, or
else in one that its record gets. -/
theorem childKey_ok {foreignKey : String} {ownerKey : KeyKind} {nullable reused : Bool}
    (h : site.childKey foreignKey ownerKey = .ok (nullable, reused)) :
    (site.target.field? foreignKey = none ∧ reused = false ∧
        nullable = (site.field.association.bind (·.nullable)).getD true) ∨
      ∃ existing type, site.target.field? foreignKey = some existing ∧ reused = true ∧
        nullable = existing.isOptional ∧ existing.role site.schema site.target = .ok (.column type) ∧
        type.scalar = (ownerKey.foreignKeyType nullable).scalar ∧
        type.nullable = (ownerKey.foreignKeyType nullable).nullable := by
  unfold childKey contradictory at h
  split at h
  · next absent =>
    cases h
    exact .inl ⟨absent, rfl, rfl⟩
  · next existing found =>
    dsimp only at h
    split at h
    · cases h
    split at h
    · cases h
    · next type role =>
      split at h
      · next fits =>
        cases h
        rw [Bool.and_eq_true, beq_iff_eq, beq_iff_eq] at fits
        exact .inr ⟨existing, type, found, rfl, rfl, role, fits⟩
      · cases h
    · cases h

theorem hasMany_ok {ownerKey : KeyKind} (kind : site.kind = .hasMany)
    (key : site.keyOf site.owner = .ok ownerKey) (h : site.hasMany earlier ownerKey = .ok link) :
    site.Linked link ∧ ∀ other ∈ earlier, other.KeysApart
      ⟨site.owner.fullName, site.field.name, site.target.fullName, site.strategy, link⟩ := by
  unfold hasMany contradictory at h
  dsimp only at h
  obtain ⟨⟨nullable, reused⟩, stored, h⟩ := Except.bind_eq_ok.mp h
  dsimp only at h
  split at h
  · cases h
  · next unused =>
    cases h
    refine ⟨.hasMany kind key stored, fun other there child foreignKey uses => ?_⟩
    simp only [Association.usesChildKey, Bool.and_eq_true, beq_iff_eq] at uses
    obtain ⟨rfl, rfl⟩ := uses
    simpa using List.any_eq_false.mp (by simpa using unused) other there

theorem manyToMany_ok {ownerKey targetKey : KeyKind} (kind : site.kind = .manyToMany)
    (h : site.manyToMany ownerKey targetKey = .ok link) : site.Linked link ∧ link.kind = .manyToMany := by
  unfold manyToMany contradictory at h
  dsimp only at h
  generalize (site.declared (·.targetKey)).getD _ = targetColumn at h
  split at h
  · cases h
  · cases h
    exact ⟨.manyToMany kind, rfl⟩

theorem keysApart_of_kind {first second : Association} (h : second.link.kind ≠ .hasMany) :
    first.KeysApart second := by
  intro child foreignKey uses
  unfold Association.usesChildKey at uses
  split at uses
  · next link => simp [link, Link.kind] at h
  · cases uses

/-- The association of a field is what its kind makes of the keys of its two messages. -/
theorem resolve_eq_ok (h : site.resolve earlier = .ok association) :
    ∃ targetKey link, site.keyOf site.target = .ok targetKey ∧
      association = ⟨site.owner.fullName, site.field.name, site.target.fullName, site.strategy, link⟩ ∧
      (site.kind = .embeddedOne ∧ site.embeddedOne targetKey = .ok link ∨
        ∃ ownerKey, site.keyOf site.owner = .ok ownerKey ∧
          (site.kind = .hasMany ∧ site.hasMany earlier ownerKey = .ok link ∨
            site.kind = .manyToMany ∧ site.manyToMany ownerKey targetKey = .ok link)) := by
  unfold resolve at h
  dsimp only at h
  split at h
  · cases h
  obtain ⟨targetKey, target_key, h⟩ := Except.bind_eq_ok.mp h
  split at h
  · next kind =>
    obtain ⟨link, made, h⟩ := Except.bind_eq_ok.mp h
    cases h
    exact ⟨targetKey, link, target_key, rfl, .inl ⟨kind, made⟩⟩
  · next kind =>
    obtain ⟨ownerKey, owner_key, h⟩ := Except.bind_eq_ok.mp h
    obtain ⟨link, made, h⟩ := Except.bind_eq_ok.mp h
    cases h
    exact ⟨targetKey, link, target_key, rfl, .inr ⟨ownerKey, owner_key, .inl ⟨kind, made⟩⟩⟩
  · next kind =>
    obtain ⟨ownerKey, owner_key, h⟩ := Except.bind_eq_ok.mp h
    obtain ⟨link, made, h⟩ := Except.bind_eq_ok.mp h
    cases h
    exact ⟨targetKey, link, target_key, rfl, .inr ⟨ownerKey, owner_key, .inr ⟨kind, made⟩⟩⟩

/-- The association of a field is one it can be resolved to, and uses no child key used before. -/
theorem resolve_ok (h : site.resolve earlier = .ok association) :
    site.Resolved association ∧ ∀ other ∈ earlier, other.KeysApart association := by
  obtain ⟨targetKey, link, target_key, rfl, ⟨kind, made⟩ | ⟨ownerKey, owner_key, ⟨kind, made⟩ | ⟨kind, made⟩⟩⟩ :=
    resolve_eq_ok h
  · have linked := embeddedOne_ok kind target_key made
    exact ⟨⟨rfl, rfl, rfl, linked.1⟩, fun other _ => keysApart_of_kind (by simp [linked.2])⟩
  · obtain ⟨linked, apart⟩ := hasMany_ok kind owner_key made
    exact ⟨⟨rfl, rfl, rfl, linked⟩, apart⟩
  · have linked := manyToMany_ok kind made
    exact ⟨⟨rfl, rfl, rfl, linked.1⟩, fun other _ => keysApart_of_kind (by simp [linked.2])⟩

end AssociationField

/-! ## The associations of a schema -/

/-- Associations of a schema, one for each site. -/
structure Schema.Associated (schema : Schema) (keys : Keys) (associations : List Association) : Prop where
  resolved : List.Forall₂ AssociationField.Resolved (schema.sites keys) associations
  apart : associations.Pairwise Association.KeysApart

/-- One field adds the association of its site, if it is one. -/
theorem Schema.resolveField_ok {earlier later : List Association}
    (h : schema.resolveField keys earlier (owner, field) = .ok later) :
    (field.site? schema keys owner = none ∧ later = earlier) ∨
      ∃ site association, field.site? schema keys owner = some site ∧ later = earlier ++ [association] ∧
        site.Resolved association ∧ ∀ other ∈ earlier, other.KeysApart association := by
  unfold resolveField at h
  obtain ⟨found, site, h⟩ := Except.bind_eq_ok.mp h
  rw [Field.associationSite?_ok site] at h
  split at h
  · next none =>
    cases h
    exact .inl ⟨none, rfl⟩
  · next site some =>
    obtain ⟨association, resolved, h⟩ := Except.bind_eq_ok.mp h
    cases h
    exact .inr ⟨site, association, some, rfl, AssociationField.resolve_ok resolved⟩

theorem Schema.resolve_ok {resolution : Resolution} (h : schema.resolve keys = .ok resolution) :
    schema.Associated keys resolution.associations ∧
      (schema.graph resolution.associations).order = .ok resolution.order := by
  unfold resolve at h
  obtain ⟨associations, folded, h⟩ := Except.bind_eq_ok.mp h
  obtain ⟨order, ordered, h⟩ := Except.bind_eq_ok.mp h
  cases h
  obtain ⟨resolved, apart⟩ := List.foldlM_ok
    (fun seen earlier => List.Forall₂ AssociationField.Resolved
        (seen.filterMap fun entry => entry.2.site? schema keys entry.1) earlier ∧
      earlier.Pairwise Association.KeysApart)
    ⟨.nil, .nil⟩
    (by
      rintro seen ⟨owner, field⟩ earlier later - ⟨resolved, apart⟩ step
      rw [List.filterMap_append]
      rcases resolveField_ok step with ⟨none, rfl⟩ | ⟨site, association, some, rfl, this_one, apart_from⟩
      · simpa [none] using ⟨resolved, apart⟩
      · refine ⟨List.rel_append resolved (by simpa [some] using this_one), ?_⟩
        exact List.pairwise_append.mpr ⟨apart, by simp, fun other there last here =>
          List.mem_singleton.mp here ▸ apart_from other there⟩)
    folded
  exact ⟨⟨resolved, apart⟩, ordered⟩

end ProtoStore
