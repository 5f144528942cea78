import ProtoStore.Schema.Graph
import ProtoStore.Schema.Key

/-!
# Associations

`Schema.resolve` finds the associations of a schema: every field of a persisted message whose type is
a persisted message is one. It decides where the foreign keys live (`Link`) and puts the persisted
messages into an order in which each comes after those it requires.
-/

namespace ProtoStore

/-- The record that joins two messages many to many. -/
structure Join where
  /-- The name of the record type. -/
  name : String
  table : String
  ownerColumn : String
  targetColumn : String
  ownerKey : KeyKind
  targetKey : KeyKind
deriving Repr, DecidableEq

/-- Where the keys of an association are stored. -/
inductive Link
  /-- On the owner; nullable if the field is optional. -/
  | embeddedOne (foreignKey : String) (nullable : Bool) (targetKey : KeyKind)
  /-- On each child, in a field the child declares itself if `reused`. -/
  | hasMany (foreignKey : String) (nullable reused : Bool) (ownerKey : KeyKind)
  /-- In a join record. -/
  | manyToMany (join : Join)
deriving Repr, DecidableEq

/-- The kind of association a link belongs to. -/
def Link.kind : Link → AssociationKind
  | .embeddedOne .. => .embeddedOne
  | .hasMany .. => .hasMany
  | .manyToMany _ => .manyToMany

/-- A field of one persisted message that holds others. -/
structure Association where
  /-- The full name of the message that declares the field. -/
  owner : String
  field : String
  /-- The full name of the message the field holds. -/
  target : String
  strategy : Strategy
  link : Link
deriving Repr, DecidableEq

/-- The dependency that comes with an association: an owner on the target whose key it holds, a child
on the owner. A join record depends on both sides and neither side on the other. -/
def Association.edge? (association : Association) : Option Edge :=
  match association.link with
  | .embeddedOne _ nullable _ =>
    some ⟨association.owner, association.target, association.field, nullable⟩
  | .hasMany _ nullable _ _ =>
    some ⟨association.target, association.owner, association.field, nullable⟩
  | .manyToMany _ => none

/-- Whether the association keeps its foreign key in a given field of a given child. -/
def Association.usesChildKey (child foreignKey : String) (association : Association) : Bool :=
  match association.link with
  | .hasMany key _ _ _ => association.target == child && key == foreignKey
  | _ => false

/-- The associations of a schema and the order of its persisted messages. -/
structure Resolution where
  /-- In order of declaration. -/
  associations : List Association
  /-- Full names, each after those it requires. -/
  order : List String
deriving Repr, DecidableEq

namespace Resolution

/-- The associations a message declares. -/
def ownedBy (resolution : Resolution) (owner : String) : List Association :=
  resolution.associations.filter (·.owner == owner)

/-- The has-many associations a message is the child of. -/
def childrenOf (resolution : Resolution) (child : String) : List Association :=
  resolution.associations.filter fun association =>
    association.target == child && association.link.kind == .hasMany

end Resolution

/-! ## Resolving one field -/

/-- A field of a persisted message that holds persisted messages. -/
structure AssociationField where
  schema : Schema
  keys : Keys
  owner : Message
  field : Field
  target : Message

namespace AssociationField

variable (site : AssociationField)

/-- The value a declaration gives, if the field has a declaration. -/
def declared {α : Type} (part : Declaration → Option α) : Option α :=
  site.field.association.bind part

/-- The strategy of the association. -/
def strategy : Strategy := (site.declared fun declaration => some declaration.strategy).getD .default

/-- The kind of the association: the declared one, or else the one the cardinality suggests. -/
def kind : AssociationKind :=
  (site.declared (·.kind)).getD (if site.field.repeated then .hasMany else .embeddedOne)

/-- The name of a kind in messages. -/
def kindName : AssociationKind → String
  | .embeddedOne => "EmbeddedOne"
  | .hasMany => "HasMany"
  | .manyToMany => "ManyToMany"

/-- The key of a message the association needs. -/
def keyOf (message : Message) : Except SchemaError KeyKind :=
  match site.keys.find? message.fullName with
  | some key => .ok key.kind
  | none => .error (.missingKey message.fullName site.owner.fullName site.field.name)

/-- The error of an association that disagrees with the fields it concerns. -/
def contradictory {α : Type} (reason : String) : Except SchemaError α :=
  .error (.contradictory site.owner.fullName site.field.name reason)

/-- Whether a field of the owner has the name or the column `foreignKey`. -/
def collides (foreignKey : String) : Bool :=
  site.owner.fields.any fun field =>
    Naming.snake field.name == foreignKey || field.column == some foreignKey

/-- The link of an embedded message. The foreign key is null exactly where the message is absent, so
it is nullable if and only if the field is optional. -/
def embeddedOne (targetKey : KeyKind) : Except SchemaError Link :=
  let foreignKey := (site.declared (·.foreignKey)).getD (Naming.snake site.field.name ++ "_id")
  let nullable := site.field.isOptional
  let declared := site.declared (·.nullable)
  if declared == some true && !nullable then
    site.contradictory
      "nullable foreign key on a required field; declare the field optional"
  else if declared == some false && nullable then
    site.contradictory "non-nullable foreign key on an optional field"
  else if !nullable && site.strategy == .clear then
    site.contradictory "clear strategy needs a nullable foreign key"
  else if site.collides foreignKey then
    site.contradictory s!"foreign key `{foreignKey}` collides with an existing field"
  else .ok (.embeddedOne foreignKey nullable targetKey)

/-- How the foreign key of a child is stored: whether it may be null, and whether it is a field the
child declares. A declared field has to be able to hold the key. -/
def childKey (foreignKey : String) (ownerKey : KeyKind) : Except SchemaError (Bool × Bool) :=
  match site.target.field? foreignKey with
  | none => .ok ((site.declared (·.nullable)).getD true, false)
  | some existing =>
    let nullable := existing.isOptional
    if (site.declared (·.nullable)).any (· != nullable) then
      site.contradictory
        s!"nullability of `{foreignKey}` contradicts the field `{site.target.fullName}.{existing.name}`"
    else
      let expected := ownerKey.foreignKeyType nullable
      let misfit := site.contradictory
        (s!"field `{site.target.fullName}.{existing.name}` cannot hold a key of "
          ++ s!"`{site.owner.fullName}`")
      match existing.role site.schema site.target with
      | .error error => .error error
      | .ok (.column type) =>
        if type.scalar == expected.scalar && type.nullable == expected.nullable then
          .ok (nullable, true)
        else misfit
      | .ok _ => misfit

/-- The link of a collection of children. No two associations keep their keys in one field of a
child; `earlier` are those resolved before. -/
def hasMany (earlier : List Association) (ownerKey : KeyKind) : Except SchemaError Link := do
  let foreignKey :=
    (site.declared (·.foreignKey)).getD (Text.snakeCase site.owner.name ++ "_id")
  let (nullable, reused) ← site.childKey foreignKey ownerKey
  if earlier.any (·.usesChildKey site.target.fullName foreignKey) then
    site.contradictory
      s!"foreign key `{foreignKey}` on `{site.target.fullName}` is already used by another association"
  else return .hasMany foreignKey nullable reused ownerKey

/-- The link of a collection shared with other owners. -/
def manyToMany (ownerKey targetKey : KeyKind) : Except SchemaError Link :=
  let owner := Text.snakeCase site.owner.name
  let target := Text.snakeCase site.target.name
  let ownerColumn := (site.declared (·.foreignKey)).getD (owner ++ "_id")
  let targetColumn := (site.declared (·.targetKey)).getD
    (if site.owner.fullName == site.target.fullName then s!"related_{target}_id"
      else target ++ "_id")
  if ownerColumn == targetColumn then
    site.contradictory s!"join columns are both named `{ownerColumn}`"
  else
    .ok (.manyToMany {
      name := Naming.camel site.owner.name ++ Naming.camel site.field.name ++ "Join"
      table := (site.declared (·.joinTable)).getD
        s!"{owner}_{Text.snakeCase site.field.name}"
      ownerColumn, targetColumn, ownerKey, targetKey })

/-- The association of the field. -/
def resolve (earlier : List Association) : Except SchemaError Association := do
  let kind := site.kind
  if (kind == .embeddedOne) == site.field.repeated then
    throw (.malformed s!"{site.owner.fullName}.{site.field.name}"
      s!"{kindName kind} association does not match the field's cardinality")
  let targetKey ← site.keyOf site.target
  let link ← match kind with
    | .embeddedOne => site.embeddedOne targetKey
    | .hasMany => do site.hasMany earlier (← site.keyOf site.owner)
    | .manyToMany => do site.manyToMany (← site.keyOf site.owner) targetKey
  return ⟨site.owner.fullName, site.field.name, site.target.fullName, site.strategy, link⟩

end AssociationField

/-! ## Resolving a schema -/

/-- The association site of a field, if it is one. Only a field that holds persisted messages may
declare an association. -/
def Field.associationSite? (schema : Schema) (keys : Keys) (owner : Message) (field : Field) :
    Except SchemaError (Option AssociationField) :=
  if field.dropped || field.oneof.isSome then .ok none
  else
    match (field.messageType?.filter schema.isPersisted).bind schema.message? with
    | some target => .ok (some ⟨schema, keys, owner, field, target⟩)
    | none =>
      if field.association.isSome then
        .error (.malformed s!"{owner.fullName}.{field.name}"
          "associations can only be declared on fields of a persisted message type")
      else .ok none

/-- The associations found so far, with that of one more field. -/
def Schema.resolveField (schema : Schema) (keys : Keys) (earlier : List Association)
    (entry : Message × Field) : Except SchemaError (List Association) := do
  match ← entry.2.associationSite? schema keys entry.1 with
  | none => return earlier
  | some site => return earlier ++ [← site.resolve earlier]

/-- The fields of the persisted messages, in order of declaration. -/
def Schema.persistedFields (schema : Schema) : List (Message × Field) :=
  schema.persisted.flatMap fun message => message.fields.map fun field => (message, field)

/-- The dependency graph of the persisted messages. -/
def Schema.graph (schema : Schema) (associations : List Association) : Graph :=
  ⟨schema.persisted.map (·.fullName), associations.filterMap (·.edge?)⟩

/-- The associations of the schema and the order of its persisted messages. -/
def Schema.resolve (schema : Schema) (keys : Keys) : Except SchemaError Resolution := do
  let associations ← schema.persistedFields.foldlM (schema.resolveField keys) []
  let order ← (schema.graph associations).order
  return ⟨associations, order⟩

end ProtoStore
