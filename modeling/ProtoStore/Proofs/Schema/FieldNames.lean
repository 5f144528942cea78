import ProtoStore.Emit.Record
import ProtoStore.Proofs.Code.Ident
import ProtoStore.Proofs.Schema.Partition

/-!
# The names of record fields

A record is checked for columns that occur twice, its struct is declared with the names of its fields. The two
differ where a field of the message has a column of its own choice.

* `Schema.AddsKey` : a foreign key that the records of a child get, read off the declarations;
* `RecordOf.added_keys` : the back references of a record are these keys;
* `RecordOf.names_nodup_iff` : the names of a record are different unless two stored fields of the message share
  a spelling, or an added key has the spelling of a stored field;
* `fieldNames_nodup_iff` : the records of a schema and their structs.
-/

namespace ProtoStore

variable {schema : Schema} {keys : Keys} {message : Message} {field : Field} {models : Models}
  {resolution : Resolution} {record : RecordModel} {key : String}

/-- The spellings of the fields of a message that have columns. -/
def Message.storedNames (schema : Schema) (message : Message) : List String :=
  (message.fields.filterMap (·.stored? schema message)).map (·.name)

/-- A has-many field keeps its foreign key in the records of a child that declares no field of that name. -/
def Schema.AddsKey (schema : Schema) (child : Message) (key : String) : Prop :=
  ∃ owner ∈ schema.persisted, ∃ field ∈ owner.fields, field.target? schema = some child.fullName ∧
    field.associationKind = .hasMany ∧ field.childKeyName owner = key ∧ child.field? key = none

theorem Message.mem_storedNames : key ∈ message.storedNames schema ↔
    ∃ field ∈ message.fields, (field.stored? schema message).isSome ∧ Naming.snake field.name = key := by
  simp only [storedNames, List.mem_map, List.mem_filterMap]
  constructor
  · rintro ⟨column, ⟨field, there, stored⟩, rfl⟩
    obtain ⟨type, -, made⟩ := Field.stored?_ok stored
    exact ⟨field, there, by simp [stored], by rw [made]⟩
  · rintro ⟨field, there, stored, rfl⟩
    obtain ⟨column, stored⟩ := Option.isSome_iff_exists.mp stored
    obtain ⟨type, -, made⟩ := Field.stored?_ok stored
    exact ⟨column, ⟨field, there, stored⟩, by rw [made]⟩

/-! ## Foreign keys are their own columns -/

theorem names_of_ownerFields (associations : List Association) :
    (associations.filterMap (·.ownerField?)).map (·.name) =
      (associations.filterMap (·.ownerField?)).map (·.column) := by
  refine List.map_congr_left fun column there => ?_
  obtain ⟨association, -, made⟩ := List.mem_filterMap.mp there
  obtain ⟨foreignKey, _, _, -, rfl⟩ := Association.ownerField?_ok made
  rfl

theorem names_of_childFields (associations : List Association) :
    (associations.filterMap (·.childField?)).map (·.name) =
      (associations.filterMap (·.childField?)).map (·.column) := by
  refine List.map_congr_left fun column there => ?_
  obtain ⟨association, -, made⟩ := List.mem_filterMap.mp there
  obtain ⟨foreignKey, _, _, -, rfl⟩ := Association.childField?_ok made
  rfl

/-- What a site holds is a persisted message under its full name. -/
theorem site_target {site : AssociationField} (h : site ∈ schema.sites keys) :
    site.field.target? schema = some site.target.fullName := by
  obtain ⟨owner, -, field, -, found⟩ := mem_sites.mp h
  obtain ⟨target, held, rfl⟩ := Option.map_eq_some_iff.mp found
  obtain ⟨name, holds, found⟩ := Option.bind_eq_some_iff.mp held
  rw [holds, (Schema.message?_ok found).2]

/-- The foreign key of an embedded message is the name of no field of its owner. -/
theorem Schema.Associated.embedded_apart (distinct : schema.NamesDistinct)
    (associated : schema.Associated keys resolution.associations) (persisted : message ∈ schema.persisted)
    (there : key ∈ ((resolution.ownedBy message.fullName).filterMap (·.ownerField?)).map (·.name)) :
    key ∉ message.storedNames schema := by
  obtain ⟨column, listed, rfl⟩ := List.mem_map.mp there
  obtain ⟨association, owned, made⟩ := List.mem_filterMap.mp listed
  obtain ⟨foreignKey, _, _, link, rfl⟩ := Association.ownerField?_ok made
  obtain ⟨inside, owner⟩ := Resolution.mem_ownedBy.mp owned
  obtain ⟨site, site_there, resolved⟩ := associated.resolved.exists_left inside
  obtain ⟨-, -, site_persisted, -⟩ := site_ok site_there
  obtain rfl : site.owner = message := List.inj_on_of_nodup_map distinct (mem_persisted.mp site_persisted).1
    (mem_persisted.mp persisted).1 (resolved.owner.symm.trans owner)
  have linked := resolved.linked
  rw [link] at linked
  cases linked with
  | embeddedOne _ _ free =>
    intro stored
    obtain ⟨field, declared, -, spelled⟩ := Message.mem_storedNames.mp stored
    simpa [spelled] using List.any_eq_false.mp free field declared

/-- The foreign keys that the records of a child get are those of the declarations. -/
theorem Schema.Associated.mem_childKeys (distinct : schema.NamesDistinct)
    (associated : schema.Associated keys resolution.associations) (persisted : message ∈ schema.persisted) :
    key ∈ ((resolution.childrenOf message.fullName).filterMap (·.childField?)).map (·.name) ↔
      schema.AddsKey message key := by
  have target_of {site : AssociationField} (there : site ∈ schema.sites keys)
      (same : site.target.fullName = message.fullName) : site.target = message := by
    obtain ⟨-, -, -, -, target⟩ := site_ok there
    exact List.inj_on_of_nodup_map distinct (mem_persisted.mp target).1 (mem_persisted.mp persisted).1 same
  constructor
  · intro there
    obtain ⟨column, listed, rfl⟩ := List.mem_map.mp there
    obtain ⟨association, child, made⟩ := List.mem_filterMap.mp listed
    obtain ⟨foreignKey, nullable, ownerKey, link, rfl⟩ := Association.childField?_ok made
    obtain ⟨inside, targeted, -⟩ := Resolution.mem_childrenOf.mp child
    obtain ⟨site, site_there, resolved⟩ := associated.resolved.exists_left inside
    obtain ⟨-, -, owner, declared, -⟩ := site_ok site_there
    have same := target_of site_there (resolved.target.symm.trans targeted)
    have linked := resolved.linked
    rw [link] at linked
    cases linked with
    | hasMany kind _ stored =>
      refine ⟨site.owner, owner, site.field, declared, same ▸ site_target site_there, kind, rfl, ?_⟩
      rcases AssociationField.childKey_ok stored with ⟨absent, -⟩ | ⟨_, _, -, reused, -⟩
      · exact same ▸ absent
      · cases reused
  · rintro ⟨owner, there, field, declared, holds, kind, rfl, absent⟩
    obtain ⟨target, found, site_there⟩ := exists_site keys there declared holds
    obtain rfl := target_of site_there (message?_ok found).2
    obtain ⟨association, inside, resolved⟩ := associated.resolved.exists_right site_there
    have linked := resolved.linked
    generalize link : association.link = l at linked
    cases linked with
    | embeddedOne other => simp [AssociationField.kind_eq, kind] at other
    | manyToMany other => simp [AssociationField.kind_eq, kind] at other
    | @hasMany nullable reused ownerKey _ _ stored =>
      rcases AssociationField.childKey_ok stored with ⟨-, rfl, -⟩ | ⟨existing, -, found, -⟩
      · have child := Resolution.mem_childrenOf.mpr ⟨inside, resolved.target, by rw [link]; rfl⟩
        exact List.mem_map.mpr ⟨_, List.mem_filterMap.mpr ⟨association, child,
          by simp [Association.childField?, link]; rfl⟩, rfl⟩
      · rw [absent] at found
        cases found

/-! ## The fields of a record -/

/-- The names of the fields of a record differ unless two stored fields of the message share a spelling or an
added key has the spelling of a stored field. -/
theorem Schema.RecordOf.names_nodup_iff (own : schema.RecordOf keys resolution message record)
    (distinct : schema.NamesDistinct) (associated : schema.Associated keys resolution.associations)
    (persisted : message ∈ schema.persisted) :
    (record.fields.map (·.name)).Nodup ↔
      (message.storedNames schema).Nodup ∧ ∀ key, schema.AddsKey message key → key ∉ message.storedNames schema := by
  have columns := own.columns
  rw [own.fields, List.append_assoc, List.map_append, List.nodup_append, List.map_append] at columns
  -- the foreign keys differ from each other, since they are columns
  have foreign : (((resolution.ownedBy message.fullName).filterMap (·.ownerField?)).map (·.name) ++
      ((resolution.childrenOf message.fullName).filterMap (·.childField?)).map (·.name)).Nodup := by
    rw [names_of_ownerFields, names_of_childFields]
    exact columns.2.1
  rw [own.fields, List.append_assoc, List.map_append, List.nodup_append, List.map_append]
  constructor
  · rintro ⟨stored, -, apart⟩
    refine ⟨stored, fun key adds inside => apart key inside key (List.mem_append_right _ ?_) rfl⟩
    exact (associated.mem_childKeys distinct persisted).mpr adds
  · rintro ⟨stored, apart⟩
    refine ⟨stored, foreign, ?_⟩
    rintro key inside _ other rfl
    rcases List.mem_append.mp other with embedded | child
    · exact associated.embedded_apart distinct persisted embedded inside
    · exact apart key ((associated.mem_childKeys distinct persisted).mp child) inside

/-! ## The emitted struct -/

/-- The struct of a record declares its fields under their names. -/
theorem Emit.record_fields {scope : Scope} {items : List Item} (h : Emit.record scope = .ok items) :
    ∃ attributes name fields rest, items = .record attributes name fields :: rest ∧
      fields.map (·.1) = scope.record.fields.map fun field => ⟨field.name, Ident.keywords.contains field.name⟩ := by
  unfold Emit.record at h
  obtain ⟨name, -, h⟩ := Except.bind_eq_ok.mp h
  obtain ⟨fields, named, h⟩ := Except.bind_eq_ok.mp h
  obtain ⟨binding, -, h⟩ := Except.bind_eq_ok.mp h
  obtain ⟨joins, -, h⟩ := Except.bind_eq_ok.mp h
  cases h
  refine ⟨_, _, _, _, rfl, ?_⟩
  rw [List.map_map, eq_comm, ← List.forall₂_eq_eq_eq, List.forall₂_map_left_iff, List.forall₂_map_right_iff]
  refine (List.mapM_ok named).imp fun field pair made => ?_
  obtain ⟨ident, found, made⟩ := Except.bind_eq_ok.mp made
  cases made
  exact (Ident.ofText_ok found).2.symm

/-- An identifier is determined by its text, so the struct declares a field twice where a name occurs twice. -/
theorem Emit.record_declares_nodup {scope : Scope} {items : List Item} (h : Emit.record scope = .ok items) :
    ∃ attributes name fields rest, items = .record attributes name fields :: rest ∧
      ((fields.map (·.1)).Nodup ↔ (scope.record.fields.map (·.name)).Nodup) := by
  obtain ⟨attributes, name, fields, rest, made, idents⟩ := record_fields h
  refine ⟨attributes, name, fields, rest, made, ?_⟩
  have by_text : Function.Injective fun text => (⟨text, Ident.keywords.contains text⟩ : Ident) :=
    fun _ _ same => congrArg Ident.text same
  rw [idents, ← List.nodup_map_iff by_text (l := scope.record.fields.map (·.name)), List.map_map]
  rfl

/-- **The names of record fields.** In every record of a schema the columns are different. The names of its
fields, and so the fields that its struct declares, are different exactly if no two stored fields of the message
have one spelling and no foreign key that a has-many association adds has the spelling of a stored field. -/
theorem Schema.fieldNames_nodup_iff (distinct : schema.NamesDistinct) (h : schema.models = .ok models) :
    ∀ record ∈ models.records, ∃ message ∈ schema.persisted, record.message = message.fullName ∧
      (record.fields.map (·.column)).Nodup ∧
      ((record.fields.map (·.name)).Nodup ↔ (message.storedNames schema).Nodup ∧
        ∀ key, schema.AddsKey message key → key ∉ message.storedNames schema) ∧
      ∀ scope items, scope.record = record → Emit.record scope = .ok items →
        ∃ attributes name fields rest, items = .record attributes name fields :: rest ∧
          ((fields.map (·.1)).Nodup ↔ (record.fields.map (·.name)).Nodup) := by
  obtain ⟨keys, -, associated, -, built⟩ := models_ok h
  intro record there
  obtain ⟨message, listed, own⟩ := built.exists_left there
  obtain ⟨name, ordered, found⟩ := List.mem_filterMap.mp listed
  obtain ⟨persisted, inside, named⟩ := List.mem_map.mp ((models_order h).mem_iff.mp ordered)
  obtain ⟨declared, rfl⟩ := message?_ok found
  obtain rfl := List.inj_on_of_nodup_map distinct (mem_persisted.mp inside).1 declared named
  refine ⟨persisted, inside, own.named, own.columns, own.names_nodup_iff distinct associated inside, ?_⟩
  rintro scope items rfl emitted
  exact Emit.record_declares_nodup emitted

/-! ## A comment with a number -/

namespace Schema

/-- A comment with a number, which is stored in a column of another name. -/
def numberedComment (name : String) : Message :=
  keyedMessage "Comment" [{ plainField name (.scalar .uint64) with column := some "number" }]

/-- Posts with such comments, whose records get the foreign key `post_id`. -/
def numberedBlog (name : String) : Schema :=
  ofMessages [numberedComment name,
    keyedMessage "Post" [{ plainField "comments" (.message "blog.Comment") with repeated := true }]]

/-- The columns and the names of the record of a comment. -/
def numberedFields? (name : String) : Option (List String × List String) := do
  let models ← (numberedBlog name).models.toOption
  let record ← models.record? "blog.Comment"
  return (record.fields.map (·.column), record.fields.map (·.name))

theorem numberedFields?_ok {name : String} {columns names : List String}
    (h : numberedFields? name = some (columns, names)) :
    ∃ models record, (numberedBlog name).models = .ok models ∧ record ∈ models.records ∧
      record.message = "blog.Comment" ∧ record.fields.map (·.column) = columns ∧
      record.fields.map (·.name) = names := by
  unfold numberedFields? at h
  obtain ⟨models, built, h⟩ := Option.bind_eq_some_iff.mp h
  obtain ⟨record, found, h⟩ := Option.bind_eq_some_iff.mp h
  cases h
  exact ⟨models, record, Except.toOption_eq_some.mp built, List.mem_of_find?_eq_some found,
    by simpa using List.find?_some found, rfl, rfl⟩

theorem fieldNames_nodup_ordinal :
    ∃ models record, (numberedBlog "Ordinal").models = .ok models ∧ record ∈ models.records ∧
      record.fields.map (·.column) = ["id", "number", "post_id"] ∧ (record.fields.map (·.name)).Nodup ∧
      ∀ key, (numberedBlog "Ordinal").AddsKey (numberedComment "Ordinal") key → key ∉ ["id", "ordinal"] := by
  have distinct : (numberedBlog "Ordinal").NamesDistinct := by decide +kernel
  have fields : numberedFields? "Ordinal" = some (["id", "number", "post_id"], ["id", "ordinal", "post_id"]) := by
    decide +kernel
  obtain ⟨models, record, built, there, named, columns, names⟩ := numberedFields?_ok fields
  obtain ⟨message, persisted, of_message, -, nodup, -⟩ := fieldNames_nodup_iff distinct built record there
  obtain rfl : message = numberedComment "Ordinal" := List.inj_on_of_nodup_map distinct
    (mem_persisted.mp persisted).1 (by decide +kernel) (of_message.symm.trans named)
  have apart : (record.fields.map (·.name)).Nodup := by
    rw [names]
    decide
  have stored : (numberedComment "Ordinal").storedNames (numberedBlog "Ordinal") = ["id", "ordinal"] := by
    decide +kernel
  have unused := (nodup.mp apart).2
  rw [stored] at unused
  exact ⟨models, record, built, there, columns, apart, unused⟩

/-- A field `PostId` is spelled as the foreign key; since its column is named otherwise, both are accepted. -/
theorem fieldNames_clash :
    (numberedBlog "PostId").NamesDistinct ∧
    ∃ models record, (numberedBlog "PostId").models = .ok models ∧ record ∈ models.records ∧
      record.fields.map (·.column) = ["id", "number", "post_id"] ∧
      record.fields.map (·.name) = ["id", "post_id", "post_id"] ∧ ¬ (record.fields.map (·.name)).Nodup := by
  have distinct : (numberedBlog "PostId").NamesDistinct := by decide +kernel
  have fields : numberedFields? "PostId" = some (["id", "number", "post_id"], ["id", "post_id", "post_id"]) := by
    decide +kernel
  obtain ⟨models, record, built, there, -, columns, names⟩ := numberedFields?_ok fields
  exact ⟨distinct, models, record, built, there, columns, names, by rw [names]; decide⟩

end Schema

end ProtoStore
