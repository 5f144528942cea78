import ProtoStore.Proofs.Schema.Joins
import ProtoStore.Proofs.Schema.Plurals

/-!
# The tables of a schema

Messages and many-to-many fields may name their tables; the others get one from their names. Nothing keeps these
tables apart.

* `Message.declaredTables` : the tables that a message and its fields ask for;
* `Schema.models_messages` : the records of a schema are those of its persisted messages;
* `Schema.tables_nodup_iff` : the tables of records and join records are those asked for, and differ only if these
  do.
-/

namespace ProtoStore

variable {schema : Schema} {keys : Keys} {message : Message} {models : Models} {resolution : Resolution}
  {record : RecordModel}

/-- The table of a message. -/
def Message.declaredTable (message : Message) : String := message.table.getD (Naming.tableName message.name)

/-- The tables of a message and of its join records. -/
def Message.declaredTables (schema : Schema) (message : Message) : List String :=
  message.declaredTable :: (message.fields.filter (·.isShared schema)).map (·.joinTable message)

/-- The tables of a record and of the join records it owns. -/
def RecordModel.tables (record : RecordModel) : List String := record.table :: record.joins.map (·.table)

/-- The tables of all records. -/
def Models.tables (models : Models) : List String := models.records.flatMap (·.tables)

namespace Schema

/-- The tables of a record are those its message asks for. -/
theorem record_tables (distinct : schema.NamesDistinct) (persisted : message ∈ schema.persisted)
    (resolved : schema.resolve keys = .ok resolution)
    (built : schema.recordOf keys resolution message = .ok record) :
    record.tables = message.declaredTables schema := by
  obtain ⟨-, -, -, table, -⟩ := recordOf_copies built
  have joins : record.joins.map (·.table) = (message.fields.filter (·.isShared schema)).map (·.joinTable message) :=
    map_joins distinct persisted resolved built fun site join owner joins => owner ▸ joins.table
  rw [RecordModel.tables, joins, table]
  rfl

/-- The records of a schema are those of its persisted messages. -/
theorem models_messages (distinct : schema.NamesDistinct) (h : schema.models = .ok models) :
    (models.resolution.order.filterMap schema.message?).Perm schema.persisted := by
  have listed := (models_order h).filterMap schema.message?
  have found : (schema.persisted.map (·.fullName)).filterMap schema.message? = schema.persisted := by
    rw [List.filterMap_map]
    exact (List.filterMap_congr fun message there => message?_of_mem distinct (mem_persisted.mp there).1).trans
      List.filterMap_some
  rwa [found] at listed

/-- The tables of the models are those that the messages ask for. -/
theorem models_tables (distinct : schema.NamesDistinct) (h : schema.models = .ok models) :
    List.Forall₂ (fun message record => record.message = message.fullName ∧
        record.tables = message.declaredTables schema)
      (models.resolution.order.filterMap schema.message?) models.records := by
  obtain ⟨keys, -, resolved, built⟩ := models_built h
  refine List.forall₂_iff_get.mpr ⟨built.length_eq, fun i inside there => ?_⟩
  have record := built.get inside there
  have persisted := (models_messages distinct h).mem_iff.mp (List.getElem_mem inside)
  exact ⟨(recordOf_ok record).named, record_tables distinct persisted resolved record⟩

/-- **The tables of a schema.** The record of a message and the join records it owns have the tables that the
message and its fields name or get from their names. All tables of a schema are different exactly if these are.
Two messages that name none get one table exactly if the plurals of their snake-case names are the same. -/
theorem tables_nodup_iff (distinct : schema.NamesDistinct) (h : schema.models = .ok models) :
    (∀ record ∈ models.records, ∃ message ∈ schema.persisted, record.message = message.fullName ∧
      record.tables = message.declaredTables schema) ∧
    (models.tables.Nodup ↔ (schema.persisted.flatMap (·.declaredTables schema)).Nodup) ∧
    ∀ one ∈ schema.persisted, ∀ other ∈ schema.persisted, one.table = none → other.table = none →
      (one.declaredTable = other.declaredTable ↔
        Naming.SamePlural (Text.snakeCase one.name) (Text.snakeCase other.name)) := by
  have tables := models_tables distinct h
  have messages := models_messages distinct h
  refine ⟨fun record there => ?_, ?_, ?_⟩
  · obtain ⟨message, listed, declared⟩ := tables.exists_left there
    exact ⟨message, messages.mem_iff.mp listed, declared⟩
  · have same : models.records.map (·.tables) =
        (models.resolution.order.filterMap schema.message?).map (·.declaredTables schema) := by
      rw [← List.forall₂_eq_eq_eq, List.forall₂_map_left_iff, List.forall₂_map_right_iff]
      exact (tables.imp fun message record declared => declared.2).flip
    rw [Models.tables, List.flatMap_def, same, ← List.flatMap_def]
    exact (messages.flatMap_right _).nodup_iff
  · intro one _ other _ one_default other_default
    simp only [Message.declaredTable, one_default, other_default, Option.getD_none, Naming.tableName]
    exact Naming.pluralize_eq_iff

/-! ## Posts with tags -/

/-- The tags of a post, which other posts may have too. -/
def tagsField : Field :=
  { plainField "tags" (.message "blog.Tag") with
    repeated := true, association := some ⟨some .manyToMany, .default, none, none, none, none⟩ }

/-- Posts with tags, and a message with another name. -/
def taggedBlog (name : String) : Schema :=
  ofMessages [keyedMessage "Tag" [], keyedMessage name [], keyedMessage "Post" [tagsField]]

/-- The tables of the tagged blog, if it has models. -/
def taggedTables? (name : String) : Option (List String) := do
  return (← (taggedBlog name).models.toOption).tables

theorem taggedTables?_ok {name : String} {tables : List String} (h : taggedTables? name = some tables) :
    ∃ models, (taggedBlog name).models = .ok models ∧ models.tables = tables := by
  unfold taggedTables? at h
  obtain ⟨models, built, h⟩ := Option.bind_eq_some_iff.mp h
  exact ⟨models, Except.toOption_eq_some.mp built, Option.some.inj h⟩

theorem tables_nodup_label :
    ∃ models, (taggedBlog "Label").models = .ok models ∧ models.tables.Nodup ∧
      ¬ Naming.SamePlural "tag" "label" := by
  have tables : taggedTables? "Label" = some ["tags", "labels", "posts", "post_tags"] := by decide +kernel
  obtain ⟨models, built, -⟩ := taggedTables?_ok tables
  obtain ⟨-, nodup, plurals⟩ := tables_nodup_iff (by decide +kernel : (taggedBlog "Label").NamesDistinct) built
  have tag : keyedMessage "Tag" [] ∈ (taggedBlog "Label").persisted := by decide +kernel
  have label : keyedMessage "Label" [] ∈ (taggedBlog "Label").persisted := by decide +kernel
  have different : (keyedMessage "Tag" []).declaredTable ≠ (keyedMessage "Label" []).declaredTable := by
    decide +kernel
  have spelled : Text.snakeCase "Tag" = "tag" ∧ Text.snakeCase "Label" = "label" := by decide +kernel
  refine ⟨models, built, nodup.mpr (by decide +kernel), fun same => different ?_⟩
  exact (plurals _ tag _ label rfl rfl).mpr (spelled.1 ▸ spelled.2 ▸ same)

/-- The plural of `post_tag` is the table in which posts and tags are joined. -/
theorem tables_shared_by_join :
    (taggedBlog "PostTag").NamesDistinct ∧ ∃ models, (taggedBlog "PostTag").models = .ok models ∧
      models.tables = ["tags", "post_tags", "posts", "post_tags"] ∧ ¬ models.tables.Nodup := by
  have tables : taggedTables? "PostTag" = some ["tags", "post_tags", "posts", "post_tags"] := by decide +kernel
  obtain ⟨models, built, same⟩ := taggedTables?_ok tables
  exact ⟨by decide +kernel, models, built, same, by rw [same]; decide⟩

end Schema

end ProtoStore
