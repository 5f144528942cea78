import ProtoStore.Proofs.Emit.Clashes
import ProtoStore.Proofs.Emit.Rendering
import ProtoStore.Proofs.Schema.FieldNames
import ProtoStore.Proofs.Schema.Tables

/-!
# What files declare

Each file that is asked for and has persisted messages gets an output file with the items of these messages. Nothing
keeps the names of the items apart, and the code that is made is only parsed.

* `Schema.isKeyed_of_keys`, `Schema.hasAssociations_of_fields` : what is generated for a message, read off the schema;
* `Schema.scope_itemNames` : the code of a message has the names that the message gives;
* `Schema.fileScopes_messages` : the messages of a file are those it declares;
* `Schema.itemNames_nodup_iff` : so the items of a file have different names exactly if its messages give them.
-/

namespace ProtoStore

variable {schema : Schema} {keys : Keys} {message : Message} {models : Models} {config : Config} {scope : Scope}
  {name : String} {file : SchemaFile}

namespace Schema

/-! ## What is generated for a message -/

/-- A persisted message is stored with a key exactly if it has one. -/
theorem isKeyed_of_keys (distinct : schema.NamesDistinct) (keyed : schema.keys = .ok keys)
    (persisted : message ∈ schema.persisted) : (keys.find? message.fullName).isSome = message.isKeyed := by
  have declared := (mem_persisted.mp persisted).1
  rw [Bool.eq_iff_iff]
  constructor
  · intro found
    obtain ⟨key, found⟩ := Option.isSome_iff_exists.mp found
    obtain ⟨own, own_persisted, named, primary⟩ := keys_ok keyed found
    obtain rfl := List.inj_on_of_nodup_map distinct (mem_persisted.mp own_persisted).1 declared named
    simp [Message.isKeyed, primary]
  · intro has
    obtain ⟨key, primary⟩ : ∃ key, message.primaryKey = .ok (some key) := by
      unfold Message.isKeyed at has
      split at has
      · next key primary => exact ⟨key, primary⟩
      · cases has
    unfold Schema.keys at keyed
    obtain ⟨all, mapped, made⟩ := Except.bind_eq_ok.mp keyed
    obtain ⟨entry, listed, built⟩ := (List.mapM_ok mapped).exists_right persisted
    rw [primary] at built
    cases built
    cases made
    rw [Option.isSome_iff_ne_none]
    intro missing
    have unlike := List.lookup_eq_none_iff.mp missing (message.fullName, key)
      (List.mem_reverse.mpr (List.mem_filterMap.mpr ⟨_, listed, rfl⟩))
    simp at unlike

/-- A message has associations with messages that have keys exactly if one of its fields is associated. -/
theorem hasAssociations_of_fields (distinct : schema.NamesDistinct) (built : schema.models = .ok models)
    (found : schema.scope? config models name = some scope) (persisted : scope.message ∈ schema.persisted) :
    scope.associations.any (·.2.primaryKey.isSome) =
      scope.message.fields.any fun field => (field.target? schema).isSome := by
  obtain ⟨keys, keyed, resolved, made, -⟩ := scope_record built found
  obtain ⟨-, same_models, -, -⟩ := scope?_ok found
  rw [Bool.eq_iff_iff, List.any_eq_true, List.any_eq_true]
  constructor
  · rintro ⟨⟨association, target⟩, there, -⟩
    obtain ⟨listed, -⟩ := Scope.mem_associations there
    obtain ⟨inside, owner⟩ := (recordOf_associations made).mp listed
    obtain ⟨site, site_there, earlier, site_resolved⟩ := (resolve_each resolved).exists_left inside
    obtain ⟨-, -, site_persisted, declared, -⟩ := site_ok site_there
    have same : site.owner = scope.message := List.inj_on_of_nodup_map distinct (mem_persisted.mp site_persisted).1
      (mem_persisted.mp persisted).1 ((AssociationField.resolve_ok site_resolved).1.owner.symm.trans owner)
    exact ⟨site.field, same ▸ declared, by simp [site_target site_there]⟩
  · rintro ⟨field, declared, holds⟩
    obtain ⟨name, targeted⟩ := Option.isSome_iff_exists.mp holds
    obtain ⟨target, -, site_there⟩ := exists_site keys persisted declared targeted
    obtain ⟨association, inside, earlier, site_resolved⟩ := (resolve_each resolved).exists_right site_there
    have own := (AssociationField.resolve_ok site_resolved).1
    obtain ⟨-, -, -, -, target_persisted⟩ := site_ok site_there
    obtain ⟨record, record_found⟩ := exists_record built target_persisted
    obtain ⟨own_keys, other, own_keyed, -, other_found, record_made⟩ := record?_built built record_found
    obtain rfl : keys = own_keys := Except.ok.inj (keyed.symm.trans own_keyed)
    obtain ⟨key, key_found⟩ := AssociationField.targetKey_of_resolve site_resolved
    have listed := (recordOf_associations made).mpr ⟨inside, own.owner⟩
    refine ⟨(association, record), List.mem_filterMap.mpr ⟨association, listed, ?_⟩, ?_⟩
    · rw [same_models, own.target, record_found]
      rfl
    · rw [(recordOf_ok record_made).primaryKey, (message?_ok other_found).2, key_found]
      rfl

/-- The record of a message has its name, a join record for each of its shared fields, and a key if it has one. -/
theorem scope_record_names (distinct : schema.NamesDistinct) (built : schema.models = .ok models)
    (found : schema.scope? config models name = some scope) (persisted : scope.message ∈ schema.persisted) :
    scope.record.name = scope.message.name ∧ scope.record.joins.map (·.name) = scope.message.joinNames schema ∧
      scope.record.primaryKey.isSome = scope.message.isKeyed := by
  obtain ⟨keys, keyed, resolved, made, -⟩ := scope_record built found
  refine ⟨(recordOf_copies made).1, ?_, ?_⟩
  · exact map_joins distinct persisted resolved made fun site join owner joins => owner ▸ joins.name
  · rw [(recordOf_ok made).primaryKey, isKeyed_of_keys distinct keyed persisted]

/-- The code of a message has the names that the message gives. -/
theorem scope_itemNames (distinct : schema.NamesDistinct) (built : schema.models = .ok models)
    (found : schema.scope? config models name = some scope) (persisted : scope.message ∈ schema.persisted) :
    scope.record.name = scope.message.name ∧ scope.itemNames = scope.message.itemNames schema := by
  obtain ⟨named, joins, keyed⟩ := scope_record_names distinct built found persisted
  have affixes : scope.affixes = scope.message.affixes schema := by
    unfold Scope.affixes Message.affixes
    rw [hasAssociations_of_fields distinct built found persisted, ← keyed]
    cases scope.record.primaryKey <;> rfl
  refine ⟨named, ?_⟩
  rw [Scope.itemNames, joins, affixes]
  rfl

/-! ## The messages of a file -/

/-- The persisted messages that a file declares. -/
def messagesOf (schema : Schema) (file : SchemaFile) : List Message := schema.persisted.filter (·.file == file.name)

/-- The files that are asked for and have persisted messages. -/
def emittedFiles (schema : Schema) : List SchemaFile :=
  schema.files.filter fun file => !(schema.messagesOf file).isEmpty && file.generate

theorem fileScopes_messages (distinct : schema.NamesDistinct) (built : schema.models = .ok models) (config : Config)
    (file : SchemaFile) :
    ((Emit.fileScopes schema config models file).map (·.message)).Perm (schema.messagesOf file) := by
  have ordered := models_order built
  have each : (Emit.fileScopes schema config models file).map (·.message) =
      (models.resolution.order.filterMap schema.message?).filter (·.file == file.name) := by
    rw [Emit.fileScopes, List.map_filterMap, List.filter_filterMap]
    refine List.filterMap_congr fun name listed => ?_
    obtain ⟨message, persisted, rfl⟩ := List.mem_map.mp (ordered.mem_iff.mp listed)
    obtain ⟨record, record_found⟩ := exists_record built persisted
    have found := message?_of_mem distinct (mem_persisted.mp persisted).1
    by_cases own : message.file = file.name <;> simp [scope?, found, record_found, own, Option.filter_some]
  rw [each]
  exact (models_messages distinct built).filter _

/-- The file of a schema file has the names that its messages give. -/
theorem fileOf_names (distinct : schema.NamesDistinct) (built : schema.models = .ok models)
    {found : Option GeneratedFile} (h : Emit.fileOf schema config models file = .ok found) :
    schema.messagesOf file = [] ∧ found = none ∨ schema.messagesOf file ≠ [] ∧ ∃ output, found = some output ∧
      output.name = config.outputName file.name ∧
      (Item.names output.items).Perm ((schema.messagesOf file).flatMap (·.itemNames schema)) := by
  have messages := fileScopes_messages distinct built config file
  obtain ⟨items, emitted, ⟨none, rfl⟩ | ⟨some, -, -, -, rfl⟩⟩ := Emit.fileOf_eq_ok.mp h
  · rw [none] at messages
    exact .inl ⟨messages.nil_eq.symm, rfl⟩
  · have declares : schema.messagesOf file ≠ [] := by
      intro empty
      rw [empty] at messages
      exact some (List.map_eq_nil_iff.mp messages.eq_nil)
    refine .inr ⟨declares, _, rfl, rfl, ?_⟩
    have names : items.map Item.names =
        (Emit.fileScopes schema config models file).map (·.message.itemNames schema) := by
      refine List.map_of_mapM emitted fun scope inside own made => ?_
      obtain ⟨name, -, found, -⟩ := mem_fileScopes.mp inside
      have persisted := List.mem_of_mem_filter (messages.mem_iff.mp (List.mem_map_of_mem inside))
      obtain ⟨named, given⟩ := scope_itemNames distinct built found persisted
      rw [Emit.messageItems_names named made, given]
    rw [Item.names_flatten, List.flatMap_def, names, ← List.flatMap_def, ← List.flatMap_map]
    exact messages.flatMap_right _

/-- The output files are those of the files that are asked for and have persisted messages, and declare the names
that these give. -/
theorem generate_names (distinct : schema.NamesDistinct) {files : List GeneratedFile}
    (generated : schema.generate config = .ok files) :
    List.Forall₂ (fun file output => output.name = config.outputName file.name ∧
        (Item.names output.items).Perm ((schema.messagesOf file).flatMap (·.itemNames schema)))
      schema.emittedFiles files := by
  obtain ⟨models, built⟩ := models_of_generate generated
  refine outputs_of_generate built (fun file _ found made => ?_) generated
  rcases fileOf_names distinct built made with ⟨none, rfl⟩ | ⟨some, output, rfl, holds⟩
  · exact .inl ⟨by simp [none], rfl⟩
  · exact .inr ⟨by simp [some], output, rfl, holds⟩

/-- **The names of items.** The output files are those of the files that are asked for and have persisted messages.
The items of a file have the names that its messages give, and different ones exactly if its messages have different
names in both spellings, their join records have different names, and no message that has a key is named as the set
of another one. -/
theorem itemNames_nodup_iff (distinct : schema.NamesDistinct) {files : List GeneratedFile}
    (generated : schema.generate config = .ok files) :
    List.Forall₂ (fun file output => output.name = config.outputName file.name ∧
        (Item.names output.items).Perm ((schema.messagesOf file).flatMap (·.itemNames schema)) ∧
        ((Item.names output.items).Nodup ↔ SpelledApart (schema.messagesOf file) ∧
          ((schema.messagesOf file).flatMap (·.joinNames schema)).Nodup ∧
          ∀ one ∈ schema.messagesOf file, ∀ other ∈ schema.messagesOf file, one.isKeyed = true →
            other.isKeyed = true → ¬ Naming.IsSetOf (Text.snakeCase one.name) (Text.snakeCase other.name)))
      schema.emittedFiles files :=
  (generate_names distinct generated).imp fun _ _ ⟨named, names⟩ =>
    ⟨named, names, names.nodup_iff.trans Message.names_nodup_iff⟩

/-- Without a parameter, a lettered schema that has models has outputs if the keys that it writes name fields. -/
theorem outputs_of_named (lettered : schema.Lettered) (modelled : schema.models.toOption.isSome = true)
    (named : ∀ entry ∈ schema.writtenKeys, Ident.Names entry.2) :
    ∃ outputs, schema.generate .default = .ok outputs := by
  obtain ⟨models, found⟩ := Option.isSome_iff_exists.mp modelled
  have parsed : Config.parse "" = .ok .default := rfl
  exact files_of_written lettered (Except.toOption_eq_some.mp found) (Config.parse_neat parsed)
    (fun _ => ⟨by decide +kernel, by decide +kernel⟩) fun entry written _ => canWrite_of_names (named entry written)

/-! ## Posts with tags -/

theorem taggedBlog_generated (name : String) (lettered : (taggedBlog name).Lettered)
    (tables : (taggedTables? name).isSome = true)
    (named : ∀ entry ∈ (taggedBlog name).writtenKeys, Ident.Names entry.2) :
    ∃ files, (taggedBlog name).generate .default = .ok files := by
  obtain ⟨tables, found⟩ := Option.isSome_iff_exists.mp tables
  obtain ⟨models, built, -⟩ := taggedTables?_ok found
  exact outputs_of_named lettered (by rw [built]; rfl) named

theorem taggedBlog_file (name : String) (h : (taggedBlog name).emittedFiles = (taggedBlog name).files)
    {R : SchemaFile → GeneratedFile → Prop} {files : List GeneratedFile}
    (each : List.Forall₂ R (taggedBlog name).emittedFiles files) :
    ∃ file ∈ (taggedBlog name).files, ∃ output, files = [output] ∧ R file output := by
  rw [h] at each
  cases each with
  | cons first rest =>
    cases rest
    exact ⟨_, List.mem_cons_self, _, rfl, first⟩

theorem itemNames_nodup_label : (taggedBlog "Label").NamesDistinct ∧
    ∃ output, (taggedBlog "Label").generate .default = .ok [output] ∧ (Item.names output.items).Nodup ∧
      "PostTagsJoin" ∈ Item.names output.items ∧ "load_post_associations" ∈ Item.names output.items := by
  have distinct : (taggedBlog "Label").NamesDistinct := by decide +kernel
  obtain ⟨files, generated⟩ :=
    taggedBlog_generated "Label" (by decide +kernel) (by decide +kernel) (by decide +kernel)
  obtain ⟨file, there, output, rfl, -, names, nodup⟩ :=
    taggedBlog_file "Label" (by decide +kernel) (itemNames_nodup_iff distinct generated)
  have spelled : ∀ file ∈ (taggedBlog "Label").files, SpelledApart ((taggedBlog "Label").messagesOf file) ∧
      (((taggedBlog "Label").messagesOf file).flatMap (·.joinNames (taggedBlog "Label"))).Nodup := by decide +kernel
  have sets : ∀ file ∈ (taggedBlog "Label").files, ∀ one ∈ (taggedBlog "Label").messagesOf file,
      ∀ other ∈ (taggedBlog "Label").messagesOf file,
        ¬ Naming.IsSetOf (Text.snakeCase one.name) (Text.snakeCase other.name) := by decide +kernel
  have declared : ∀ file ∈ (taggedBlog "Label").files, ∀ name ∈ ["PostTagsJoin", "load_post_associations"],
      name ∈ ((taggedBlog "Label").messagesOf file).flatMap (·.itemNames (taggedBlog "Label")) := by decide +kernel
  obtain ⟨apart, joins⟩ := spelled file there
  refine ⟨distinct, output, generated, nodup.mpr ⟨apart, joins, fun one inside other within _ _ => ?_⟩, ?_, ?_⟩
  · exact sets file there one inside other within
  · exact names.mem_iff.mpr (declared file there _ List.mem_cons_self)
  · exact names.mem_iff.mpr (declared file there _ (List.mem_cons_of_mem _ List.mem_cons_self))

/-- The deletion of the set of tags has the name of the deletion of a tag set. -/
theorem itemNames_clash : (taggedBlog "TagSet").NamesDistinct ∧
    (∀ file ∈ (taggedBlog "TagSet").files, SpelledApart ((taggedBlog "TagSet").messagesOf file)) ∧
    ∃ output, (taggedBlog "TagSet").generate .default = .ok [output] ∧
      (Item.names output.items).count "default_delete_tag_set" = 2 ∧ ¬ (Item.names output.items).Nodup := by
  have distinct : (taggedBlog "TagSet").NamesDistinct := by decide +kernel
  obtain ⟨files, generated⟩ :=
    taggedBlog_generated "TagSet" (by decide +kernel) (by decide +kernel) (by decide +kernel)
  obtain ⟨file, there, output, rfl, -, names⟩ :=
    taggedBlog_file "TagSet" (by decide +kernel) (generate_names distinct generated)
  have counts : ∀ file ∈ (taggedBlog "TagSet").files,
      (((taggedBlog "TagSet").messagesOf file).flatMap (·.itemNames (taggedBlog "TagSet"))).count
        "default_delete_tag_set" = 2 := by decide +kernel
  have twice := (names.count_eq "default_delete_tag_set").trans (counts file there)
  refine ⟨distinct, by decide +kernel, output, generated, twice, fun nodup => ?_⟩
  have once := List.nodup_iff_count_le_one.mp nodup "default_delete_tag_set"
  omega

end Schema

end ProtoStore
