import ProtoStore.Proofs.Emit.Declarations

/-!
# What is put out

The outputs are found by going through the order of the models once for each file. Where files have different names
and messages carry that of their file, this visits every message of the file, and no other.

* `Schema.ItemsOf` : the items of a message, with its structs and its operations;
* `Schema.filter_messages` : the messages that carry the name of a file are those it declares;
* `Schema.fileScopes_sublist` : the messages of a file come in the order of the models;
* `Schema.OutputFor` : what the output of a file holds;
* `Schema.emitted_once` : the outputs are those of the files that are asked for and have persisted messages.
-/

namespace ProtoStore

variable {schema : Schema} {models : Models} {config : Config} {scope : Scope} {name : String} {file : SchemaFile}
  {files : List SchemaFile} {items : List Item} {outputs : List GeneratedFile}

namespace Schema

/-! ## The items of a message -/

/-- The items of a message are those made for it. They have one struct for it and one for each field that is
associated many to many, and the eight operations if it has a primary key. -/
structure ItemsOf (schema : Schema) (config : Config) (models : Models) (message : Message) (items : List Item) :
    Prop where
  made : ∃ scope, schema.scope? config models message.fullName = some scope ∧ scope.message = message ∧
    Emit.messageItems scope = .ok items
  structs : Item.namesOf .record items = message.recordName :: message.joinNames schema
  operations : Item.namesOf .operation items =
    if message.isKeyed then Affixes.operations.map (·.around (Text.snakeCase message.name)) else []

theorem itemsOf_scope (distinct : schema.NamesDistinct) (built : schema.models = .ok models)
    (found : schema.scope? config models name = some scope) (persisted : scope.message ∈ schema.persisted)
    (made : Emit.messageItems scope = .ok items) : schema.ItemsOf config models scope.message items := by
  obtain ⟨named, joins, keyed⟩ := scope_record_names distinct built found persisted
  obtain ⟨-, -, message_found, -⟩ := scope?_ok found
  obtain rfl : scope.message.fullName = name := (message?_ok message_found).2
  refine ⟨⟨scope, found, rfl, made⟩, ?_, ?_⟩
  · rw [Emit.messageItems_records made, named, joins]
    rfl
  · rw [Emit.messageItems_operations made, named, keyed]

/-! ## The messages of a file -/

/-- Files with different names, which their messages carry. -/
structure Placed (schema : Schema) : Prop where
  names : (schema.files.map (·.name)).Nodup
  carried : ∀ file ∈ schema.files, ∀ message ∈ file.messages, message.file = file.name

/-- The messages that carry the name of a file are those that it declares. -/
theorem filter_messages (names : (files.map (·.name)).Nodup)
    (carried : ∀ file ∈ files, ∀ message ∈ file.messages, message.file = file.name) (there : file ∈ files) :
    (files.flatMap (·.messages)).filter (·.file == file.name) = file.messages := by
  induction files with
  | nil => cases there
  | cons first rest ih =>
    obtain ⟨fresh, rest_names⟩ := List.nodup_cons.mp names
    obtain ⟨first_carried, rest_carried⟩ := List.forall_mem_cons.mp carried
    rw [List.flatMap_cons, List.filter_append]
    rcases List.mem_cons.mp there with rfl | later
    · -- no message of the other files carries the name of this one
      have own : file.messages.filter (·.file == file.name) = file.messages :=
        List.filter_eq_self.mpr fun message declared => by simp [first_carried message declared]
      have others : (rest.flatMap (·.messages)).filter (·.file == file.name) = [] := by
        refine List.filter_eq_nil_iff.mpr fun message declared same => fresh ?_
        obtain ⟨other, listed, inside⟩ := List.mem_flatMap.mp declared
        have named : other.name = file.name :=
          (rest_carried other listed message inside).symm.trans (beq_iff_eq.mp same)
        exact List.mem_map.mpr ⟨other, listed, named⟩
      rw [own, others, List.append_nil]
    · have none : first.messages.filter (·.file == file.name) = [] := by
        refine List.filter_eq_nil_iff.mpr fun message declared same => fresh ?_
        have named : file.name = first.name := (beq_iff_eq.mp same).symm.trans (first_carried message declared)
        exact List.mem_map.mpr ⟨file, later, named⟩
      rw [none, List.nil_append, ih rest_names rest_carried later]

theorem Placed.messagesOf (placed : schema.Placed) (there : file ∈ schema.files) :
    schema.messagesOf file = file.messages.filter (·.persisted) := by
  rw [Schema.messagesOf, persisted, List.filter_comm, messages, filter_messages placed.names placed.carried there]

/-- The messages of a file come in the order of the models. -/
theorem fileScopes_sublist (schema : Schema) (config : Config) (models : Models) (file : SchemaFile) :
    ((Emit.fileScopes schema config models file).map (·.message.fullName)).Sublist models.resolution.order := by
  have kept : (Emit.fileScopes schema config models file).map (·.message.fullName) =
      models.resolution.order.filter fun name =>
        ((schema.scope? config models name).filter (·.message.file == file.name)).isSome := by
    rw [Emit.fileScopes, List.map_filterMap, ← List.filterMap_eq_filter]
    refine List.filterMap_congr fun name _ => ?_
    cases own : (schema.scope? config models name).filter (·.message.file == file.name) with
    | none => exact (Option.guard_eq_none_iff.mpr (by rw [own]; rfl)).symm
    | some scope =>
      obtain ⟨-, -, found, -⟩ := scope?_ok (Option.filter_eq_some_iff.mp own).1
      exact (Option.guard_eq_some_iff.mpr ⟨(message?_ok found).2.symm, by rw [own]; rfl⟩).symm
  rw [kept]
  exact List.filter_sublist

/-! ## The outputs -/

/-- The output of a file holds the items of its persisted messages: of each once, and in the order of the models. -/
structure OutputFor (schema : Schema) (config : Config) (models : Models) (file : SchemaFile)
    (output : GeneratedFile) : Prop where
  name : output.name = config.outputName file.name
  header : output.header = Emit.header file.name
  items : ∃ messages parts, messages.Perm (file.messages.filter (·.persisted)) ∧
    (messages.map (·.fullName)).Sublist models.resolution.order ∧
    List.Forall₂ (schema.ItemsOf config models) messages parts ∧ output.items = parts.flatten

theorem fileOf_output (distinct : schema.NamesDistinct) (placed : schema.Placed) (built : schema.models = .ok models)
    (there : file ∈ schema.files) {found : Option GeneratedFile}
    (h : Emit.fileOf schema config models file = .ok found) :
    file.messages.any (·.persisted) = false ∧ found = none ∨
      file.messages.any (·.persisted) = true ∧ ∃ output, found = some output ∧
        schema.OutputFor config models file output := by
  have visited := fileScopes_messages distinct built config file
  have declared := placed.messagesOf there
  obtain ⟨parts, emitted, ⟨none, rfl⟩ | ⟨some, -, -, -, rfl⟩⟩ := Emit.fileOf_eq_ok.mp h
  · rw [none, declared] at visited
    refine .inl ⟨?_, rfl⟩
    simpa using visited.nil_eq.symm
  · have each : List.Forall₂ (schema.ItemsOf config models)
        ((Emit.fileScopes schema config models file).map (·.message)) parts := by
      rw [List.forall₂_map_left_iff]
      refine ((List.forall₂_and_left _ _).mpr ⟨fun scope inside => inside, List.mapM_ok emitted⟩).imp ?_
      rintro scope items ⟨inside, made⟩
      obtain ⟨name, -, found, -⟩ := mem_fileScopes.mp inside
      have persisted := List.mem_of_mem_filter (visited.mem_iff.mp (List.mem_map_of_mem inside))
      exact itemsOf_scope distinct built found persisted made
    rw [declared] at visited
    obtain ⟨scope, inside⟩ := List.exists_mem_of_ne_nil _ some
    have own := visited.mem_iff.mp (List.mem_map_of_mem inside)
    have ordered := fileScopes_sublist schema config models file
    refine .inr ⟨List.any_eq_true.mpr ⟨scope.message, List.mem_filter.mp own⟩, _, rfl, rfl, rfl, ?_⟩
    exact ⟨_, parts, visited, by rwa [List.map_map], each, rfl⟩

/-- **Each message is put out once, where it belongs.** The order of the models lists the persisted messages, each
once. The files that are asked for and declare persisted messages have one output each, in the order of the schema,
which holds the items of these messages, each message once, in the order of the models. These are a struct for the
message and one for each of its many-to-many associations, and operations exactly if it has a primary key. -/
theorem emitted_once (distinct : schema.NamesDistinct) (placed : schema.Placed)
    (generated : schema.generate config = .ok outputs) :
    ∃ models, schema.models = .ok models ∧ models.resolution.order.Nodup ∧
      models.resolution.order.Perm (schema.persisted.map (·.fullName)) ∧
      List.Forall₂ (schema.OutputFor config models)
        (schema.files.filter fun file => file.messages.any (·.persisted) && file.generate) outputs := by
  obtain ⟨models, built⟩ := models_of_generate generated
  have listed := models_order built
  refine ⟨models, built, listed.nodup_iff.mpr distinct.persisted, listed, ?_⟩
  exact outputs_of_generate built (fun file there found => fileOf_output distinct placed built there) generated

theorem OutputFor.of_single {message : Message} {output : GeneratedFile}
    (h : schema.OutputFor config models file output) (only : file.messages.filter (·.persisted) = [message]) :
    schema.ItemsOf config models message output.items := by
  obtain ⟨messages, parts, perm, -, each, whole⟩ := h.items
  rw [only, List.perm_singleton] at perm
  subst perm
  cases each with
  | cons first rest =>
    cases rest
    rw [whole]
    simpa using first

/-! ## Posts with tags, in several files -/

/-- A message with a key in a file of its own. -/
def filedMessage (name file : String) (fields : List Field) : Message := { keyedMessage name fields with file }

/-- A mark, which has no key. -/
def unkeyedMark : Message :=
  { filedMessage "Mark" "mark.proto" [] with fields := [plainField "text" (.scalar .string)] }

/-- Posts with tags, in several files. Nothing is put out for drafts, which are not stored, and labels. -/
def filedBlog : Schema :=
  ⟨[⟨"post.proto", "blog", true, [filedMessage "Post" "post.proto" [tagsField]]⟩,
    ⟨"draft.proto", "blog", true, [{ filedMessage "Draft" "draft.proto" [] with persisted := false }]⟩,
    ⟨"tag.proto", "blog", true, [filedMessage "Tag" "tag.proto" []]⟩,
    ⟨"label.proto", "blog", false, [filedMessage "Label" "label.proto" []]⟩,
    ⟨"mark.proto", "blog", true, [unkeyedMark]⟩]⟩

theorem emitted_once_filed : filedBlog.NamesDistinct ∧ filedBlog.Placed ∧
    ∃ posts tags marks, filedBlog.generate .default = .ok [posts, tags, marks] ∧
      posts.name = "post.persist.rs" ∧ tags.name = "tag.persist.rs" ∧ marks.name = "mark.persist.rs" ∧
      Item.namesOf .record posts.items = ["PostOrm", "PostTagsJoin"] ∧
      Item.namesOf .record tags.items = ["TagOrm"] ∧ Item.namesOf .record marks.items = ["MarkOrm"] ∧
      "default_read_tag" ∈ Item.namesOf .operation tags.items ∧ Item.namesOf .operation marks.items = [] := by
  have distinct : filedBlog.NamesDistinct := by decide +kernel
  have placed : filedBlog.Placed := ⟨by decide +kernel, by decide +kernel⟩
  obtain ⟨outputs, generated⟩ : ∃ outputs, filedBlog.generate .default = .ok outputs :=
    outputs_of_named (by decide +kernel) (by decide +kernel) (by decide +kernel)
  obtain ⟨models, -, -, -, each⟩ := emitted_once distinct placed generated
  have wanted : (filedBlog.files.filter fun file => file.messages.any (·.persisted) && file.generate) =
      [⟨"post.proto", "blog", true, [filedMessage "Post" "post.proto" [tagsField]]⟩,
        ⟨"tag.proto", "blog", true, [filedMessage "Tag" "tag.proto" []]⟩,
        ⟨"mark.proto", "blog", true, [unkeyedMark]⟩] := by decide +kernel
  rw [wanted] at each
  obtain ⟨posts, _, first, others, rfl⟩ := List.forall₂_cons_left_iff.mp each
  obtain ⟨tags, _, second, last, rfl⟩ := List.forall₂_cons_left_iff.mp others
  obtain ⟨marks, _, third, nothing, rfl⟩ := List.forall₂_cons_left_iff.mp last
  cases nothing
  have posted := first.of_single rfl
  have tagged := second.of_single rfl
  have marked := third.of_single rfl
  refine ⟨distinct, placed, posts, tags, marks, generated, ?_, ?_, ?_, ?_, ?_, ?_, ?_, ?_⟩
  · rw [first.name]; decide +kernel
  · rw [second.name]; decide +kernel
  · rw [third.name]; decide +kernel
  · rw [posted.structs]; decide +kernel
  · rw [tagged.structs]; decide +kernel
  · rw [marked.structs]; decide +kernel
  · rw [tagged.operations]; decide +kernel
  · rw [marked.operations]; decide +kernel

end Schema

end ProtoStore
