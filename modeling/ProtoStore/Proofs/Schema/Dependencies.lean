import ProtoStore.Proofs.Schema.Records

/-!
# The order of the messages of a schema

* `Schema.Requires` : one persisted message holds a foreign key of another that cannot be null, read off the
  declarations;
* `requires_edge` : the dependency graph of a schema has an edge for each of these;
* `models_requires` : where models are built, what a message requires stands before it in their order;
* `dependencyOrder` : the order of a schema, and that there is none where messages require one another.
-/

namespace ProtoStore.Schema

variable {schema : Schema} {keys : Keys} {models : Models} {associations : List Association}

/-- A message with a foreign key that cannot be null, and the message that the key refers to. -/
inductive Requires (schema : Schema) : String → String → Prop
  /-- The owner of an embedded message holds its key, which is null only where the field is absent. -/
  | embeddedOne {owner : Message} {field : Field} {target : String} (persisted : owner ∈ schema.persisted)
      (declared : field ∈ owner.fields) (holds : field.target? schema = some target)
      (kind : field.associationKind = .embeddedOne) (required : field.isOptional = false) :
      Requires schema owner.fullName target
  /-- A child holds the key of its owner. -/
  | hasMany {owner child : Message} {field : Field} {target : String} (persisted : owner ∈ schema.persisted)
      (declared : field ∈ owner.fields) (holds : field.target? schema = some target)
      (found : schema.message? target = some child) (kind : field.associationKind = .hasMany)
      (required : field.childKeyIsNullable owner child = false) :
      Requires schema target owner.fullName

theorem exists_site (keys : Keys) {owner : Message} {field : Field} {target : String}
    (persisted : owner ∈ schema.persisted) (declared : field ∈ owner.fields)
    (holds : field.target? schema = some target) :
    ∃ message, schema.message? target = some message ∧
      ⟨schema, keys, owner, field, message⟩ ∈ schema.sites keys := by
  obtain ⟨message, found, -⟩ := isPersisted_ok (Field.target?_persisted holds)
  exact ⟨message, found, mem_sites.mpr ⟨owner, persisted, field, declared, by simp [Field.site?, holds, found]⟩⟩

/-- Whether a foreign key on a child may be null is what the field and the child say. -/
theorem childKey_nullable {site : AssociationField} {ownerKey : KeyKind} {nullable reused : Bool}
    (h : site.childKey (site.field.childKeyName site.owner) ownerKey = .ok (nullable, reused)) :
    nullable = site.field.childKeyIsNullable site.owner site.target := by
  unfold Field.childKeyIsNullable
  rcases AssociationField.childKey_ok h with ⟨absent, -, nullable⟩ | ⟨existing, type, found, -, nullable, -⟩
  · rw [absent, nullable]
  · rw [found, nullable]

/-- A required foreign key of the declarations is an edge of the graph that cannot wait. -/
theorem requires_edge (h : schema.Associated keys associations) {source target : String}
    (required : schema.Requires source target) :
    ∃ association ∈ associations, ∃ edge, association.edge? = some edge ∧ edge.nullable = false ∧
      edge.source = source ∧ edge.target = target := by
  cases required with
  | @embeddedOne owner field target persisted declared holds kind required =>
    obtain ⟨message, found, there⟩ := exists_site keys persisted declared holds
    obtain ⟨association, inside, owned, -, targeted, linked⟩ := h.resolved.exists_right there
    generalize link : association.link = l at linked
    cases linked with
    | embeddedOne =>
      refine ⟨association, inside, _, by simp [Association.edge?, link]; rfl, required, owned, ?_⟩
      exact targeted.trans (message?_ok found).2
    | hasMany other => simp [AssociationField.kind_eq, kind] at other
    | manyToMany other => simp [AssociationField.kind_eq, kind] at other
  | @hasMany owner child field target persisted declared holds found kind required =>
    obtain ⟨message, found', there⟩ := exists_site keys persisted declared holds
    obtain rfl : message = child := Option.some.inj (found'.symm.trans found)
    obtain ⟨association, inside, owned, -, targeted, linked⟩ := h.resolved.exists_right there
    generalize link : association.link = l at linked
    cases linked with
    | embeddedOne other => simp [AssociationField.kind_eq, kind] at other
    | hasMany _ _ stored =>
      refine ⟨association, inside, _, by simp [Association.edge?, link]; rfl, ?_, ?_, owned⟩
      · exact (childKey_nullable stored).trans required
      · exact targeted.trans (message?_ok found).2
    | manyToMany other => simp [AssociationField.kind_eq, kind] at other

/-- The two messages of an association are persisted. -/
theorem Associated.persisted (h : schema.Associated keys associations) {association : Association}
    (there : association ∈ associations) :
    association.owner ∈ schema.persisted.map (·.fullName) ∧
      association.target ∈ schema.persisted.map (·.fullName) := by
  obtain ⟨site, site_there, owned, -, targeted, -⟩ := h.resolved.exists_left there
  obtain ⟨-, -, owner, -, target⟩ := site_ok site_there
  exact ⟨owned ▸ List.mem_map_of_mem owner, targeted ▸ List.mem_map_of_mem target⟩

theorem graph_requires (h : schema.Associated keys associations) {association : Association} {edge : Edge}
    (there : association ∈ associations) (depends : association.edge? = some edge)
    (required : edge.nullable = false) :
    (schema.graph associations).Requires edge.source edge.target := by
  obtain ⟨owner, target⟩ := h.persisted there
  have listed : edge ∈ (schema.graph associations).edges :=
    List.mem_filterMap.mpr ⟨association, there, depends⟩
  unfold Association.edge? at depends
  split at depends <;> cases depends
  · exact ⟨owner, target, _, listed, required, rfl, rfl⟩
  · exact ⟨target, owner, _, listed, required, rfl, rfl⟩

/-- Where models are built, what a message requires through an association stands before it. -/
theorem models_requires (h : schema.models = .ok models) {association : Association} {edge : Edge}
    (there : association ∈ models.resolution.associations) (depends : association.edge? = some edge)
    (required : edge.nullable = false) : [edge.target, edge.source].Sublist models.resolution.order := by
  obtain ⟨keys, -, associated, ordered, -⟩ := models_ok h
  exact Graph.order_requires ordered (graph_requires associated there depends required)

/-- Where models are built, no message requires itself, not even through others. -/
theorem models_acyclic (h : schema.models = .ok models) (name : String) :
    ¬ Relation.TransGen schema.Requires name name := by
  obtain ⟨keys, -, associated, ordered, -⟩ := models_ok h
  have in_graph (source target : String) (required : schema.Requires source target) :
      (schema.graph models.resolution.associations).Requires source target := by
    obtain ⟨association, there, edge, depends, cannot_wait, rfl, rfl⟩ := requires_edge associated required
    exact graph_requires associated there depends cannot_wait
  intro cycle
  exact Graph.not_requires_self (Graph.order_ok ordered).1 name (Relation.TransGen.mono in_graph name name cycle)

/-! ## A small schema -/

/-- A field that says no more than its name and type. -/
def plainField (name : String) (kind : FieldKind) : Field where
  name
  number := 1
  kind
  repeated := false
  presence := .unspecified
  oneof := none
  column := none
  isKey := false
  dropped := false
  association := none

/-- A persisted message with a numeric key before its other fields. -/
def keyedMessage (name : String) (fields : List Field) : Message where
  name
  fullName := "blog." ++ name
  package := "blog"
  file := "blog.proto"
  fields := plainField "id" (.scalar .uint64) :: fields
  persisted := true
  table := none

/-- The comments of a post, whose foreign key may not be null. -/
def commentsField : Field :=
  { plainField "comments" (.message "blog.Comment") with
    repeated := true
    association := some ⟨none, .default, some false, none, none, none⟩ }

/-- A schema of one file. -/
def ofMessages (messages : List Message) : Schema := ⟨[⟨"blog.proto", "blog", true, messages⟩]⟩

/-- A comment, which may answer another. -/
def blogComment : Message :=
  keyedMessage "Comment" [
    plainField "text" (.scalar .string),
    { plainField "answered" (.message "blog.Comment") with presence := .optional }]

/-- A post with an editor, a field for its author and one that is not stored. -/
def blogPost : Message :=
  keyedMessage "Post" [
    plainField "author_id" (.scalar .uint64), commentsField, plainField "editor" (.message "blog.Author"),
    { plainField "draft" (.scalar .string) with dropped := true }]

/-- Comments, posts and their authors. -/
def blog : Schema :=
  ofMessages [blogComment, blogPost,
    keyedMessage "Author" [{ plainField "posts" (.message "blog.Post") with repeated := true }]]

/-- A post that cannot be without a comment, although no comment can be without its post. -/
def rigidPost : Message :=
  keyedMessage "Post" [plainField "pinned" (.message "blog.Comment"), commentsField]

/-- Posts and comments that require each other. -/
def rigidBlog : Schema := ofMessages [keyedMessage "Comment" [], rigidPost]

theorem blog_models : ∃ models, blog.models = .ok models := by
  have built : blog.models.toOption.isSome = true := by decide +kernel
  cases h : blog.models with
  | ok models => exact ⟨models, rfl⟩
  | error error => simp [h, Except.toOption] at built

theorem rigidBlog_cycle : Relation.TransGen rigidBlog.Requires "blog.Post" "blog.Post" := by
  have persisted : rigidPost ∈ rigidBlog.persisted := by decide +kernel
  have pinned : plainField "pinned" (.message "blog.Comment") ∈ rigidPost.fields := by decide +kernel
  have comments : commentsField ∈ rigidPost.fields := by decide +kernel
  have found : rigidBlog.message? "blog.Comment" = some (keyedMessage "Comment" []) := by decide +kernel
  exact .tail (.single (.embeddedOne persisted pinned (by decide +kernel) rfl rfl))
    (.hasMany persisted comments (by decide +kernel) found rfl (by decide +kernel))

/-! ## The order of a schema -/

/-- **The order of a schema.** It lists each persisted message once and nothing else, and puts the message that
a foreign key refers to before the message that holds it, unless the key may be null. There are no models for a
schema in which keys that may not be null lead from a message back to itself. -/
theorem dependencyOrder (schema : Schema) :
    (schema.NamesDistinct → ∀ models, schema.models = .ok models →
      models.resolution.order.Nodup ∧
      models.resolution.order.Perm (schema.persisted.map (·.fullName)) ∧
      ∀ association ∈ models.resolution.associations,
        (∀ foreignKey targetKey, association.link = .embeddedOne foreignKey false targetKey →
          [association.target, association.owner].Sublist models.resolution.order) ∧
        (∀ foreignKey reused ownerKey, association.link = .hasMany foreignKey false reused ownerKey →
          [association.owner, association.target].Sublist models.resolution.order)) ∧
    ∀ name, Relation.TransGen schema.Requires name name → ∃ error, schema.models = .error error := by
  refine ⟨fun distinct models h => ?_, fun name cycle => ?_⟩
  · have listed := models_order h
    refine ⟨listed.nodup_iff.mpr distinct.persisted, listed, fun association there => ⟨?_, ?_⟩⟩
    · intro foreignKey targetKey link
      have depends : association.edge? =
          some ⟨association.owner, association.target, association.field, false⟩ := by
        simp [Association.edge?, link]
      exact models_requires h there depends rfl
    · intro foreignKey reused ownerKey link
      have depends : association.edge? =
          some ⟨association.target, association.owner, association.field, false⟩ := by
        simp [Association.edge?, link]
      exact models_requires h there depends rfl
  · cases models : schema.models with
    | ok models => exact absurd cycle (models_acyclic models name)
    | error error => exact ⟨error, rfl⟩

theorem dependencyOrder_blog :
    (∃ models, blog.models = .ok models ∧ models.resolution.order.Nodup ∧
      models.resolution.order.Perm ["blog.Comment", "blog.Post", "blog.Author"]) ∧
    ∃ error, rigidBlog.models = .error error := by
  obtain ⟨models, built⟩ := blog_models
  have order := (dependencyOrder blog).1 (by decide +kernel) models built
  exact ⟨⟨models, built, order.1, order.2.1⟩, (dependencyOrder rigidBlog).2 _ rigidBlog_cycle⟩

end ProtoStore.Schema
