import ProtoStore.Proofs.Blog.Convertible
import ProtoStore.Proofs.Blog.Reloading
import ProtoStore.Proofs.Domain.Lasting
import ProtoStore.Proofs.Domain.Reload

/-!
# Messages with selected columns

* `Kind.narrowed` : what a selection of columns leaves of a row (`keepOnly_eq`);
* `Entity.narrowed` : what it leaves of a message: of its fields those whose columns are selected, its key and
  its repeated associations, and of an article its writer if the key of the writer is selected;
* `responds_narrowed` : what a row answers with some columns is what is left of its answer with all of them;
* `read_narrowed` : so is what a reading answers, and it fails if a column does not exist.
-/

namespace ProtoStore.Blog

open Domain Store Operations

/-! ## Rows with selected columns -/

/-- What a selection leaves of a column. -/
def narrow {α : Type} [Inhabited α] (selection : List String) (column : String) (a : α) : α :=
  if selection.contains column then a else default

/-- What a selection leaves of a row. -/
def Kind.narrowed (selection : List String) : (kind : Kind) → Row kind → Row kind
  | .record .blogPost, (r : BlogPostRecord) => ({ r with
      title := narrow selection "title" r.title
      author := narrow selection "author" r.author } : BlogPostRecord)
  | .record .author, (r : AuthorRecord) => ({ r with
      name := narrow selection "name" r.name
      email := narrow selection "email" r.email } : AuthorRecord)
  | .record .comment, (r : CommentRecord) => ({ r with
      body := narrow selection "body" r.body
      flags := narrow selection "flags" r.flags
      articleId := narrow selection "article_id" r.articleId } : CommentRecord)
  | .record .tag, (r : TagRecord) => ({ r with
      label := narrow selection "label_text" r.label } : TagRecord)
  | .record .article, (r : ArticleRecord) => ({ r with
      title := narrow selection "title" r.title
      publishedAt := narrow selection "published_at" r.publishedAt
      status := narrow selection "status" r.status
      keywords := narrow selection "keywords" r.keywords
      meta_ := narrow selection "meta" r.meta_
      rating := narrow selection "rating" r.rating
      writerId := narrow selection "writer_id" r.writerId } : ArticleRecord)
  | .record .reply, (r : ReplyRecord) => ({ r with
      text := narrow selection "text" r.text
      threadId := narrow selection "thread_id" r.threadId
      digestId := narrow selection "digest_id" r.digestId } : ReplyRecord)
  | .record .thread, (r : ThreadRecord) => ({ r with
      title := narrow selection "title" r.title } : ThreadRecord)
  | .record .digest, r => r
  | .articleTag, (r : ArticleTag) => ({ r with
      tagId := narrow selection "tag_id" r.tagId } : ArticleTag)
  | .threadTopic, (r : ThreadTopic) => ({ r with
      tagId := narrow selection "tag_id" r.tagId } : ThreadTopic)
  | .digestFeatured, (r : DigestTag) | .digestHidden, (r : DigestTag) => ({ r with
      tagId := narrow selection "tag_id" r.tagId } : DigestTag)

variable {kind : Kind} {selection : List String} {row : Row kind}

theorem keepOnly_eq (selection : List String) (row : Row kind) :
    (record kind).keepOnly selection row = kind.narrowed selection row := by
  rw [RecordType.keepOnly_eq_foldl]
  revert row
  cases kind with
  | record e =>
    cases e
    all_goals
      -- Columns are set in a record of a named type, which the type of the rows of a kind unfolds to.
      dsimp only [Row, Kind.Row, Entity.Record]
      intro row
      simp only [record, Kind.type, Entity.type, BlogPostRecord.type, AuthorRecord.type, CommentRecord.type,
        TagRecord.type, ArticleRecord.type, ReplyRecord.type, ThreadRecord.type, DigestRecord.type,
        List.foldl_cons, List.foldl_nil, Column.keep_of, implies_true]
      rfl
  | articleTag | threadTopic | digestFeatured | digestHidden =>
    dsimp only [Row, Kind.Row]
    intro row
    simp only [record, Kind.type, ArticleTag.type, ThreadTopic.type, DigestTag.type, List.foldl_cons,
      List.foldl_nil, Column.keep_of, implies_true]
    rfl

@[simp]
theorem narrow_selected {α : Type} [Inhabited α] {column : String} (selected : column ∈ selection) (a : α) :
    narrow selection column a = a :=
  if_pos (List.contains_iff_mem.mpr selected)

@[simp]
theorem narrow_unselected {α : Type} [Inhabited α] {column : String} (unselected : column ∉ selection) (a : α) :
    narrow selection column a = default :=
  if_neg fun selected => unselected (List.contains_iff_mem.mp selected)

theorem map_narrow_selected {α : Type} [Inhabited α] {column : String} (selected : column ∈ selection)
    (x : Option α) : x.map (narrow selection column) = x := by
  cases x with
  | none => rfl
  | some a => exact congrArg some (narrow_selected selected a)

/-! ## Messages with selected fields -/

/-- What a selection leaves of a message. -/
def Entity.narrowed (selection : List String) : (e : Entity) → e.Message → e.Message
  | blogPost, (m : BlogPost) => ({ m with
      title := narrow selection "title" m.title
      author := narrow selection "author" m.author } : BlogPost)
  | author, (m : Author) => ({ m with
      name := narrow selection "name" m.name
      email := narrow selection "email" m.email } : Author)
  | comment, (m : Comment) => ({ m with
      body := narrow selection "body" m.body
      flags := narrow selection "flags" m.flags } : Comment)
  | tag, (m : Tag) => ({ m with
      label := narrow selection "label_text" m.label } : Tag)
  | article, (m : Article) => ({ m with
      title := narrow selection "title" m.title
      writer := narrow selection "writer_id" m.writer
      publishedAt := narrow selection "published_at" m.publishedAt
      status := narrow selection "status" m.status
      keywords := narrow selection "keywords" m.keywords
      meta_ := narrow selection "meta" m.meta_
      rating := narrow selection "rating" m.rating } : Article)
  | reply, (m : Reply) => ({ m with
      text := narrow selection "text" m.text } : Reply)
  | thread, (m : Thread) => ({ m with
      title := narrow selection "title" m.title } : Thread)
  | digest, m => m

section

variable {e : Entity} {row : Record e} {m : e.Message}

theorem key_keepOnly (row : Record e) :
    (record (table e)).key ((record (table e)).keepOnly selection row) = (record (table e)).key row := by
  show (record (table e)).key ((record (Kind.record e)).keepOnly selection row) = _
  rw [keepOnly_eq]
  cases e <;> rfl

/-- An encoded column at its default holds the default value. -/
theorem ofJson_narrow {α : Type} [Inhabited α] {codec : Json.Codec α} {field text : String} {a : α}
    (h : Convert.ofJson codec field text = .ok a) (selection : List String) (column : String) :
    Convert.ofJson codec field (narrow selection column text) = .ok (narrow selection column a) := by
  by_cases selected : column ∈ selection
  · rw [narrow_selected selected, narrow_selected selected, h]
  · rw [narrow_unselected selected, narrow_unselected selected]
    rfl

theorem mapM_narrow {α β : Type} {f : α → Except Failure β} {x : Option α} {y : Option β}
    (h : x.mapM f = .ok y) (selection : List String) (column : String) :
    (narrow selection column x).mapM f = .ok (narrow selection column y) := by
  by_cases selected : column ∈ selection
  · rw [narrow_selected selected, narrow_selected selected, h]
  · rw [narrow_unselected selected, narrow_unselected selected]
    rfl

theorem map_narrow {α β : Type} (f : α → β) (x : Option α) (selection : List String) (column : String) :
    (narrow selection column x).map f = narrow selection column (x.map f) := by
  by_cases selected : column ∈ selection
  · rw [narrow_selected selected, narrow_selected selected]
  · rw [narrow_unselected selected, narrow_unselected selected]
    rfl

/-- What a selection leaves of a row has what it leaves of the message. -/
theorem reverts_narrowed (h : Reverts e row m) :
    Reverts e ((record (table e)).keepOnly selection row) (e.narrowed selection m) := by
  show e.fillMessage ((record (Kind.record e)).keepOnly selection row) e.blank = _
  rw [keepOnly_eq]
  cases e with
  | comment =>
    obtain ⟨flags, read, rfl⟩ := fillComment_ok h
    show fillComment _ default = _
    unfold fillComment Kind.narrowed
    dsimp only
    rw [ofJson_narrow read]
    rfl
  | article =>
    obtain ⟨keywords, meta_, keywords_read, meta_read, rfl⟩ := fillArticle_ok h
    have unlinked : narrow selection "writer_id" (default : Article).writer = none := ite_self none
    show fillArticle _ default = _
    unfold fillArticle Kind.narrowed Entity.narrowed
    dsimp only
    rw [ofJson_narrow keywords_read, mapM_narrow meta_read, map_narrow, unlinked]
    rfl
  | blogPost | author | tag | reply | thread | digest =>
    cases h
    rfl

/-! ### Links -/

variable {context : Context} {store : Store Kind} {loaded : e.Message}

theorem keyOf_keepOnly (row : Record e) : keyOf e ((record (table e)).keepOnly selection row) = keyOf e row :=
  congrArg (record (table e)).rowKey.toValue (key_keepOnly row)

/-- The writer of an article is found by a column that may not be selected. -/
theorem loads_writer_narrowed {row : Record Entity.article} {m loaded : Article}
    (loads : Loads context store row (.reference articleWriter) m loaded) :
    Loads context store ((record (table Entity.article)).keepOnly selection row) (.reference articleWriter)
      (Entity.article.narrowed selection m) (Entity.article.narrowed selection loaded) := by
  obtain ⟨found, target, asked, reverts, rfl⟩ := loads
  have columns : (record (Kind.record .article)).keepOnly selection row = _ := keepOnly_eq selection row
  have points : ArticleRecord.writerId ((record (table Entity.article)).keepOnly selection row) =
      narrow selection "writer_id" (ArticleRecord.writerId row) := congrArg ArticleRecord.writerId columns
  have sets (writer : Option Author) :
      articleWriter.set (narrow selection "writer_id" writer) (Entity.article.narrowed selection m) =
        Entity.article.narrowed selection (articleWriter.set writer m) := rfl
  by_cases selected : "writer_id" ∈ selection
  · rw [narrow_selected selected] at points
    have empty : articleWriter.keyIsEmpty ((record (table Entity.article)).keepOnly selection row) =
        articleWriter.keyIsEmpty row := congrArg RowKey.isEmpty points
    have same : articleWriter.key ((record (table Entity.article)).keepOnly selection row) =
        articleWriter.key row := congrArg RowKey.toValue points
    refine ⟨found, target, ?_, reverts, ?_⟩
    · rw [empty, same]
      exact asked
    · exact (congrArg (articleWriter.set · _) (narrow_selected selected target)).symm.trans (sets target)
  · rw [narrow_unselected selected] at points
    have empty : articleWriter.keyIsEmpty ((record (table Entity.article)).keepOnly selection row) = true :=
      congrArg RowKey.isEmpty points
    refine ⟨none, none, ?_, .none, ?_⟩
    · rw [if_pos empty]
    · exact (congrArg (articleWriter.set · _) (narrow_unselected selected target)).symm.trans (sets target)

/-- What is linked to a row by its key is found whatever is selected. -/
theorem loads_narrowed {link : MessageLink e} (there : link ∈ Bindings.links e)
    (loads : Loads context store row link m loaded) :
    Loads context store ((record (table e)).keepOnly selection row) link (e.narrowed selection m)
      (e.narrowed selection loaded) := by
  cases link with
  | reference link =>
    exact forall_reference (P := fun e link => ∀ (row : Record e) (m loaded : e.Message),
      Loads context store row (.reference link) m loaded →
        Loads context store ((record (table e)).keepOnly selection row) (.reference link)
          (e.narrowed selection m) (e.narrowed selection loaded))
      (fun _ _ _ loads => loads_writer_narrowed loads) there row m loaded loads
  | children link =>
    obtain ⟨rows, targets, asked, reverts, rfl⟩ := loads
    refine ⟨rows, targets, ?_, reverts, ?_⟩
    · rwa [keyOf_keepOnly]
    · exact forall_children (P := fun e link => ∀ (m : e.Message) targets,
        link.set targets (e.narrowed selection m) = e.narrowed selection (link.set targets m))
        (fun _ _ => rfl) (fun _ _ => rfl) (fun _ _ => rfl) there m targets
  | joined link =>
    obtain ⟨rows, targets, asked, reverts, rfl⟩ := loads
    refine ⟨rows, targets, ?_, reverts, ?_⟩
    · rwa [keyOf_keepOnly]
    · exact forall_joined (P := fun e link => ∀ (m : e.Message) targets,
        link.set targets (e.narrowed selection m) = e.narrowed selection (link.set targets m))
        (fun _ _ => rfl) (fun _ _ => rfl) (fun _ _ => rfl) (fun _ _ => rfl) there m targets

theorem loadsAll_narrowed {links : List (MessageLink e)} (there : ∀ link ∈ links, link ∈ Bindings.links e)
    (loads : LoadsAll context store row links m loaded) :
    LoadsAll context store ((record (table e)).keepOnly selection row) links (e.narrowed selection m)
      (e.narrowed selection loaded) := by
  induction links generalizing m with
  | nil => exact congrArg (e.narrowed selection) loads
  | cons link links ih =>
    obtain ⟨first, rest⟩ := List.forall_mem_cons.mp there
    obtain ⟨next, one, others⟩ := loads
    exact ⟨e.narrowed selection next, loads_narrowed first one, ih rest others⟩

/-- What a row answers with some columns is what is left of its answer with all of them. -/
theorem responds_narrowed {value : e.Message} (responds : Responds context store row value) :
    Responds context store ((record (table e)).keepOnly selection row) (e.narrowed selection value) := by
  obtain ⟨message, reverts, loads⟩ := responds
  exact ⟨e.narrowed selection message, reverts_narrowed reverts, loadsAll_narrowed (fun _ there => there) loads⟩

/-! ## Readings -/

theorem convertible_run (fresh : Nat → Uuid) {calls : List (Context × Call Entity)}
    (writes : ∀ call ∈ calls, call.2.Writes Entity.Addressable) :
    Convertible Entity (run (Store.empty fresh : Store Kind) calls) := by
  intro e row there
  obtain ⟨message, reverts, -⟩ := fillMessage_faithful ((faithful_run fresh writes).allowed there)
  exact ⟨message, reverts⟩

end

/-- In every store that calls leave, a stored message is read with some of its columns as it is read with all,
and with their fields, its key and its repeated associations alone. A column that does not exist is an error. -/
theorem read_narrowed (fresh : Nat → Uuid) (calls : List (Context × Call Entity))
    (writes : ∀ call ∈ calls, call.2.Writes Entity.Addressable) {e : Entity} {row : Record e}
    (there : row ∈ (run (Store.empty fresh) calls : Store Kind).rows (table e))
    (keyed : (record (table e)).keyIsEmpty row = false) {asked : e.Message} {other : Record e}
    (converts : Converts e asked other) (same : (record (table e)).key other = (record (table e)).key row)
    (selection : List String) :
    let store : Store Kind := run (Store.empty fresh) calls
    let reading (fields : Option (List String)) : Action Kind Unit e.Message :=
      Operations.read Hooks.none e (some asked) fields
    ((∃ column ∈ selection, ¬ HasColumn (table e) column) →
      ∃ column ∈ selection, ¬ HasColumn (table e) column ∧ (reading (some selection)).Yields store
        (.error (.store (.unknownColumn (record (table e)).table column))) store) ∧
    ((∀ column ∈ selection, HasColumn (table e) column) →
      ∃ value : e.Message, (reading none).Yields store (.ok value) store ∧
        (reading (some selection)).Yields store (.ok (e.narrowed selection value)) store) := by
  intro store reading
  have alive : Context.unlimited.check = .ok () := rfl
  have keyed' : (record (table e)).keyIsEmpty other = false := by
    unfold RecordType.keyIsEmpty at keyed ⊢
    rwa [same]
  have interruptible (fields : Option (List String)) : (reading fields).Interruptible :=
    interruptible_read (e := e) (some asked) fields
  constructor
  · intro unknown
    obtain ⟨column, selected, missing, fails⟩ := exists_read_fails alive converts keyed' unknown
    exact ⟨column, selected, missing, (interruptible _).yields_of_eq fails⟩
  intro known
  have distinct : store.Distinct := (faithful_run fresh writes).distinct
  have readable : Convertible Entity store := convertible_run fresh writes
  obtain ⟨value, responds⟩ := exists_responds alive readable (readable e row there)
  have answers (row : Record e) : (respond Hooks.none e row).Answers ⟨store, .unlimited, ()⟩
      (Responds .unlimited store row) := respond_answers row
  refine ⟨value, (interruptible _).yields_of_eq ?_, (interruptible _).yields_of_eq ?_⟩
  · have all : ∀ columns ∈ (none : Option (List String)), ∀ column ∈ columns, HasColumn (table e) column := by
      rintro _ ⟨⟩
    refine (read_stored distinct alive there keyed converts same all).trans ?_
    exact (answers row value _).mpr ⟨responds, rfl⟩
  · have selects : ∀ columns ∈ some selection, ∀ column ∈ columns, HasColumn (table e) column := by
      rintro columns ⟨⟩
      exact known
    refine (read_stored distinct alive there keyed converts same selects).trans ?_
    exact (answers _ _ _).mpr ⟨responds_narrowed responds, rfl⟩

/-- An article is read with its title and its writer, its comments and its tags, and nothing else. -/
theorem read_narrowed_title :
    let world : World Kind Unit :=
      ⟨run (Store.empty fun n => ⟨.ofNat 128 (n + 1)⟩) draftCalls, .unlimited, ()⟩
    let asked : Article := { (default : Article) with id := some ⟨"00000000-0000-0000-0000-000000000002"⟩ }
    (∃ column ∈ ["title", "comments"], ¬ HasColumn (table Entity.article) column ∧
      Operations.read Hooks.none Entity.article (some asked) (some ["title", "comments"]) world =
        (.error (.store (.unknownColumn "articles" column)), world)) ∧
    ∃ value : Article, Operations.read Hooks.none Entity.article (some asked) none world = (.ok value, world) ∧
      Operations.read Hooks.none Entity.article (some asked) (some ["title", "id", "writer_id", "title"]) world =
        (.ok { value with publishedAt := none, status := 0, keywords := [], meta_ := none, rating := none },
          world) := by
  have writes : ∀ call ∈ draftCalls, call.2.Writes Entity.Addressable := by
    simp [draftCalls, Call.Writes, Entity.Addressable, Metadata.Addressable]
    decide
  obtain ⟨row, there, id⟩ : ∃ row : Record Entity.article,
      row ∈ (run (Store.empty fun n => ⟨.ofNat 128 (n + 1)⟩) draftCalls : Store Kind).rows (table Entity.article) ∧
        ArticleRecord.id row = some ⟨2⟩ := by
    have ids : ((run (Store.empty fun n => ⟨.ofNat 128 (n + 1)⟩) draftCalls : Store Kind).rows
        (table Entity.article)).map ArticleRecord.id = [some ⟨2⟩] := by decide +kernel
    exact List.mem_map.mp (ids ▸ List.mem_singleton_self _)
  have keyed : (record (table Entity.article)).keyIsEmpty row = false := by
    show RowKey.isEmpty (ArticleRecord.id row) = false
    rw [id]
    rfl
  intro world asked
  have converts : Converts Entity.article asked
      ({ (default : ArticleRecord) with id := some ⟨2⟩, keywords := "[]" } : ArticleRecord) := rfl
  have read (selection : List String) :=
    read_narrowed _ draftCalls writes there keyed converts id.symm selection
  obtain ⟨column, selected, missing, fails⟩ :=
    (read ["title", "comments"]).1 ⟨"comments", List.mem_cons_of_mem _ List.mem_cons_self, by decide⟩
  refine ⟨⟨column, selected, missing, fails.unlimited⟩, ?_⟩
  have known : ∀ column ∈ ["title", "id", "writer_id", "title"], HasColumn (table Entity.article) column := by
    decide
  obtain ⟨value, whole, narrowed⟩ := (read ["title", "id", "writer_id", "title"]).2 known
  exact ⟨value, whole.unlimited, narrowed.unlimited⟩

end ProtoStore.Blog
