import ProtoStore.Proofs.Blog.Canonical
import ProtoStore.Proofs.Blog.Idempotent
import ProtoStore.Proofs.Store.Rewriting

/-!
# What an update with an answer makes of rows

An update with what was read of a record writes its row and the rows that it is linked to again.
`Entity.rewritten` says what becomes of each row of a store: encoded columns are written in the usual
encoding (`Entity.usual`), an article without a stored writer gets none, links to missing tags are gone where
links are exchanged, and so is all that a digest drops.
-/

namespace ProtoStore.Blog

open Domain Store Operations

/-! ## Encoded columns -/

/-- Texts in a column as they are written, if they can be read. -/
def usualTexts (column : String) : String :=
  (Convert.ofJson texts "" column).toOption.elim column texts.encode

/-- Metadata in a column as it is written, if it can be read. -/
def usualMetadata (column : List UInt8) : List UInt8 :=
  (Metadata.codec.decode? column).elim column Metadata.codec.encode

/-- A record with its encoded columns in the usual encoding. -/
def Entity.usual : (e : Entity) → e.Record → e.Record
  | comment, (r : CommentRecord) => { r with flags := usualTexts r.flags }
  | article, (r : ArticleRecord) => { r with
      keywords := usualTexts r.keywords, meta_ := r.meta_.map usualMetadata }
  | blogPost, r | author, r | tag, r | reply, r | thread, r | digest, r => r

variable {e : Entity} {m : e.Message} {row : Record e}

theorem usualTexts_of_ofJson {field column : String} {values : List String}
    (h : Convert.ofJson texts field column = .ok values) : usualTexts column = texts.encode values := by
  have same : Convert.ofJson texts "" column = .ok values := by
    unfold Convert.ofJson at h ⊢
    split
    · next empty => rwa [if_pos empty] at h
    · next full =>
      rw [if_neg full] at h
      split at h
      · exact h
      · cases h
  unfold usualTexts
  rw [same]
  rfl

theorem usualMetadata_of_ofBytes {field : String} {column : List UInt8} {metadata : Metadata}
    (h : Convert.ofBytes Metadata.codec field column = .ok metadata) :
    usualMetadata column = Metadata.codec.encode metadata := by
  unfold Convert.ofBytes at h
  unfold usualMetadata
  split at h
  · next decoded => rw [decoded, ← Except.ok.inj h, Option.elim_some]
  · cases h

/-- Optional metadata that can be read is in the usual encoding what its message is encoded to. -/
theorem map_usualMetadata {field : String} {column : Option (List UInt8)} {metadata : Option Metadata}
    (h : column.mapM (Convert.ofBytes Metadata.codec field) = .ok metadata) :
    column.map usualMetadata = metadata.map Metadata.codec.encode := by
  cases column with
  | none =>
    cases h
    rfl
  | some bytes =>
    change some <$> Convert.ofBytes Metadata.codec field bytes = .ok metadata at h
    cases hx : Convert.ofBytes Metadata.codec field bytes with
    | error failure =>
      rw [hx] at h
      cases h
    | ok x =>
      rw [hx] at h
      obtain rfl := Except.ok.inj h
      exact congrArg some (usualMetadata_of_ofBytes hx)

/-- A row in the usual encoding is read as the row is. -/
theorem reverts_usual (ha : e.Addressable m) (h : Reverts e row m) : Reverts e (e.usual row) m := by
  cases e with
  | comment =>
    obtain ⟨flags, hf, rfl⟩ := fillComment_ok h
    show fillComment _ default = _
    unfold fillComment Entity.usual
    simp only [usualTexts_of_ofJson hf, ofJson_texts]
    rfl
  | article =>
    obtain ⟨keywords, meta_, hk, hm, rfl⟩ := fillArticle_ok h
    show fillArticle _ default = _
    unfold fillArticle Entity.usual
    simp only [usualTexts_of_ofJson hk, ofJson_texts, map_usualMetadata hm, mapM_ofBytes_map_encode "meta" ha]
    rfl
  | blogPost | author | tag | reply | thread | digest => exact h

theorem faithful_usual (ha : e.Addressable m) (h : Reverts e row m) :
    Faithful (table e) (e.usual row) := by
  cases e with
  | comment =>
    obtain ⟨flags, hf, rfl⟩ := fillComment_ok h
    exact ⟨flags, usualTexts_of_ofJson hf⟩
  | article =>
    obtain ⟨keywords, meta_, hk, hm, rfl⟩ := fillArticle_ok h
    refine ⟨⟨keywords, usualTexts_of_ofJson hk⟩, fun bytes hb => ?_⟩
    change bytes ∈ (ArticleRecord.meta_ row).map usualMetadata at hb
    rw [map_usualMetadata hm, Option.mem_def, Option.map_eq_some_iff] at hb
    obtain ⟨x, hx, rfl⟩ := hb
    exact ⟨x, ha x hx, rfl⟩
  | blogPost | author | tag | reply | thread | digest => trivial

/-! ## Rows -/

/-- A number is that of a stored author. -/
def hasAuthor (store : Store Kind) (n : UInt64) : Bool :=
  (store.rows (.record .author)).any fun author => AuthorRecord.id author == n

/-- A text is that of a stored tag. -/
def hasTag (store : Store Kind) (id : String) : Bool :=
  (store.rows (.record .tag)).any fun tag => TagRecord.id tag == id

/-- The row of a record as an update writes it: an article keeps its writer if that is stored. -/
def Entity.repointed (store : Store Kind) : (e : Entity) → Domain.Record e → Domain.Record e
  | article, (r : ArticleRecord) =>
    { (article.usual r : ArticleRecord) with writerId := r.writerId.filter (hasAuthor store) }
  | comment, r => comment.usual r
  | blogPost, r | author, r | tag, r | reply, r | thread, r | digest, r => r

/-- A reply as its thread writes it, which does not know of digests. -/
def withoutDigest (x : ReplyRecord) : ReplyRecord := { x with digestId := none }

/-- What an update with what was read of a record makes of a row. -/
def Entity.rewritten (store : Store Kind) :
    (e : Entity) → Domain.Record e → (kind : Kind) → Row kind → Option (Row kind)
  | comment, (row : CommentRecord), .record .comment, (x : CommentRecord) =>
    some (if x.id = row.id then comment.usual x else x)
  | article, (row : ArticleRecord), .record .article, (x : ArticleRecord) =>
    some (if x.id = row.id then article.repointed store x else x)
  | article, (row : ArticleRecord), .record .comment, (x : CommentRecord) =>
    some (if x.articleId = row.id then comment.usual x else x)
  | thread, (row : ThreadRecord), .record .reply, (x : ReplyRecord) =>
    some (if x.threadId = some row.id then withoutDigest x else x)
  | thread, (row : ThreadRecord), .threadTopic, (x : ThreadTopic) =>
    if x.threadId = row.id ∧ hasTag store x.tagId = false then none else some x
  | digest, (row : DigestRecord), .record .reply, (x : ReplyRecord) =>
    if x.digestId = some row.id then none else some x
  | digest, (row : DigestRecord), .digestFeatured, (x : DigestTag) =>
    if x.digestId = row.id ∧ hasTag store x.tagId = false then none else some x
  | digest, (row : DigestRecord), .digestHidden, (x : DigestTag) =>
    if x.digestId = row.id then none else some x
  | _, _, _, x => some x

variable {store : Store Kind} {kind : Kind} {x y : Row kind}

theorem key_repointed (row : Record e) :
    (record (table e)).key (e.repointed store row) = (record (table e)).key row := by
  cases e <;> rfl

theorem keyOf_repointed (row : Record e) : keyOf e (e.repointed store row) = keyOf e row :=
  congrArg (record (table e)).rowKey.toValue (key_repointed row)

theorem key_rewritten (h : e.rewritten store row kind x = some y) :
    (record kind).key y = (record kind).key x := by
  unfold Entity.rewritten at h
  split at h
  case h_1 | h_2 | h_3 | h_4 => cases h; split <;> rfl
  case h_5 | h_6 | h_7 | h_8 => split at h <;> cases h; rfl
  case h_9 => cases h; rfl

theorem keepsKeys_rewritten : KeepsKeys (e.rewritten store row) :=
  fun {kind _ _} h => congrArg (record kind).rowKey.toValue (key_rewritten h)

theorem rewritten_self (row : Record e) :
    e.rewritten store row (table e) row = some (e.repointed store row) := by
  cases e with
  | article | comment => exact congrArg some (if_pos rfl)
  | blogPost | author | tag | reply | thread | digest => rfl

theorem linked_entry_iff {parent : Record Entity.digest} {x : Row (Kind.record .reply)} :
    Linked (Kind.record .reply) digestEntries.column (keyOf Entity.digest parent) x ↔
      ReplyRecord.digestId x = some (DigestRecord.id parent) := by
  rw [linked_iff (v := toValue (ReplyRecord.digestId x)) rfl (isExact_number _)]
  exact ⟨fun h => toValue_number_injective h, fun h => h ▸ rfl⟩

theorem rewritten_comment {row : Record Entity.article} {x : Row (Kind.record .comment)}
    (h : CommentRecord.articleId x = ArticleRecord.id row) :
    Entity.article.rewritten store row (.record .comment) x = some (Entity.comment.usual x) :=
  congrArg some (if_pos h)

theorem rewritten_reply {row : Record Entity.thread} {x : Row (Kind.record .reply)}
    (h : ReplyRecord.threadId x = some (ThreadRecord.id row)) :
    Entity.thread.rewritten store row (.record .reply) x = some (withoutDigest x) :=
  congrArg some (if_pos h)

theorem rewritten_entry {row : Record Entity.digest} {x : Row (Kind.record .reply)}
    (h : ReplyRecord.digestId x = some (DigestRecord.id row)) :
    Entity.digest.rewritten store row (.record .reply) x = none :=
  if_pos h

/-- Of the rows that stay, only that of the record and its children are changed. -/
theorem rewritten_changes (h : e.rewritten store row kind x = some y) (hn : y ≠ x) :
    (kind = table e ∧ key y = key row) ∨ ∃ link : Children e, .children link ∈ Bindings.links e ∧
      kind = table link.target ∧ Linked kind link.column (keyOf e row) y := by
  unfold Entity.rewritten at h
  split at h
  case h_1 row x =>
    split at h
    · next same =>
      cases h
      exact Or.inl ⟨rfl, congrArg Value.uint same⟩
    · cases h
      exact absurd rfl hn
  case h_2 row x =>
    split at h
    · next same =>
      cases h
      exact Or.inl ⟨rfl, congrArg toValue same⟩
    · cases h
      exact absurd rfl hn
  case h_3 row x =>
    split at h
    · next same =>
      cases h
      exact Or.inr ⟨articleComments, List.mem_cons_of_mem _ List.mem_cons_self, rfl,
        linked_comment_iff.mpr same⟩
    · cases h
      exact absurd rfl hn
  case h_4 row x =>
    split at h
    · next same =>
      cases h
      exact Or.inr ⟨threadReplies, List.mem_cons_self, rfl, linked_reply_iff.mpr same⟩
    · cases h
      exact absurd rfl hn
  case h_5 | h_6 | h_7 | h_8 =>
    split at h
    · cases h
    · cases h
      exact absurd rfl hn
  case h_9 =>
    cases h
    exact absurd rfl hn

/-- Only entries of a digest are left out, and join rows where links are exchanged. -/
theorem rewritten_drops (h : e.rewritten store row kind x = none) :
    (∃ link : Children e, .children link ∈ Bindings.links e ∧ link.strategy = .clear ∧
      kind = table link.target ∧ Linked kind link.column (keyOf e row) x) ∨
    ∃ link : Joined e, .joined link ∈ Bindings.links e ∧ link.strategy ≠ .append ∧
      kind = link.join ∧ Linked kind link.ownerColumn (keyOf e row) x := by
  unfold Entity.rewritten at h
  split at h
  case h_1 | h_2 | h_3 | h_4 | h_9 => cases h
  case h_5 row x =>
    split at h
    · next owned =>
      have hl : .joined threadTopics ∈ Bindings.links Entity.thread :=
        List.mem_cons_of_mem _ List.mem_cons_self
      refine Or.inr ⟨threadTopics, hl, nofun, rfl, (linked_iff_owner hl).mpr ?_⟩
      exact congrArg (fun n => some (Value.uint n)) owned.1
    · cases h
  case h_6 row x =>
    split at h
    · next owned =>
      exact Or.inl ⟨digestEntries, List.mem_cons_self, rfl, rfl, linked_entry_iff.mpr owned⟩
    · cases h
  case h_7 row x =>
    split at h
    · next owned =>
      have hl : .joined digestFeatured ∈ Bindings.links Entity.digest :=
        List.mem_cons_of_mem _ List.mem_cons_self
      refine Or.inr ⟨digestFeatured, hl, nofun, rfl, (linked_iff_owner hl).mpr ?_⟩
      exact congrArg (fun n => some (Value.uint n)) owned.1
    · cases h
  case h_8 row x =>
    split at h
    · next owned =>
      have hl : .joined digestHidden ∈ Bindings.links Entity.digest :=
        List.mem_cons_of_mem _ (List.mem_cons_of_mem _ List.mem_cons_self)
      refine Or.inr ⟨digestHidden, hl, nofun, rfl, (linked_iff_owner hl).mpr ?_⟩
      exact congrArg (fun n => some (Value.uint n)) owned
    · cases h

/-- Children stay with their parents. -/
theorem satisfies_rewritten {link : Children e} (hl : .children link ∈ Bindings.links e)
    {x y : Row (table link.target)} (h : e.rewritten store row (table link.target) x = some y) :
    (record (table link.target)).satisfies [.eq link.column (keyOf e row)] y =
      (record (table link.target)).satisfies [.eq link.column (keyOf e row)] x := by
  refine forall_children (P := fun e link => ∀ (row : Record e) (x y : Row (table link.target)),
    e.rewritten store row (table link.target) x = some y →
      (record (table link.target)).satisfies [.eq link.column (keyOf e row)] y =
        (record (table link.target)).satisfies [.eq link.column (keyOf e row)] x) ?_ ?_ ?_ hl row x y h
  · intro row x y h
    by_cases same : CommentRecord.articleId x = ArticleRecord.id row
    · cases (rewritten_comment same).symm.trans h
      rfl
    · cases (congrArg some (if_neg same)).symm.trans h
      rfl
  · intro row x y h
    by_cases same : ReplyRecord.threadId x = some (ThreadRecord.id row)
    · cases (rewritten_reply same).symm.trans h
      rfl
    · cases (congrArg some (if_neg same)).symm.trans h
      rfl
  · intro row x y h
    by_cases same : ReplyRecord.digestId x = some (DigestRecord.id row)
    · cases (rewritten_entry same).symm.trans h
    · cases (if_neg same).symm.trans h
      rfl

end ProtoStore.Blog
