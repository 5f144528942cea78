import ProtoStore.Blog.Domain
import ProtoStore.Proofs.Domain.Reading
import ProtoStore.Proofs.Json.Codec
import ProtoStore.Proofs.Store.Columns
import ProtoStore.Proofs.Store.Equality
import ProtoStore.Proofs.Wire.Codec

/-!
# Rows of the blog read back

* `Faithful row` : the encoded columns of a row hold what was encoded into them;
* `faithful_of_fillRecord` : so it is for records of messages;
* `fillMessage_ok` : such rows have messages;
* `fillRecord_of_fillMessage` : whose records are the rows without the keys of others (`bare`).
-/

namespace ProtoStore.Blog

open Domain Wire

instance : ExactKeys Kind where
  isExact kind row := by
    cases kind with
    | record e =>
      cases e with
      | article =>
        rcases (row : ArticleRecord) with ⟨_ | id, _, _, _, _, _, _, _⟩ <;> rfl
      | blogPost | author | comment | tag | reply | thread | digest => rfl
    | articleTag => rcases (row : ArticleTag) with ⟨_ | id, tag⟩ <;> rfl
    | threadTopic | digestFeatured | digestHidden => rfl

instance : KeyColumns Entity where
  value? e row := by cases e <;> rfl

/-! ## Encoded columns -/

theorem readsBack_texts (values : List String) : texts.ReadsBack values :=
  Json.Codec.readsBack_list fun text _ => Json.Codec.readsBack_string text

theorem ofJson_texts (field : String) (values : List String) :
    Convert.ofJson texts field (texts.encode values) = .ok values := by
  have ne := Json.Codec.encode_ne_empty (readsBack_texts values)
  simp [Convert.ofJson, ne, Json.Codec.decode?_encode (readsBack_texts values)]

/-- The source of metadata fits a memory, as all texts do. It is stored after its number of bytes. -/
def Metadata.Addressable (m : Metadata) : Prop := m.source.utf8ByteSize < UInt64.size

theorem Metadata.merge_encode {m : Metadata} (h : m.Addressable) (depth : Nat) :
    codec.merge depth (codec.encode m) codec.blank = some m := by
  obtain ⟨source, revision⟩ := m
  have first : codec.Merges depth
      ((Field.single 1 .string (·.source) fun x m => { m with source := x }).write
        (⟨source, revision⟩ : Metadata))
      fun x => if source = default then x else { x with source } :=
    Codec.merges_single (by decide) (by decide) rfl (Scalar.readsBack_string h)
  have second : codec.Merges depth
      ((Field.single 2 .int32 (·.revision) fun x m => { m with revision := x }).write
        (⟨source, revision⟩ : Metadata))
      fun x => if revision = default then x else { x with revision } :=
    Codec.merges_single (by decide) (by decide) rfl (Scalar.readsBack_int32 revision)
  have whole := (first.append (second.append Codec.merges_nil)).merge_eq codec.blank
  refine whole.trans (congrArg some ?_)
  have blank : codec.blank = ⟨default, default⟩ := rfl
  simp only [blank, Function.comp_apply, id]
  clear first second whole
  by_cases hs : source = default <;> by_cases hr : revision = default <;> simp_all

theorem Metadata.decode?_encode {m : Metadata} (h : m.Addressable) :
    codec.decode? (codec.encode m) = some m :=
  merge_encode h Codec.depthLimit

theorem ofBytes_metadata (field : String) {m : Metadata} (h : m.Addressable) :
    Convert.ofBytes Metadata.codec field (Metadata.codec.encode m) = .ok m := by
  rw [Convert.ofBytes, Metadata.decode?_encode h]

/-! ## Messages and rows -/

/-- Metadata of a message fits a memory. -/
def Entity.Addressable : (e : Entity) → e.Message → Prop
  | article, (m : Article) => ∀ x ∈ m.meta_, x.Addressable
  | blogPost, _ | author, _ | comment, _ | tag, _ | reply, _ | thread, _ | digest, _ => True

/-- The encoded columns of a row hold what was encoded into them. -/
def Faithful : (kind : Kind) → Row kind → Prop
  | .record .comment, (r : CommentRecord) => ∃ flags, r.flags = texts.encode flags
  | .record .article, (r : ArticleRecord) =>
    (∃ keywords, r.keywords = texts.encode keywords) ∧
      ∀ bytes ∈ r.meta_, ∃ m : Metadata, m.Addressable ∧ bytes = Metadata.codec.encode m
  | .record .blogPost, _ | .record .author, _ | .record .tag, _ | .record .reply, _
  | .record .thread, _ | .record .digest, _ | .articleTag, _ | .threadTopic, _
  | .digestFeatured, _ | .digestHidden, _ => True

/-- A record without the keys of other records. -/
def Entity.bare : (e : Entity) → e.Record → e.Record
  | comment, (r : CommentRecord) => { r with articleId := none }
  | article, (r : ArticleRecord) => { r with writerId := none }
  | reply, (r : ReplyRecord) => { r with threadId := none, digestId := none }
  | blogPost, r | author, r | tag, r | thread, r | digest, r => r

theorem fillArticleRecord_ok {m : Article} {r written : ArticleRecord}
    (h : fillArticleRecord m r = .ok written) :
    ∃ id publishedAt, Convert.uuid? "id" (m.id.map (·.value)) = .ok id ∧
      m.publishedAt.mapM (Convert.moment "published_at") = .ok publishedAt ∧
      written = { r with
        id, title := m.title, publishedAt, status := m.status, keywords := texts.encode m.keywords
        meta_ := m.meta_.map Metadata.codec.encode, rating := m.rating } := by
  rw [fillArticleRecord] at h
  cases hi : Convert.uuid? "id" (m.id.map (·.value)) with
  | error failure => simp [hi, bind, Except.bind] at h
  | ok id =>
    cases hp : m.publishedAt.mapM (Convert.moment "published_at") with
    | error failure => simp [hi, hp, bind, Except.bind] at h
    | ok publishedAt =>
      simp only [hi, hp, bind, Except.bind, pure, Except.pure, Except.ok.injEq] at h
      exact ⟨id, publishedAt, rfl, rfl, h.symm⟩

theorem fillComment_ok {r : CommentRecord} {m : Comment} (h : fillComment r default = .ok m) :
    ∃ flags, Convert.ofJson texts "flags" r.flags = .ok flags ∧
      m = { (default : Comment) with id := r.id, body := r.body, flags } := by
  unfold fillComment at h
  cases hf : Convert.ofJson texts "flags" r.flags with
  | error failure =>
    rw [hf] at h
    cases h
  | ok flags =>
    rw [hf] at h
    exact ⟨flags, rfl, (Except.ok.inj h).symm⟩

theorem fillArticle_ok {r : ArticleRecord} {m : Article} (h : fillArticle r default = .ok m) :
    ∃ keywords meta_, Convert.ofJson texts "keywords" r.keywords = .ok keywords ∧
      r.meta_.mapM (Convert.ofBytes Metadata.codec "meta") = .ok meta_ ∧
      m = { (default : Article) with
        id := r.id.map fun u => ⟨u.text⟩, title := r.title
        publishedAt := r.publishedAt.map Moment.toTimestamp
        status := r.status, keywords, meta_, rating := r.rating } := by
  unfold fillArticle at h
  cases hk : Convert.ofJson texts "keywords" r.keywords with
  | error failure =>
    rw [hk] at h
    cases h
  | ok keywords =>
    cases hm : r.meta_.mapM (Convert.ofBytes Metadata.codec "meta") with
    | error failure =>
      rw [hk, hm] at h
      cases h
    | ok meta_ =>
      rw [hk, hm] at h
      exact ⟨keywords, meta_, rfl, rfl, (Except.ok.inj h).symm⟩

/-- Records of messages are faithful. -/
theorem faithful_of_fillRecord {e : Entity} {m : e.Message} {row : e.Record}
    (ha : e.Addressable m) (h : e.fillRecord m e.blankRecord = .ok row) :
    Faithful (.record e) row := by
  cases e with
  | comment =>
    cases h
    exact ⟨(m : Comment).flags, rfl⟩
  | article =>
    obtain ⟨id, publishedAt, -, -, rfl⟩ := fillArticleRecord_ok h
    refine ⟨⟨(m : Article).keywords, rfl⟩, fun bytes hb => ?_⟩
    obtain ⟨x, hx, rfl⟩ := Option.map_eq_some_iff.mp hb
    exact ⟨x, ha x hx, rfl⟩
  | blogPost | author | tag | reply | thread | digest => trivial

/-- The record of an article's message is the row it comes from. -/
theorem fillArticle_faithful {r : ArticleRecord} (h : Faithful (.record .article) r) :
    ∃ m, fillArticle r default = .ok m ∧ Entity.article.Addressable m ∧
      fillArticleRecord m default = .ok { r with writerId := none } := by
  obtain ⟨⟨keywords, hk⟩, hm⟩ := h
  obtain ⟨meta_, hmeta, hcolumn, haddr⟩ : ∃ meta_ : Option Metadata,
      r.meta_.mapM (Convert.ofBytes Metadata.codec "meta") = .ok meta_ ∧
        meta_.map Metadata.codec.encode = r.meta_ ∧ ∀ x ∈ meta_, x.Addressable := by
    cases hb : r.meta_ with
    | none => exact ⟨none, rfl, rfl, fun x hx => by cases hx⟩
    | some bytes =>
      obtain ⟨x, hx, rfl⟩ := hm bytes hb
      refine ⟨some x, ?_, rfl, fun y hy => by cases hy; exact hx⟩
      show some <$> Convert.ofBytes _ _ _ = _
      rw [ofBytes_metadata "meta" hx]
      rfl
  refine ⟨{ (default : Article) with
    id := r.id.map fun u => ⟨u.text⟩, title := r.title
    publishedAt := r.publishedAt.map Moment.toTimestamp
    status := r.status, keywords, meta_, rating := r.rating }, ?_, haddr, ?_⟩
  · simp [fillArticle, hk, ofJson_texts, hmeta, bind, Except.bind, pure, Except.pure]
  · have id : Convert.uuid? "id" ((r.id.map fun u => (⟨u.text⟩ : UuidText)).map (·.value)) = .ok r.id := by
      cases r.id with
      | none => rfl
      | some u => simp [Convert.uuid?, Uuid.text_ne_empty, Uuid.parse?_text]
    have publishedAt : (r.publishedAt.map Moment.toTimestamp).mapM
        (Convert.moment "published_at") = .ok r.publishedAt := by
      cases r.publishedAt with
      | none => rfl
      | some t =>
        show some <$> Convert.moment _ _ = _
        rw [Convert.moment, Moment.ofTimestamp_toTimestamp]
        rfl
    simp only [fillArticleRecord, id, publishedAt, hcolumn, ← hk, bind, Except.bind, pure, Except.pure]
    rfl

/-- The message of a faithful row, and the row that comes of it again. -/
theorem fillMessage_faithful {e : Entity} {row : e.Record} (h : Faithful (.record e) row) :
    ∃ m, e.fillMessage row e.blank = .ok m ∧ e.Addressable m ∧
      e.fillRecord m e.blankRecord = .ok (e.bare row) := by
  cases e with
  | comment =>
    obtain ⟨flags, hf⟩ := h
    refine ⟨{ (default : Comment) with
      id := (row : CommentRecord).id, body := (row : CommentRecord).body, flags }, ?_, trivial, ?_⟩
    · show fillComment row default = _
      simp [fillComment, hf, ofJson_texts, bind, Except.bind, pure, Except.pure]
    · show Except.ok (fillCommentRecord _ _) = _
      simp [fillCommentRecord, ← hf, Entity.bare, Entity.blankRecord]
      rfl
  | article => exact fillArticle_faithful h
  | blogPost | author | tag | reply | thread | digest => exact ⟨_, rfl, trivial, rfl⟩

end ProtoStore.Blog
