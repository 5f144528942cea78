import ProtoStore.Blog.Message
import ProtoStore.Blog.Record
import ProtoStore.Domain.Operations
import ProtoStore.Store.Convert

/-!
# The blog

The domain of the blog: how its messages become records and back, how they are linked, and how masks
name their fields. Articles refer to their writer, have comments, of which an update keeps the
provided ones, and gather tags; threads have replies and topics, which an update exchanges; digests
drop their entries and hidden tags and exchange the featured ones.
-/

namespace ProtoStore.Blog

open Domain

/-! ## Messages -/

/-- The messages of a kind. -/
abbrev Entity.Message : Entity → Type
  | blogPost => BlogPost
  | author => Author
  | comment => Comment
  | tag => Tag
  | article => Article
  | reply => Reply
  | thread => Thread
  | digest => Digest

instance : Entities Entity Kind where
  Message := Entity.Message
  table := .record

/-- A message with all fields at their defaults. -/
def Entity.blank : (e : Entity) → e.Message
  | blogPost => (default : BlogPost)
  | author => (default : Author)
  | comment => (default : Comment)
  | tag => (default : Tag)
  | article => (default : Article)
  | reply => (default : Reply)
  | thread => (default : Thread)
  | digest => (default : Digest)

/-- A record with all columns at their defaults. -/
def Entity.blankRecord : (e : Entity) → e.Record
  | blogPost => (default : BlogPostRecord)
  | author => (default : AuthorRecord)
  | comment => (default : CommentRecord)
  | tag => (default : TagRecord)
  | article => (default : ArticleRecord)
  | reply => (default : ReplyRecord)
  | thread => (default : ThreadRecord)
  | digest => (default : DigestRecord)

/-! ## Conversions -/

/-- Lists of texts in a column. -/
def texts : Json.Codec (List String) := Json.Codec.string.list

/-- Sets the columns of an article's record. -/
def fillArticleRecord (m : Article) (r : ArticleRecord) : Except Failure ArticleRecord := do
  let id ← Convert.uuid? "id" (m.id.map (·.value))
  let publishedAt ← m.publishedAt.mapM (Convert.moment "published_at")
  return { r with
    id, title := m.title, publishedAt, status := m.status, keywords := texts.encode m.keywords
    meta_ := m.meta_.map Metadata.codec.encode, rating := m.rating }

/-- Sets the fields of an article. -/
def fillArticle (r : ArticleRecord) (m : Article) : Except Failure Article := do
  let keywords ← Convert.ofJson texts "keywords" r.keywords
  let meta_ ← r.meta_.mapM (Convert.ofBytes Metadata.codec "meta")
  return { m with
    id := r.id.map fun u => ⟨u.text⟩, title := r.title
    publishedAt := r.publishedAt.map Moment.toTimestamp
    status := r.status, keywords, meta_, rating := r.rating }

/-- Sets the columns of a comment's record. -/
def fillCommentRecord (m : Comment) (r : CommentRecord) : CommentRecord :=
  { r with id := m.id, body := m.body, flags := texts.encode m.flags }

/-- Sets the fields of a comment. -/
def fillComment (r : CommentRecord) (m : Comment) : Except Failure Comment := do
  let flags ← Convert.ofJson texts "flags" r.flags
  return { m with id := r.id, body := r.body, flags }

/-- Sets the columns of a record that hold fields of a message. -/
def Entity.fillRecord : (e : Entity) → e.Message → e.Record → Except Failure e.Record
  | blogPost, (m : BlogPost), (r : BlogPostRecord) =>
    .ok { r with id := m.id, title := m.title, author := m.author }
  | author, (m : Author), (r : AuthorRecord) =>
    .ok { r with id := m.id, name := m.name, email := m.email }
  | comment, m, r => .ok (fillCommentRecord m r)
  | tag, (m : Tag), (r : TagRecord) => .ok { r with id := m.id, label := m.label }
  | article, m, r => fillArticleRecord m r
  | reply, (m : Reply), (r : ReplyRecord) => .ok { r with id := m.id, text := m.text }
  | thread, (m : Thread), (r : ThreadRecord) => .ok { r with id := m.id, title := m.title }
  | digest, (m : Digest), (r : DigestRecord) => .ok { r with id := m.id }

/-- Sets the fields of a message that columns of a record hold. -/
def Entity.fillMessage : (e : Entity) → e.Record → e.Message → Except Failure e.Message
  | blogPost, (r : BlogPostRecord), (m : BlogPost) =>
    .ok { m with id := r.id, title := r.title, author := r.author }
  | author, (r : AuthorRecord), (m : Author) =>
    .ok { m with id := r.id, name := r.name, email := r.email }
  | comment, r, m => fillComment r m
  | tag, (r : TagRecord), (m : Tag) => .ok { m with id := r.id, label := r.label }
  | article, r, m => fillArticle r m
  | reply, (r : ReplyRecord), (m : Reply) => .ok { m with id := r.id, text := r.text }
  | thread, (r : ThreadRecord), (m : Thread) => .ok { m with id := r.id, title := r.title }
  | digest, (r : DigestRecord), (m : Digest) => .ok { m with id := r.id }

/-! ## Links -/

/-- The writer of an article. -/
def articleWriter : Reference Entity.article where
  target := .author
  get (m : Article) := m.writer
  set x (m : Article) := { m with writer := x }
  key (r : ArticleRecord) := RowKey.toValue r.writerId
  keyIsEmpty (r : ArticleRecord) := RowKey.isEmpty r.writerId
  assign (target : Option AuthorRecord) (r : ArticleRecord) :=
    { r with writerId := target.map (·.id) }

/-- The comments on an article. -/
def articleComments : Children Entity.article where
  target := .comment
  strategy := .replace
  get (m : Article) := m.comments
  set x (m : Article) := { m with comments := x }
  column := "article_id"
  attach (parent : ArticleRecord) (r : CommentRecord) := { r with articleId := parent.id }

/-- The tags of an article. -/
def articleTags : Joined Entity.article where
  target := .tag
  join := Kind.articleTag
  strategy := .append
  get (m : Article) := m.tags
  set x (m : Article) := { m with tags := x }
  ownerColumn := "article_id"
  targetColumn := "tag_id"
  link (owner : ArticleRecord) (target : TagRecord) := (⟨owner.id, target.id⟩ : ArticleTag)

/-- The replies of a thread. -/
def threadReplies : Children Entity.thread where
  target := .reply
  strategy := .default
  get (m : Thread) := m.replies
  set x (m : Thread) := { m with replies := x }
  column := "thread_id"
  attach (parent : ThreadRecord) (r : ReplyRecord) := { r with threadId := some parent.id }

/-- The topics of a thread. -/
def threadTopics : Joined Entity.thread where
  target := .tag
  join := Kind.threadTopic
  strategy := .default
  get (m : Thread) := m.topics
  set x (m : Thread) := { m with topics := x }
  ownerColumn := "thread_id"
  targetColumn := "tag_id"
  link (owner : ThreadRecord) (target : TagRecord) := (⟨owner.id, target.id⟩ : ThreadTopic)

/-- The entries of a digest. -/
def digestEntries : Children Entity.digest where
  target := .reply
  strategy := .clear
  get (m : Digest) := m.entries
  set x (m : Digest) := { m with entries := x }
  column := "digest_id"
  attach (parent : DigestRecord) (r : ReplyRecord) := { r with digestId := some parent.id }

/-- The featured tags of a digest. -/
def digestFeatured : Joined Entity.digest where
  target := .tag
  join := Kind.digestFeatured
  strategy := .replace
  get (m : Digest) := m.featured
  set x (m : Digest) := { m with featured := x }
  ownerColumn := "digest_id"
  targetColumn := "tag_id"
  link (owner : DigestRecord) (target : TagRecord) := (⟨owner.id, target.id⟩ : DigestTag)

/-- The hidden tags of a digest. -/
def digestHidden : Joined Entity.digest where
  target := .tag
  join := Kind.digestHidden
  strategy := .clear
  get (m : Digest) := m.hidden
  set x (m : Digest) := { m with hidden := x }
  ownerColumn := "digest_id"
  targetColumn := "tag_id"
  link (owner : DigestRecord) (target : TagRecord) := (⟨owner.id, target.id⟩ : DigestTag)

/-- The links of a message, in the order of their fields. -/
def Entity.links : (e : Entity) → List (MessageLink e)
  | article => [.reference articleWriter, .children articleComments, .joined articleTags]
  | thread => [.children threadReplies, .joined threadTopics]
  | digest => [.children digestEntries, .joined digestFeatured, .joined digestHidden]
  | blogPost | author | comment | tag | reply => []

/-- A message with the key of another and nothing else. -/
def Entity.keyOnly : (e : Entity) → e.Message → e.Message
  | blogPost, (m : BlogPost) => ({ (default : BlogPost) with id := m.id } : BlogPost)
  | author, (m : Author) => ({ (default : Author) with id := m.id } : Author)
  | comment, (m : Comment) => ({ (default : Comment) with id := m.id } : Comment)
  | tag, (m : Tag) => ({ (default : Tag) with id := m.id } : Tag)
  | article, (m : Article) => ({ (default : Article) with id := m.id } : Article)
  | reply, (m : Reply) => ({ (default : Reply) with id := m.id } : Reply)
  | thread, (m : Thread) => ({ (default : Thread) with id := m.id } : Thread)
  | digest, (m : Digest) => ({ (default : Digest) with id := m.id } : Digest)

/-- Takes over the key of the article. -/
def keepArticle (stored r : CommentRecord) : CommentRecord :=
  { r with articleId := stored.articleId }

/-- Takes over the keys of the thread and the digest. -/
def keepThreadAndDigest (stored r : ReplyRecord) : ReplyRecord :=
  { r with threadId := stored.threadId, digestId := stored.digestId }

/-- Takes over the keys of parents from a stored record. -/
def Entity.keepParents? : (e : Entity) → Option (e.Record → e.Record → e.Record)
  | comment => some keepArticle
  | reply => some keepThreadAndDigest
  | blogPost | author | tag | article | thread | digest => none

/-! ## Masks -/

/-- The fields of a post that masks can name. -/
def BlogPost.maskFields : List (MaskField BlogPost) := [
  .whole "Id" (·.id) fun x m => { m with id := x },
  .whole "Title" (·.title) fun x m => { m with title := x },
  .whole "Author" (·.author) fun x m => { m with author := x }]

/-- The fields of an author that masks can name. -/
def Author.maskFields : List (MaskField Author) := [
  .whole "Id" (·.id) fun x m => { m with id := x },
  .whole "Name" (·.name) fun x m => { m with name := x },
  .whole "Email" (·.email) fun x m => { m with email := x }]

/-- The fields of a comment that masks can name. -/
def Comment.maskFields : List (MaskField Comment) := [
  .whole "Id" (·.id) fun x m => { m with id := x },
  .whole "Body" (·.body) fun x m => { m with body := x },
  .whole "Flags" (·.flags) fun x m => { m with flags := x }]

/-- The fields of a tag that masks can name. -/
def Tag.maskFields : List (MaskField Tag) := [
  .whole "Id" (·.id) fun x m => { m with id := x },
  .whole "Label" (·.label) fun x m => { m with label := x }]

/-- The fields of an article that masks can name. -/
def Article.maskFields : List (MaskField Article) := [
  .whole "Id" (·.id) fun x m => { m with id := x },
  .whole "Title" (·.title) fun x m => { m with title := x },
  .holding "Writer" (·.writer) (fun x m => { m with writer := x }) default Author.maskFields,
  .whole "Comments" (·.comments) fun x m => { m with comments := x },
  .whole "Tags" (·.tags) fun x m => { m with tags := x },
  .whole "PublishedAt" (·.publishedAt) fun x m => { m with publishedAt := x },
  .whole "Status" (·.status) fun x m => { m with status := x },
  .whole "Keywords" (·.keywords) fun x m => { m with keywords := x },
  .whole "Meta" (·.meta_) fun x m => { m with meta_ := x },
  .whole "Rating" (·.rating) fun x m => { m with rating := x }]

/-- The fields of a reply that masks can name. -/
def Reply.maskFields : List (MaskField Reply) := [
  .whole "Id" (·.id) fun x m => { m with id := x },
  .whole "Text" (·.text) fun x m => { m with text := x }]

/-- The fields of a thread that masks can name. -/
def Thread.maskFields : List (MaskField Thread) := [
  .whole "Id" (·.id) fun x m => { m with id := x },
  .whole "Title" (·.title) fun x m => { m with title := x },
  .whole "Replies" (·.replies) fun x m => { m with replies := x },
  .whole "Topics" (·.topics) fun x m => { m with topics := x }]

/-- The fields of a digest that masks can name. -/
def Digest.maskFields : List (MaskField Digest) := [
  .whole "Id" (·.id) fun x m => { m with id := x },
  .whole "Entries" (·.entries) fun x m => { m with entries := x },
  .whole "Featured" (·.featured) fun x m => { m with featured := x },
  .whole "Hidden" (·.hidden) fun x m => { m with hidden := x }]

/-- The fields of a message that masks can name. -/
def Entity.maskFields : (e : Entity) → List (MaskField e.Message)
  | blogPost => BlogPost.maskFields
  | author => Author.maskFields
  | comment => Comment.maskFields
  | tag => Tag.maskFields
  | article => Article.maskFields
  | reply => Reply.maskFields
  | thread => Thread.maskFields
  | digest => Digest.maskFields

/-! ## The domain -/

instance : Bindings Entity Kind where
  blank := Entity.blank
  blankRecord := Entity.blankRecord
  fillRecord := Entity.fillRecord
  fillMessage := Entity.fillMessage
  links := Entity.links
  keyOnly := Entity.keyOnly
  keepParents? := Entity.keepParents?
  maskFields := Entity.maskFields

end ProtoStore.Blog
