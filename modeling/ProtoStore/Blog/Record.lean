import ProtoStore.Store.Record

/-!
# Records of a blog

The rows that messages of the blog are stored in. A record has a column for each field of its message
that is not stored apart. Beyond that an article holds the key of its writer, comments and replies
hold the keys of their parents, and join records hold the keys of an owner and a tag.
-/

namespace ProtoStore.Blog

open Number

/-- The record of a post. -/
structure BlogPostRecord where
  id : UInt64
  title : String
  author : String
deriving Repr, DecidableEq, Inhabited

/-- How posts are stored. -/
def BlogPostRecord.type : RecordType BlogPostRecord where
  table := "blog_posts"
  columns := [
    .of "id" (·.id) fun x r => { r with id := x },
    .of "title" (·.title) fun x r => { r with title := x },
    .of "author" (·.author) fun x r => { r with author := x }]
  keyColumn := "id"
  Key := UInt64
  rowKey := inferInstance
  key := (·.id)
  setKey key r := { r with id := key }

/-- The record of an author. -/
structure AuthorRecord where
  id : UInt64
  name : String
  email : Option String
deriving Repr, DecidableEq, Inhabited

/-- How authors are stored. -/
def AuthorRecord.type : RecordType AuthorRecord where
  table := "authors"
  columns := [
    .of "id" (·.id) fun x r => { r with id := x },
    .of "name" (·.name) fun x r => { r with name := x },
    .of "email" (·.email) fun x r => { r with email := x }]
  keyColumn := "id"
  Key := UInt64
  rowKey := inferInstance
  key := (·.id)
  setKey key r := { r with id := key }

/-- The record of a comment. -/
structure CommentRecord where
  id : UInt64
  body : String
  /-- The flags as JSON. -/
  flags : String
  articleId : Option Uuid
deriving Repr, DecidableEq, Inhabited

/-- How comments are stored. -/
def CommentRecord.type : RecordType CommentRecord where
  table := "comments"
  columns := [
    .of "id" (·.id) fun x r => { r with id := x },
    .of "body" (·.body) fun x r => { r with body := x },
    .of "flags" (·.flags) fun x r => { r with flags := x },
    .of "article_id" (·.articleId) fun x r => { r with articleId := x }]
  keyColumn := "id"
  Key := UInt64
  rowKey := inferInstance
  key := (·.id)
  setKey key r := { r with id := key }

/-- The record of a tag. -/
structure TagRecord where
  id : String
  label : String
deriving Repr, DecidableEq, Inhabited

/-- How tags are stored. -/
def TagRecord.type : RecordType TagRecord where
  table := "labels"
  columns := [
    .of "id" (·.id) fun x r => { r with id := x },
    .of "label_text" (·.label) fun x r => { r with label := x }]
  keyColumn := "id"
  Key := String
  rowKey := inferInstance
  key := (·.id)
  setKey key r := { r with id := key }

/-- The record of an article. -/
structure ArticleRecord where
  id : Option Uuid
  title : String
  publishedAt : Option Moment
  status : Int32
  /-- The keywords as JSON. -/
  keywords : String
  /-- The metadata, encoded. -/
  meta_ : Option (List UInt8)
  rating : Option Double
  writerId : Option UInt64
deriving Repr, DecidableEq, Inhabited

/-- How articles are stored. -/
def ArticleRecord.type : RecordType ArticleRecord where
  table := "articles"
  columns := [
    .of "id" (·.id) fun x r => { r with id := x },
    .of "title" (·.title) fun x r => { r with title := x },
    .of "published_at" (·.publishedAt) fun x r => { r with publishedAt := x },
    .of "status" (·.status) fun x r => { r with status := x },
    .of "keywords" (·.keywords) fun x r => { r with keywords := x },
    .of "meta" (·.meta_) fun x r => { r with meta_ := x },
    .of "rating" (·.rating) fun x r => { r with rating := x },
    .of "writer_id" (·.writerId) fun x r => { r with writerId := x }]
  keyColumn := "id"
  Key := Option Uuid
  rowKey := inferInstance
  key := (·.id)
  setKey key r := { r with id := key }

/-- The record of a reply. -/
structure ReplyRecord where
  id : UInt64
  text : String
  threadId : Option UInt64
  digestId : Option UInt64
deriving Repr, DecidableEq, Inhabited

/-- How replies are stored. -/
def ReplyRecord.type : RecordType ReplyRecord where
  table := "replies"
  columns := [
    .of "id" (·.id) fun x r => { r with id := x },
    .of "text" (·.text) fun x r => { r with text := x },
    .of "thread_id" (·.threadId) fun x r => { r with threadId := x },
    .of "digest_id" (·.digestId) fun x r => { r with digestId := x }]
  keyColumn := "id"
  Key := UInt64
  rowKey := inferInstance
  key := (·.id)
  setKey key r := { r with id := key }

/-- The record of a thread. -/
structure ThreadRecord where
  id : UInt64
  title : String
deriving Repr, DecidableEq, Inhabited

/-- How threads are stored. -/
def ThreadRecord.type : RecordType ThreadRecord where
  table := "threads"
  columns := [
    .of "id" (·.id) fun x r => { r with id := x },
    .of "title" (·.title) fun x r => { r with title := x }]
  keyColumn := "id"
  Key := UInt64
  rowKey := inferInstance
  key := (·.id)
  setKey key r := { r with id := key }

/-- The record of a digest. -/
structure DigestRecord where
  id : UInt64
deriving Repr, DecidableEq, Inhabited

/-- How digests are stored. -/
def DigestRecord.type : RecordType DigestRecord where
  table := "digests"
  columns := [.of "id" (·.id) fun x r => { r with id := x }]
  keyColumn := "id"
  Key := UInt64
  rowKey := inferInstance
  key := (·.id)
  setKey key r := { r with id := key }

/-- A tag of an article. -/
structure ArticleTag where
  articleId : Option Uuid
  tagId : String
deriving Repr, DecidableEq, Inhabited

/-- How tags of articles are stored. -/
def ArticleTag.type : RecordType ArticleTag where
  table := "article_tags"
  columns := [
    .of "article_id" (·.articleId) fun x r => { r with articleId := x },
    .of "tag_id" (·.tagId) fun x r => { r with tagId := x }]
  keyColumn := "article_id"
  Key := Option Uuid × String
  rowKey := inferInstance
  key r := (r.articleId, r.tagId)
  setKey key r := { r with articleId := key.1, tagId := key.2 }

/-- A topic of a thread. -/
structure ThreadTopic where
  threadId : UInt64
  tagId : String
deriving Repr, DecidableEq, Inhabited

/-- How topics of threads are stored. -/
def ThreadTopic.type : RecordType ThreadTopic where
  table := "thread_topics"
  columns := [
    .of "thread_id" (·.threadId) fun x r => { r with threadId := x },
    .of "tag_id" (·.tagId) fun x r => { r with tagId := x }]
  keyColumn := "thread_id"
  Key := UInt64 × String
  rowKey := inferInstance
  key r := (r.threadId, r.tagId)
  setKey key r := { r with threadId := key.1, tagId := key.2 }

/-- A tag of a digest. -/
structure DigestTag where
  digestId : UInt64
  tagId : String
deriving Repr, DecidableEq, Inhabited

/-- How tags of digests are stored, in a table. -/
def DigestTag.type (table : String) : RecordType DigestTag where
  table := table
  columns := [
    .of "digest_id" (·.digestId) fun x r => { r with digestId := x },
    .of "tag_id" (·.tagId) fun x r => { r with tagId := x }]
  keyColumn := "digest_id"
  Key := UInt64 × String
  rowKey := inferInstance
  key r := (r.digestId, r.tagId)
  setKey key r := { r with digestId := key.1, tagId := key.2 }

/-- The kinds of messages that have tables. -/
inductive Entity
  | blogPost
  | author
  | comment
  | tag
  | article
  | reply
  | thread
  | digest
deriving Repr, DecidableEq

namespace Entity

/-- All kinds of messages. -/
def all : List Entity :=
  [blogPost, author, comment, tag, article, reply, thread, digest]

/-- The name of the messages in the schema. -/
def name : Entity → String
  | blogPost => "BlogPost"
  | author => "Author"
  | comment => "Comment"
  | tag => "Tag"
  | article => "Article"
  | reply => "Reply"
  | thread => "Thread"
  | digest => "Digest"

/-- The kind of the messages with the given name. -/
def ofName? (name : String) : Option Entity := all.find? (·.name == name)

end Entity

/-- The kinds of rows: the records of messages, and join records. -/
inductive Kind
  | record (e : Entity)
  | articleTag
  | threadTopic
  | digestFeatured
  | digestHidden
deriving Repr, DecidableEq

/-- The records of a kind of messages. -/
abbrev Entity.Record : Entity → Type
  | blogPost => BlogPostRecord
  | author => AuthorRecord
  | comment => CommentRecord
  | tag => TagRecord
  | article => ArticleRecord
  | reply => ReplyRecord
  | thread => ThreadRecord
  | digest => DigestRecord

/-- How the records of a kind of messages are stored. -/
def Entity.type : (e : Entity) → RecordType e.Record
  | blogPost => BlogPostRecord.type
  | author => AuthorRecord.type
  | comment => CommentRecord.type
  | tag => TagRecord.type
  | article => ArticleRecord.type
  | reply => ReplyRecord.type
  | thread => ThreadRecord.type
  | digest => DigestRecord.type

/-- The rows of a kind. -/
abbrev Kind.Row : Kind → Type
  | record e => e.Record
  | articleTag => ArticleTag
  | threadTopic => ThreadTopic
  | digestFeatured => DigestTag
  | digestHidden => DigestTag

/-- How the rows of a kind are stored. -/
def Kind.type : (kind : Kind) → RecordType kind.Row
  | record e => e.type
  | articleTag => ArticleTag.type
  | threadTopic => ThreadTopic.type
  | digestFeatured => DigestTag.type "digest_featured"
  | digestHidden => DigestTag.type "digest_hidden"

instance : Catalog Kind where
  Row := Kind.Row
  record := Kind.type
  kinds := Entity.all.map .record ++ [.articleTag, .threadTopic, .digestFeatured, .digestHidden]

end ProtoStore.Blog
