import ProtoStore.Wire.Known

/-!
# Messages of a blog

Posts, articles with their writer, comments and tags, threads with replies and topics, and digests
of replies and tags; and how they are encoded.
-/

namespace ProtoStore.Blog

open Number Wire

/-- A short post. -/
structure BlogPost where
  id : UInt64
  title : String
  author : String
deriving Repr, DecidableEq, Inhabited

/-- Encoded posts. -/
def BlogPost.codec : Codec BlogPost where
  blank := default
  fields := [
    .single 1 .uint64 (·.id) fun x m => { m with id := x },
    .single 2 .string (·.title) fun x m => { m with title := x },
    .single 3 .string (·.author) fun x m => { m with author := x }]

/-- A writer of articles. -/
structure Author where
  id : UInt64
  name : String
  email : Option String
deriving Repr, DecidableEq, Inhabited

/-- Encoded authors. -/
def Author.codec : Codec Author where
  blank := default
  fields := [
    .single 1 .uint64 (·.id) fun x m => { m with id := x },
    .single 2 .string (·.name) fun x m => { m with name := x },
    .optional 3 .string (·.email) fun x m => { m with email := x }]

/-- A comment on an article. -/
structure Comment where
  id : UInt64
  body : String
  flags : List String
deriving Repr, DecidableEq, Inhabited

/-- Encoded comments. -/
def Comment.codec : Codec Comment where
  blank := default
  fields := [
    .single 1 .uint64 (·.id) fun x m => { m with id := x },
    .single 2 .string (·.body) fun x m => { m with body := x },
    .repeated 3 .string (·.flags) fun x m => { m with flags := x }]

/-- A tag. -/
structure Tag where
  id : String
  label : String
deriving Repr, DecidableEq, Inhabited

/-- Encoded tags. -/
def Tag.codec : Codec Tag where
  blank := default
  fields := [
    .single 1 .string (·.id) fun x m => { m with id := x },
    .single 2 .string (·.label) fun x m => { m with label := x }]

/-- Where an article comes from. It has no table of its own. -/
structure Metadata where
  source : String
  revision : Int32
deriving Repr, DecidableEq, Inhabited

/-- Encoded metadata. -/
def Metadata.codec : Codec Metadata where
  blank := default
  fields := [
    .single 1 .string (·.source) fun x m => { m with source := x },
    .single 2 .int32 (·.revision) fun x m => { m with revision := x }]

/-- An article. -/
structure Article where
  id : Option UuidText
  title : String
  writer : Option Author
  comments : List Comment
  tags : List Tag
  publishedAt : Option Timestamp
  status : Int32
  keywords : List String
  meta_ : Option Metadata
  rating : Option Double
deriving Repr, DecidableEq, Inhabited

/-- Encoded articles. -/
def Article.codec : Codec Article where
  blank := default
  fields := [
    .nested 1 uuidText (·.id) fun x m => { m with id := x },
    .single 2 .string (·.title) fun x m => { m with title := x },
    .nested 3 Author.codec (·.writer) fun x m => { m with writer := x },
    .nestedAll 4 Comment.codec (·.comments) fun x m => { m with comments := x },
    .nestedAll 5 Tag.codec (·.tags) fun x m => { m with tags := x },
    .nested 6 timestamp (·.publishedAt) fun x m => { m with publishedAt := x },
    .single 7 .int32 (·.status) fun x m => { m with status := x },
    .repeated 8 .string (·.keywords) fun x m => { m with keywords := x },
    .nested 9 Metadata.codec (·.meta_) fun x m => { m with meta_ := x },
    .optional 10 .double (·.rating) fun x m => { m with rating := x }]

/-- A reply in a thread. -/
structure Reply where
  id : UInt64
  text : String
deriving Repr, DecidableEq, Inhabited

/-- Encoded replies. -/
def Reply.codec : Codec Reply where
  blank := default
  fields := [
    .single 1 .uint64 (·.id) fun x m => { m with id := x },
    .single 2 .string (·.text) fun x m => { m with text := x }]

/-- A thread of replies. -/
structure Thread where
  id : UInt64
  title : String
  replies : List Reply
  topics : List Tag
deriving Repr, DecidableEq, Inhabited

/-- Encoded threads. -/
def Thread.codec : Codec Thread where
  blank := default
  fields := [
    .single 1 .uint64 (·.id) fun x m => { m with id := x },
    .single 2 .string (·.title) fun x m => { m with title := x },
    .nestedAll 3 Reply.codec (·.replies) fun x m => { m with replies := x },
    .nestedAll 4 Tag.codec (·.topics) fun x m => { m with topics := x }]

/-- A digest of replies. -/
structure Digest where
  id : UInt64
  entries : List Reply
  featured : List Tag
  hidden : List Tag
deriving Repr, DecidableEq, Inhabited

end ProtoStore.Blog
