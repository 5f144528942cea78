import ProtoStore.Blog.Domain
import ProtoStore.Proofs.Domain.Masking

/-!
# What the masks of a blog take

* `Entity.taken` : a message with the fields that names say taken from another;
* `Entity.apply_mask` : this is what a mask takes by its names; `mask_by_names` adds that neither order nor
  number of the paths matter, that a mask takes nothing new the second time, and that two masks take what
  their paths take together;
* `unknown_path` : what a path does that names no field. It does nothing, unless it is the only one below the
  writer of an article and just one of the two articles has a writer.
-/

namespace ProtoStore.Blog

open Domain Mask

attribute [ext] BlogPost Author Comment Tag Article Reply Thread Digest

/-! ## Taking by names -/

/-- A post with the fields that names say taken from another. -/
def BlogPost.taken (names : Finset String) (source target : BlogPost) : BlogPost where
  id := pick names "Id" source.id target.id
  title := pick names "Title" source.title target.title
  author := pick names "Author" source.author target.author

/-- An author with the fields that names say taken from another. -/
def Author.taken (names : Finset String) (source target : Author) : Author where
  id := pick names "Id" source.id target.id
  name := pick names "Name" source.name target.name
  email := pick names "Email" source.email target.email

/-- A comment with the fields that names say taken from another. -/
def Comment.taken (names : Finset String) (source target : Comment) : Comment where
  id := pick names "Id" source.id target.id
  body := pick names "Body" source.body target.body
  flags := pick names "Flags" source.flags target.flags

/-- A tag with the fields that names say taken from another. -/
def Tag.taken (names : Finset String) (source target : Tag) : Tag where
  id := pick names "Id" source.id target.id
  label := pick names "Label" source.label target.label

/-- An article with the fields that names say taken from another. Names beneath the writer take from its
writer. -/
def Article.taken (names : Finset String) (source target : Article) : Article where
  id := pick names "Id" source.id target.id
  title := pick names "Title" source.title target.title
  writer := hold Author.taken default names "Writer" source.writer target.writer
  comments := pick names "Comments" source.comments target.comments
  tags := pick names "Tags" source.tags target.tags
  publishedAt := pick names "PublishedAt" source.publishedAt target.publishedAt
  status := pick names "Status" source.status target.status
  keywords := pick names "Keywords" source.keywords target.keywords
  meta_ := pick names "Meta" source.meta_ target.meta_
  rating := pick names "Rating" source.rating target.rating

/-- A reply with the fields that names say taken from another. -/
def Reply.taken (names : Finset String) (source target : Reply) : Reply where
  id := pick names "Id" source.id target.id
  text := pick names "Text" source.text target.text

/-- A thread with the fields that names say taken from another. -/
def Thread.taken (names : Finset String) (source target : Thread) : Thread where
  id := pick names "Id" source.id target.id
  title := pick names "Title" source.title target.title
  replies := pick names "Replies" source.replies target.replies
  topics := pick names "Topics" source.topics target.topics

/-- A digest with the fields that names say taken from another. -/
def Digest.taken (names : Finset String) (source target : Digest) : Digest where
  id := pick names "Id" source.id target.id
  entries := pick names "Entries" source.entries target.entries
  featured := pick names "Featured" source.featured target.featured
  hidden := pick names "Hidden" source.hidden target.hidden

/-- A message with the fields that names say taken from another. -/
def Entity.taken : (e : Entity) → Finset String → (source target : e.Message) → e.Message
  | blogPost => BlogPost.taken
  | author => Author.taken
  | comment => Comment.taken
  | tag => Tag.taken
  | article => Article.taken
  | reply => Reply.taken
  | thread => Thread.taken
  | digest => Digest.taken

variable {e : Entity}

theorem Author.taken_self (names : Finset String) (value : Author) : taken names value value = value := by
  simp only [taken, pick_self]

theorem Author.taken_taken (names more : Finset String) (source target : Author) :
    taken more source (taken names source target) = taken (names ∪ more) source target := by
  simp only [taken, pick_pick]

/-- Taking by one set of names and then by another is taking by both. -/
theorem Entity.taken_taken (names more : Finset String) (source target : e.Message) :
    e.taken more source (e.taken names source target) = e.taken (names ∪ more) source target := by
  cases e <;> simp only [taken, BlogPost.taken, Author.taken, Comment.taken, Tag.taken, Article.taken, Reply.taken,
    Thread.taken, Digest.taken, pick_pick, hold_hold Author.taken_self Author.taken_taken]

/-! ## Masks take by names -/

variable {paths : List String} {root : String}

theorem BlogPost.apply_mask (source target : BlogPost) :
    Mask.apply maskFields paths root source target = taken (rests root paths) source target := by
  refine BlogPost.ext (get_apply (?_ : Owns _ "Id" id) _) (get_apply (?_ : Owns _ "Title" title) _)
    (get_apply (?_ : Owns _ "Author" author) _) <;>
    constructor <;> simp [maskFields, MaskField.whole]

theorem Author.apply_mask (source target : Author) :
    Mask.apply maskFields paths root source target = taken (rests root paths) source target := by
  refine Author.ext (get_apply (?_ : Owns _ "Id" id) _) (get_apply (?_ : Owns _ "Name" name) _)
    (get_apply (?_ : Owns _ "Email" email) _) <;>
    constructor <;> simp [maskFields, MaskField.whole]

theorem Comment.apply_mask (source target : Comment) :
    Mask.apply maskFields paths root source target = taken (rests root paths) source target := by
  refine Comment.ext (get_apply (?_ : Owns _ "Id" id) _) (get_apply (?_ : Owns _ "Body" body) _)
    (get_apply (?_ : Owns _ "Flags" flags) _) <;>
    constructor <;> simp [maskFields, MaskField.whole]

theorem Tag.apply_mask (source target : Tag) :
    Mask.apply maskFields paths root source target = taken (rests root paths) source target := by
  refine Tag.ext (get_apply (?_ : Owns _ "Id" id) _) (get_apply (?_ : Owns _ "Label" label) _) <;>
    constructor <;> simp [maskFields, MaskField.whole]

theorem Reply.apply_mask (source target : Reply) :
    Mask.apply maskFields paths root source target = taken (rests root paths) source target := by
  refine Reply.ext (get_apply (?_ : Owns _ "Id" id) _) (get_apply (?_ : Owns _ "Text" text) _) <;>
    constructor <;> simp [maskFields, MaskField.whole]

theorem Thread.apply_mask (source target : Thread) :
    Mask.apply maskFields paths root source target = taken (rests root paths) source target := by
  refine Thread.ext (get_apply (?_ : Owns _ "Id" id) _) (get_apply (?_ : Owns _ "Title" title) _)
    (get_apply (?_ : Owns _ "Replies" replies) _) (get_apply (?_ : Owns _ "Topics" topics) _) <;>
    constructor <;> simp [maskFields, MaskField.whole]

theorem Digest.apply_mask (source target : Digest) :
    Mask.apply maskFields paths root source target = taken (rests root paths) source target := by
  refine Digest.ext (get_apply (?_ : Owns _ "Id" id) _) (get_apply (?_ : Owns _ "Entries" entries) _)
    (get_apply (?_ : Owns _ "Featured" featured) _) (get_apply (?_ : Owns _ "Hidden" hidden) _) <;>
    constructor <;> simp [maskFields, MaskField.whole]

theorem Article.holds_writer : Holds maskFields "Writer" writer (fun x m => { m with writer := x }) default
    Author.maskFields := by
  constructor <;> simp [maskFields, MaskField.whole, MaskField.holding]

/-- Only the writer of an article has names beneath it. -/
theorem Article.owns {α : Type} {name : String} {get : Article → α}
    (named : ∃ field ∈ maskFields, field.name = name)
    (copies : ∀ field ∈ maskFields, ∀ source target,
      get (field.copy source target) = if field.name = name then get source else get target)
    (apart : after? (below "Writer") name = none)
    (spared : ∀ x (m : Article), get { m with writer := x } = get m) : Owns maskFields name get where
  named := named
  copies := copies
  merges field hf merge hm := by
    obtain rfl | ⟨-, whole, -⟩ := holds_writer.others field hf
    · refine ⟨apart, fun paths root source target => ?_⟩
      obtain rfl := Option.some.inj hm
      dsimp only
      split <;> exact spared _ _
    · rw [whole] at hm
      cases hm

theorem Article.apply_mask (source target : Article) :
    Mask.apply maskFields paths root source target = taken (rests root paths) source target := by
  refine Article.ext (get_apply (?_ : Owns _ "Id" id) _) (get_apply (?_ : Owns _ "Title" title) _)
    (get_apply_holding holds_writer (fun _ _ => Author.apply_mask) _)
    (get_apply (?_ : Owns _ "Comments" comments) _) (get_apply (?_ : Owns _ "Tags" tags) _)
    (get_apply (?_ : Owns _ "PublishedAt" publishedAt) _) (get_apply (?_ : Owns _ "Status" status) _)
    (get_apply (?_ : Owns _ "Keywords" keywords) _) (get_apply (?_ : Owns _ "Meta" meta_) _)
    (get_apply (?_ : Owns _ "Rating" rating) _) <;>
    exact owns (by decide) (by simp [maskFields, MaskField.whole, MaskField.holding]) (by decide)
      fun _ _ => rfl

/-- A mask takes what its names say. -/
theorem Entity.apply_mask (source target : e.Message) :
    Mask.apply (Bindings.maskFields e) paths root source target = e.taken (rests root paths) source target := by
  cases e
  · exact BlogPost.apply_mask source target
  · exact Author.apply_mask source target
  · exact Comment.apply_mask source target
  · exact Tag.apply_mask source target
  · exact Article.apply_mask source target
  · exact Reply.apply_mask source target
  · exact Thread.apply_mask source target
  · exact Digest.apply_mask source target

/-- What a mask takes is a function of the set of its names. Order and number of the paths do not matter, a
mask takes nothing more the second time, and what two masks take one after the other is what their paths take
together. -/
theorem mask_by_names (e : Entity) (paths more : List String) (root : String) (source target : e.Message) :
    let merge (paths : List String) := Mask.apply (Bindings.maskFields e) paths root source
    merge paths target = e.taken (rests root paths) source target ∧
      (∀ others : List String, (∀ path, path ∈ others ↔ path ∈ paths) → merge others target = merge paths target) ∧
      merge paths (merge paths target) = merge paths target ∧
      merge more (merge paths target) = merge (paths ++ more) target := by
  simp only [Entity.apply_mask, Entity.taken_taken, Finset.union_self, rests_append, true_and, and_true]
  exact fun others same => by rw [rests_congr same]

theorem mask_by_names_of_writer :
    let source : Article := { (default : Article) with title := "On tide", writer := some ⟨7, "Ada", none⟩ }
    let target : Article := { (default : Article) with title := "On time", rating := some ⟨0⟩ }
    let merge (paths : List String) := Mask.apply (Bindings.maskFields Entity.article) paths "" source
    merge ["Writer.Name", "Title", "Writer.Name"] target = merge ["Title", "Writer.Name"] target ∧
      merge ["Title", "Writer.Name"] target =
        ({ target with title := "On tide", writer := some ⟨0, "Ada", none⟩ } : Article) ∧
      merge ["Writer"] (merge ["Title", "Writer.Name"] target) = ({ source with rating := some ⟨0⟩ } : Article) := by
  intro source target merge
  obtain ⟨names, alike, -, together⟩ :=
    mask_by_names Entity.article ["Title", "Writer.Name"] ["Writer"] "" source target
  have named : Article.taken (rests "" ["Title", "Writer.Name"]) source target =
      { target with title := "On tide", writer := some ⟨0, "Ada", none⟩ } := by decide +kernel
  have whole : Mask.apply Article.maskFields ["Title", "Writer.Name", "Writer"] "" source target =
      { source with rating := some ⟨0⟩ } := by decide +kernel
  refine ⟨alike ["Writer.Name", "Title", "Writer.Name"] fun path => ?_, names.trans named, together.trans whole⟩
  simp only [List.mem_cons, List.not_mem_nil, or_false]
  tauto

/-! ## Paths that name nothing -/

theorem Entity.taken_insert {path : String} (flat : e ≠ .article)
    (unknown : ∀ field ∈ Bindings.maskFields e, path ≠ field.name) (names : Finset String)
    (source target : e.Message) : e.taken (insert path names) source target = e.taken names source target := by
  cases e with
  | article => exact absurd rfl flat
  | _ =>
    simp only [Bindings.maskFields, maskFields, BlogPost.maskFields, Author.maskFields, Comment.maskFields,
      Tag.maskFields, Reply.maskFields, Thread.maskFields, Digest.maskFields, MaskField.whole,
      List.forall_mem_cons, List.not_mem_nil, false_implies, implies_true, and_true] at unknown
    simp only [taken, BlogPost.taken, Author.taken, Comment.taken, Tag.taken, Reply.taken, Thread.taken,
      Digest.taken, pick_insert, unknown, ne_eq, not_false_eq_true]

/-- What a path takes from an article that names none of its fields, it takes from the writer. -/
theorem Article.taken_insert_iff {path : String} (unknown : ∀ field ∈ maskFields, path ≠ field.name)
    (names : Finset String) (source target : Article) :
    taken (insert path names) source target = taken names source target ↔
      hold Author.taken default (insert path names) "Writer" source.writer target.writer =
        hold Author.taken default names "Writer" source.writer target.writer := by
  simp only [maskFields, MaskField.whole, MaskField.holding, List.forall_mem_cons, List.not_mem_nil,
    false_implies, implies_true, and_true] at unknown
  simp only [Article.ext_iff, taken, pick_insert, unknown, ne_eq, not_false_eq_true, true_and, and_true]

theorem writer_or_below (paths : List String) :
    "Writer" ∈ rests "" paths ∨ (beneath "Writer" (rests "" paths)).Nonempty ↔
      ∃ path ∈ paths, path = "Writer" ∨ ∃ rest, path = "Writer." ++ rest := by
  simp only [Finset.Nonempty, mem_beneath, mem_rests, String.empty_append]
  constructor
  · rintro (named | ⟨rest, isBelow⟩)
    · exact ⟨_, named, Or.inl rfl⟩
    · exact ⟨_, isBelow, Or.inr ⟨rest, rfl⟩⟩
  · rintro ⟨_, mem, rfl | ⟨rest, rfl⟩⟩
    · exact Or.inl mem
    · exact Or.inr ⟨rest, mem⟩

/-- A path below the writer that names no field of it changes the writer unless it is merged anyway, or both
messages or none of them have one. -/
theorem writer_insert_iff {path : String} (unnamed : path ≠ "Writer")
    (unknown : ∀ field ∈ Author.maskFields, path ≠ "Writer." ++ field.name) (names : Finset String)
    (source target : Option Author) :
    hold Author.taken default (insert path names) "Writer" source target =
        hold Author.taken default names "Writer" source target ↔
      (∀ rest, path ≠ "Writer." ++ rest) ∨
        ("Writer" ∈ names ∨ (beneath "Writer" names).Nonempty) ∨ source.isSome = target.isSome := by
  by_cases apart : ∀ rest, path ≠ "Writer." ++ rest
  · refine iff_of_true (hold_congr ?_ (beneath_insert_of_ne apart names) _ _) (Or.inl apart)
    simp only [Finset.mem_insert, unnamed.symm, false_or]
  · have spelled : below "Writer" = "Writer." := by decide
    -- `below` is kept as it is in `hold_insert_iff`.
    obtain ⟨rest, rfl⟩ : ∃ rest, path = below "Writer" ++ rest := by simpa [spelled] using apart
    have empty (source target : Author) : Author.taken ∅ source target = target := by
      simp only [Author.taken, pick, Finset.notMem_empty, if_false]
    have nothing (names : Finset String) (source target : Author) :
        Author.taken (insert rest names) source target = Author.taken names source target :=
      Entity.taken_insert (e := .author) (by decide) (fun field hf same => unknown field hf (by rw [same, spelled]))
        _ _ _
    rw [or_iff_right apart, or_assoc]
    exact hold_insert_iff empty nothing source target

/-- A path that names no field takes nothing, but below the writer of an article it still has the writer
merged: nothing changes exactly if another path names the writer or lies below it, or both articles or none
of them have a writer. -/
theorem unknown_path (before after : List String) (path : String) :
    (∀ e : Entity, e ≠ .article → (∀ field ∈ Bindings.maskFields e, path ≠ field.name) →
      ∀ source target : e.Message,
        Mask.apply (Bindings.maskFields e) (before ++ path :: after) "" source target =
          Mask.apply (Bindings.maskFields e) (before ++ after) "" source target) ∧
    ((∀ field ∈ Article.maskFields, path ≠ field.name) →
      (∀ field ∈ Author.maskFields, path ≠ "Writer." ++ field.name) → ∀ source target : Article,
        (Mask.apply Article.maskFields (before ++ path :: after) "" source target =
            Mask.apply Article.maskFields (before ++ after) "" source target ↔
          (∀ rest, path ≠ "Writer." ++ rest) ∨
          (∃ other ∈ before ++ after, other = "Writer" ∨ ∃ rest, other = "Writer." ++ rest) ∨
          source.writer.isSome = target.writer.isSome)) := by
  constructor
  · intro e flat unknown source target
    rw [Entity.apply_mask, Entity.apply_mask, rests_insert, Entity.taken_insert flat unknown]
  · intro unknown unknownBelow source target
    rw [Article.apply_mask, Article.apply_mask, rests_insert, Article.taken_insert_iff unknown]
    rw [writer_insert_iff (unknown _ Article.holds_writer.held) unknownBelow, writer_or_below]

theorem unknown_path_below_writers :
    let article (name : String) : Article := { (default : Article) with writer := some ⟨7, name, none⟩ }
    let posted (title : String) : BlogPost := { (default : BlogPost) with title }
    Mask.apply BlogPost.maskFields ["Title", "Nope"] "" (posted "On tide") (posted "On time") =
        Mask.apply BlogPost.maskFields ["Title"] "" (posted "On tide") (posted "On time") ∧
      Mask.apply Article.maskFields ["Writer.Nope"] "" (article "Ada") (article "Grace") =
        Mask.apply Article.maskFields [] "" (article "Ada") (article "Grace") := by
  intro article posted
  exact ⟨(unknown_path ["Title"] [] "Nope").1 .blogPost (by decide) (by decide) (posted "On tide") (posted "On time"),
    ((unknown_path [] [] "Writer.Nope").2 (by decide) (by decide) (article "Ada") (article "Grace")).mpr
      (Or.inr (Or.inr rfl))⟩

/-- A path that names no field takes the writer from an article, or gives it a blank one. -/
theorem writer_lost_by_unknown :
    let anonymous : Article := default
    let signed : Article := { anonymous with writer := some ⟨7, "Ada", none⟩ }
    (∀ field ∈ Article.maskFields, "Writer.Nope" ≠ field.name) ∧
      (∀ field ∈ Author.maskFields, "Writer.Nope" ≠ "Writer." ++ field.name) ∧
      Mask.apply Article.maskFields [] "" anonymous signed = signed ∧
      Mask.apply Article.maskFields ["Writer.Nope"] "" anonymous signed = anonymous ∧
      Mask.apply Article.maskFields [] "" signed anonymous = anonymous ∧
      Mask.apply Article.maskFields ["Writer.Nope"] "" signed anonymous =
        { anonymous with writer := some ⟨0, "", none⟩ } ∧
      anonymous ≠ signed := by
  decide +kernel

end ProtoStore.Blog
