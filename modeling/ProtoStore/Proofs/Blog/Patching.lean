import ProtoStore.Proofs.Blog.Numbers
import ProtoStore.Proofs.Blog.Resaving
import ProtoStore.Proofs.Domain.Lasting
import ProtoStore.Proofs.Domain.Mask
import ProtoStore.Proofs.Domain.Reload
import ProtoStore.Proofs.Domain.Steps

/-!
# Patches that name no field

A patch reads a record, takes what its mask names into the answer, and makes a strict update with that. If
the mask names nothing, it is an update with what was read, and `patch_unnamed` says what it leaves: the rows
are rewritten (`Entity.rewritten`) and what a digest drops is gone, but nothing else is changed. That rows can
be lost so is shown by `lost_by_unnamed`.

Keys in stores that were written to directly are not empty (`keyed`) as long as the running number has not
come past its end.
-/

namespace ProtoStore.Blog

open Domain Store Operations

variable {s last : Store Kind} {e : Entity} {row : Record e} {context : Context}

/-! ## Runs of steps -/

/-- Rows are stored with keys, until the running number has come past its end. Unlike with `numbered`, all
rows may be written. -/
def keyed : Discipline Entity := { numbered with
  allows := fun _ _ _ => True
  holds := fun s kind row => Unexhausted s → (record kind).keyIsEmpty row = false
  allows_mono := fun _ _ => trivial
  holds_mono := fun hl h hu => h (hl.unexhausted hu)
  allows_setKey := fun _ _ => trivial
  holds_put := fun {s after t kind row written rows} h altered _ hu => by
    have counts : Counts after t := ⟨Nat.le_of_eq altered.sequence.symm, altered.fresh⟩
    exact (number_of_assignKey h (counts.unexhausted hu)).1
  record := fun _ _ _ => trivial
  message := fun _ _ => trivial
  keep := fun _ _ _ => trivial
  assign := fun _ _ _ => trivial
  attach := fun _ _ _ _ => trivial
  join := fun _ _ _ _ => trivial }

theorem free_keyed : keyed.Free := ⟨fun _ _ => trivial, fun _ _ _ => trivial, fun _ => trivial⟩

/-- What steps leave is sound if its rows have messages and the running number has not come past its
end. -/
theorem sound_stepped {fresh : Nat → Uuid} (hf : ∀ n, (fresh n).isNil = false)
    {steps : List (Context × Step Entity)} (hs : s = stepped (Store.empty fresh) steps)
    (room : s.sequence < UInt64.size)
    (readable : ∀ (e : Entity), ∀ row ∈ s.rows (.record e), ∃ m, Reverts e row m ∧ e.Addressable m) :
    Sound s := by
  obtain ⟨inv, counts⟩ := Discipline.inv_stepped free_keyed (keyed.inv_empty fresh) steps
  rw [← hs] at inv counts
  have unexhausted : Unexhausted s := ⟨room, fun n => by rw [counts.fresh]; exact hf n⟩
  exact ⟨inv.distinct, fun hx => inv.held hx unexhausted, readable⟩

/-! ## Patches -/

/-- A row without what an update does not know of: the digests of the replies of a thread. -/
def Entity.blurred : (e : Entity) → Domain.Record e → (kind : Kind) → Row kind → Row kind
  | thread, (row : ThreadRecord), .record .reply, (x : ReplyRecord) =>
    if x.threadId = some row.id then withoutDigest x else x
  | _, _, _, x => x

theorem Sound.convertible (h : Sound s) : Convertible Entity s := fun e row hr =>
  (h.readable e row hr).imp fun _ hm => hm.1

/-- A patch that takes nothing from its input is an update with what was read. -/
theorem patch_untaken (h : Sound s) (hr : row ∈ s.rows (table e))
    {input : e.Message} {other : Record e} (converts : Converts e (Bindings.keyOnly e input) other)
    (same : (record (table e)).key other = (record (table e)).key row) {mask : List String}
    (unnamed : ∀ path ∈ mask, ¬Mask.Names (Bindings.maskFields e) path) :
    ∃ value last,
      (Operations.read Hooks.none e (some (Bindings.keyOnly e input)) none).Yields s (.ok value) s ∧
        (patch Hooks.none e (some input) mask).Yields s (.ok (e.retained value)) last ∧
        Alike (e.outcome s row) last := by
  have alive : Context.unlimited.check = .ok () := rfl
  obtain ⟨value, responds⟩ := exists_responds alive h.convertible (h.convertible e row hr)
  have reads : Reads .unlimited s e (Bindings.keyOnly e input) none value :=
    reads_of_responds h.distinct alive alive hr (h.keyed hr) converts same responds
  obtain ⟨last, update, alike⟩ := strictUpdate_outcome h hr alive responds
  have untaken : Mask.apply (Bindings.maskFields e) mask "" input value = value :=
    Mask.apply_eq_self unnamed value
  have masked : Nonempty (Operations.Update .unlimited e (Mask.apply (Bindings.maskFields e) mask "" input value)
      s last ⟨e.retained value, false⟩) := by rwa [untaken]
  have answers : (Operations.read Hooks.none e (some (Bindings.keyOnly e input)) none).Answers
      ⟨s, .unlimited, ()⟩ (Reads .unlimited s e (Bindings.keyOnly e input) none) := read_answers none
  have patches : patch Hooks.none e (some input) mask ⟨s, .unlimited, ()⟩ =
      (.ok (e.retained value), ⟨last, .unlimited, ()⟩) :=
    patch_ok.mpr ⟨last, rfl, value, false, reads, masked⟩
  exact ⟨value, last,
    (interruptible_read (e := e) _ none).yields_of_eq ((answers value _).mpr ⟨reads, rfl⟩),
    (interruptible_patch (e := e) _ mask).yields_of_eq patches, alike⟩

/-- In a store that operations and direct calls leave, a patch that names no field answers what is read of
the record, without what a digest drops, and rewrites the rows that belong to the record. -/
theorem patch_unnamed (fresh : Nat → Uuid) (hf : ∀ n, (fresh n).isNil = false)
    (steps : List (Context × Step Entity)) (e : Entity) (row : Record e) (input : e.Message)
    (mask : List String) :
    let store : Store Kind := stepped (Store.empty fresh) steps
    store.sequence < UInt64.size →
    (∀ (e : Entity), ∀ row ∈ store.rows (.record e), ∃ m, Reverts e row m ∧ e.Addressable m) →
    row ∈ store.rows (.record e) →
    (∃ other, Converts e (Bindings.keyOnly e input) other ∧
      (record (table e)).key other = (record (table e)).key row) →
    (∀ path ∈ mask, ¬Mask.Names (Bindings.maskFields e) path) →
    ∃ value last,
      (Operations.read Hooks.none e (some (Bindings.keyOnly e input)) none).Yields store (.ok value) store ∧
        (patch Hooks.none e (some input) mask).Yields store (.ok (e.retained value)) last ∧
        ∀ kind, ((last.rows kind).map (e.blurred row kind)).Perm
          (((store.rows kind).filterMap (e.rewritten store row kind)).map (e.blurred row kind)) := by
  intro store room readable hr keys unnamed
  obtain ⟨other, converts, same⟩ := keys
  have sound : Sound store := sound_stepped hf rfl room readable
  obtain ⟨value, last, reads, patches, alike⟩ := patch_untaken sound hr converts same unnamed
  refine ⟨value, last, reads, patches, fun kind => ?_⟩
  have perm := (alike.symm.perm kind).map (e.blurred row kind)
  rwa [show (e.outcome store row).rows kind = _ from rows_filterMap] at perm

instance (kind : Kind) : DecidableEq (Row kind) :=
  match kind with
  | .record .blogPost => inferInstanceAs (DecidableEq BlogPostRecord)
  | .record .author => inferInstanceAs (DecidableEq AuthorRecord)
  | .record .comment => inferInstanceAs (DecidableEq CommentRecord)
  | .record .tag => inferInstanceAs (DecidableEq TagRecord)
  | .record .article => inferInstanceAs (DecidableEq ArticleRecord)
  | .record .reply => inferInstanceAs (DecidableEq ReplyRecord)
  | .record .thread => inferInstanceAs (DecidableEq ThreadRecord)
  | .record .digest => inferInstanceAs (DecidableEq DigestRecord)
  | .articleTag => inferInstanceAs (DecidableEq ArticleTag)
  | .threadTopic => inferInstanceAs (DecidableEq ThreadTopic)
  | .digestFeatured | .digestHidden => inferInstanceAs (DecidableEq DigestTag)

/-- The article of `looseSteps`. -/
def looseArticle : ArticleRecord := ⟨some ⟨.ofNat 128 3⟩, "On time", none, 0, "[ ]", none, none, some 9⟩

/-- The steps of a store in which a digest has an entry, and the tag of a thread and the writer of an article
are missing. -/
def looseSteps : List (Context × Step Entity) := [
  (.unlimited, .operation (.create .thread (some (⟨3, "On stores", [], [⟨"a", "A"⟩]⟩ : Thread)))),
  (.unlimited, .direct (.delete (.record .tag) .all)),
  (.unlimited, .direct (.save (.record .digest) (⟨1⟩ : DigestRecord))),
  (.unlimited, .direct (.save (.record .reply) (⟨5, "first", none, some 1⟩ : ReplyRecord))),
  (.unlimited, .direct (.save (.record .article) looseArticle))]

theorem sound_looseSteps : Sound (stepped (Store.empty oddUuid : Store Kind) looseSteps) := by
  refine sound_stepped isNil_oddUuid rfl (by decide +kernel) fun e x hx => ?_
  cases e with
  | article =>
    have articles : (stepped (Store.empty oddUuid : Store Kind) looseSteps).rows (.record .article) =
      [looseArticle] := by decide +kernel
    rw [articles, List.mem_singleton] at hx
    subst hx
    exact ⟨_, rfl, fun _ hm => absurd hm (Option.not_mem_none _)⟩
  | comment =>
    have comments : (stepped (Store.empty oddUuid : Store Kind) looseSteps).rows (.record .comment) =
      [] := by decide +kernel
    rw [comments] at hx
    cases hx
  | blogPost | author | tag | reply | thread | digest => exact ⟨_, rfl, trivial⟩

theorem patch_unnamed_on_time :
    let store : Store Kind := stepped (Store.empty oddUuid) looseSteps
    let input : Article :=
      { (default : Article) with id := some ⟨"00000000-0000-0000-0000-000000000003"⟩, title := "On tide" }
    looseArticle ∈ store.rows (.record .article) ∧ store.sequence < UInt64.size ∧
      ∃ value last,
        Operations.read Hooks.none Entity.article (some (Bindings.keyOnly Entity.article input)) none
            ⟨store, .unlimited, ()⟩ = (.ok value, ⟨store, .unlimited, ()⟩) ∧
          patch Hooks.none Entity.article (some input) ["Tit", "Title.Nope"] ⟨store, .unlimited, ()⟩ =
            (.ok value, ⟨last, .unlimited, ()⟩) ∧
          last.rows (.record .article) =
            [({ looseArticle with keywords := "[]", writerId := none } : ArticleRecord)] := by
  intro store input
  have articles : store.rows (.record .article) = [looseArticle] := by decide +kernel
  have hr : looseArticle ∈ store.rows (.record .article) := articles ▸ List.mem_singleton_self _
  have room : store.sequence < UInt64.size := by decide +kernel
  have converts : Converts Entity.article (Bindings.keyOnly Entity.article input)
      ({ looseArticle with title := "", keywords := "[]", writerId := none } : ArticleRecord) := rfl
  obtain ⟨value, last, reads, patches, rows⟩ := patch_unnamed oddUuid isNil_oddUuid looseSteps
    .article looseArticle input ["Tit", "Title.Nope"] room sound_looseSteps.readable hr ⟨_, converts, rfl⟩
    (by decide)
  have perm := rows (.record .article)
  have rewritten : (store.rows (.record .article)).filterMap
      (Entity.article.rewritten store looseArticle (.record .article)) =
        [({ looseArticle with keywords := "[]", writerId := none } : ArticleRecord)] := by decide +kernel
  have blurred : Entity.article.blurred looseArticle (.record .article) = id := rfl
  rw [blurred, List.map_id, List.map_id, rewritten, List.perm_singleton] at perm
  exact ⟨hr, room, value, last, reads.unlimited, patches.unlimited, perm⟩

/-- A patch that names no field deletes the entry of a digest and the link to a missing tag, and an article
loses its missing writer. If the writer is stored, a path below its field still takes it away. -/
theorem lost_by_unnamed :
    let store : Store Kind := stepped (Store.empty oddUuid) looseSteps
    let world : World Kind Unit := ⟨store, .unlimited, ()⟩
    let digest : Digest := ⟨1, [], [], []⟩
    let thread : Thread := ⟨3, "", [], []⟩
    let article : Article :=
      { (default : Article) with id := some ⟨"00000000-0000-0000-0000-000000000003"⟩ }
    let signing : Step Entity := .direct (.save (.record .author) (⟨9, "Ada", none⟩ : AuthorRecord))
    let signed : World Kind Unit := { world with store := signing.after store .unlimited }
    let unnamed (e : Entity) (message : e.Message) := patch Hooks.none e (some message) [] world
    Sound store ∧ (⟨1⟩ : DigestRecord) ∈ store.rows (.record .digest) ∧
    ((Operations.read Hooks.none Entity.digest (some digest) none world).1.toOption.map Digest.entries =
        some [⟨5, "first"⟩] ∧
      (unnamed .digest digest).1.toOption.map Digest.entries = some []) ∧
    (store.rows (.record .reply) = [(⟨5, "first", none, some 1⟩ : ReplyRecord)] ∧
      (unnamed .digest digest).2.store.rows (.record .reply) = []) ∧
    (store.rows .threadTopic = [(⟨3, "a"⟩ : ThreadTopic)] ∧
      (unnamed .thread thread).2.store.rows .threadTopic = []) ∧
    (store.rows (.record .article) = [looseArticle] ∧
      (unnamed .article article).2.store.rows (.record .article) =
        [({ looseArticle with keywords := "[]", writerId := none } : ArticleRecord)]) ∧
    (Operations.read Hooks.none Entity.article (some article) none signed).1.toOption.map Article.writer =
        some (some ⟨9, "Ada", none⟩) ∧
      (patch Hooks.none Entity.article (some article) ["Writer.Nope"] signed).1.toOption.map
        Article.writer = some none := by
  intro store world digest thread article signing signed unnamed
  refine ⟨sound_looseSteps, ?_, ⟨?_, ?_⟩, ⟨?_, ?_⟩, ⟨?_, ?_⟩, ⟨?_, ?_⟩, ?_, ?_⟩ <;> decide +kernel

end ProtoStore.Blog
