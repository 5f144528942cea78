import ProtoStore.Proofs.Blog.ForeignKeys
import ProtoStore.Proofs.Blog.Tags

/-!
# Children after an update

A strict update of a thread or an article saves its children one after the other, each under its own
number or, where it has none, the next one of the store. That may be the number of a child further down
the list, which is then saved over the first one.

* `numbersFor` : the numbers that children get;
* `ChildrenStored` : every provided child has a row of its own, and no other row has the parent;
* `children_stored_iff` : so it is after an update exactly if the numbers are all different;
* `reply_lost_in_thread` : a reply that is saved over.
-/

namespace ProtoStore.Blog

open Domain Store Operations

/-! ## Numbers given one after the other -/

/-- The numbers under which rows with some numbers are stored, one after the other. -/
def numbersFor : Nat → List UInt64 → List UInt64
  | _, [] => []
  | n, id :: rest => numberFor n id :: numbersFor (numberAfter n id) rest

section

variable {sequence : Nat} {id k : UInt64} {ids : List UInt64}

theorem mem_numbersFor_of_mem (hk : k ∈ ids) (h0 : k ≠ 0) : k ∈ numbersFor sequence ids := by
  induction ids generalizing sequence with
  | nil => cases hk
  | cons id rest ih =>
    rcases List.mem_cons.mp hk with rfl | hk
    · exact List.mem_cons.mpr (Or.inl (if_neg h0).symm)
    · exact List.mem_cons_of_mem _ (ih hk)

end

/-! ## Children and their rows -/

/-- Every provided child has a row of its own among those of its parent, which holds the same and has the
number of the child if it has one. There are no other rows of the parent. -/
def ChildrenStored {C R : Type} (id : C → UInt64) (number : R → UInt64) (same : C → R → Prop)
    (provided : List C) (linked : List R) : Prop :=
  ∃ rows, rows.Perm linked ∧
    List.Forall₂ (fun c r => same c r ∧ (id c ≠ 0 → number r = id c)) provided rows

namespace Numbered

variable {kind : Kind} (N : Numbered kind)

theorem ids_underAll (sequence : Nat) (rows : List (Row kind)) :
    (N.underAll sequence rows).map N.id = numbersFor sequence (rows.map N.id) := by
  induction rows generalizing sequence with
  | nil => rfl
  | cons row rest ih =>
    rw [underAll, List.map_cons, ih, under, N.id_put]
    rfl

theorem nodup_keys_iff {rows : List (Row kind)} : (rows.map key).Nodup ↔ (rows.map N.id).Nodup := by
  have keys : rows.map key = (rows.map N.id).map Value.uint := by
    rw [List.map_map]
    exact List.map_congr_left fun row _ => N.value row
  rw [keys, List.nodup_map_iff fun _ _ => Value.uint.inj]

theorem id_of_mem_presentKeys {rows : List (Row kind)} {x : Row kind} (h : key x ∈ presentKeys rows) :
    N.id x ≠ 0 ∧ N.id x ∈ rows.map N.id := by
  obtain ⟨row, hr, same⟩ := List.mem_map.mp h
  obtain ⟨among, keyed⟩ := List.mem_filter.mp hr
  rw [N.isEmpty, Bool.not_eq_true', beq_eq_false_iff_ne] at keyed
  rw [← N.key_eq_iff.mp same]
  exact ⟨keyed, List.mem_map_of_mem among⟩

variable {C : Type} {row : C → Row kind} {same : C → Row kind → Prop}

theorem forall₂_underAll (provided : List C) (sequence : Nat) (holds : ∀ c n, same c (N.put n (row c))) :
    List.Forall₂ (fun c r => same c r ∧ (N.id (row c) ≠ 0 → N.id r = N.id (row c))) provided
      (N.underAll sequence (provided.map row)) := by
  induction provided generalizing sequence with
  | nil => exact .nil
  | cons c rest ih =>
    refine .cons ⟨holds c _, fun h0 => ?_⟩ (ih _)
    rw [under, N.id_put, numberFor, if_neg h0]

/-- Where rows of children are put over all rows of their parent, all children are stored exactly if they
get different numbers. -/
theorem childrenStored_iff {provided : List C} {rows : List (Row kind)} {P : Row kind → Bool} {sequence : Nat}
    (distinct : (rows.map key).Nodup) (holds : ∀ c n, same c (N.put n (row c)))
    (linked : ∀ c n, P (N.put n (row c)) = true)
    (kept : ∀ x ∈ rows, P x = true → N.id x ≠ 0 ∧ N.id x ∈ (provided.map row).map N.id) :
    ChildrenStored (fun c => N.id (row c)) N.id same provided
        ((putAll rows (N.underAll sequence (provided.map row))).filter P) ↔
      (numbersFor sequence (provided.map fun c => N.id (row c))).Nodup := by
  have new : ∀ x ∈ N.underAll sequence (provided.map row), P x = true := by
    intro x hx
    have marked : List.Forall₂ (fun c r => P r = true ∧ (N.id (row c) ≠ 0 → N.id r = N.id (row c)))
        provided (N.underAll sequence (provided.map row)) := N.forall₂_underAll provided sequence linked
    obtain ⟨c, -, property, -⟩ := exists_of_forall₂ marked hx
    exact property
  have old : ∀ x ∈ rows, P x = true → key x ∈ (N.underAll sequence (provided.map row)).map key := by
    intro x hx property
    obtain ⟨h0, among⟩ := kept x hx property
    have given : N.id x ∈ numbersFor sequence ((provided.map row).map N.id) :=
      mem_numbersFor_of_mem among h0
    rw [← N.ids_underAll] at given
    obtain ⟨y, hy, same⟩ := List.mem_map.mp given
    rw [← N.key_eq_iff.mpr same]
    exact List.mem_map_of_mem hy
  have numbers : ((N.underAll sequence (provided.map row)).map key).Nodup ↔
      (numbersFor sequence (provided.map fun c => N.id (row c))).Nodup := by
    rw [N.nodup_keys_iff, N.ids_underAll, List.map_map]
    rfl
  have stored := N.forall₂_underAll provided sequence holds
  rw [← numbers]
  constructor
  · rintro ⟨chosen, perm, pairs⟩
    refine (length_filter_putAll_iff distinct old new).mp ?_
    rw [← perm.length_eq, ← pairs.length_eq, stored.length_eq]
  · exact fun different => ⟨_, perm_filter_putAll distinct old new different, stored⟩

end Numbered

/-! ## Replies of a thread -/

section Thread

variable {m : Thread} {s t : Store Kind} {context : Context} {upserted : Upserted Thread}

/-- When a thread is saved, no reply is in it. -/
theorem threadId_ne_of_pruned [context.Timeless] (c : Update context Entity.thread m s t upserted) (numbers : numbered.Inv s)
    (new : m.id = 0 → Unexhausted s ∧ s.sequence + 1 < UInt64.size) {x : Row (Kind.record .reply)}
    (hx : x ∈ c.pruned.rows (.record .reply)) :
    ReplyRecord.threadId x ≠ some (ThreadRecord.id c.written) := by
  have hl : MessageLink.children threadReplies ∈ Bindings.links Entity.thread := List.mem_cons_self
  obtain ⟨-, prepared, written, -⟩ := saved_of_update_thread c
  obtain ⟨replies, topics, split, -, -⟩ := collected_thread c.collected
  have only : Only (.record .reply) (.children threadReplies replies) c.pending := by
    refine ⟨[], [.joined threadTopics topics], split, ?_⟩
    simp [Pending.writes, Pending.prunes, Domain.table, threadTopics]
  rcases c.pruned_children (by decide) only with ⟨keyless, same⟩ | kept
  · -- The new number of the thread is greater than those that replies hold.
    have unnumbered : m.id = 0 := by
      rw [prepared] at keyless
      exact beq_iff_eq.mp keyless
    have next : ThreadRecord.id c.written = .ofNat (s.sequence + 1) := by
      rw [written]
      exact if_pos unnumbered
    obtain ⟨unexhausted, bound⟩ := new unnumbered
    obtain ⟨toNat, -⟩ := next_number bound
    intro linked
    have before : x ∈ s.rows (.record .reply) := same ▸ hx
    obtain ⟨-, small⟩ := numbers.allowed before unexhausted
    have le := small _ linked
    rw [next, toNat] at le
    exact absurd le (Nat.not_succ_le_self _)
  · intro linked
    obtain ⟨keeps, -⟩ := kept x hx (linked_reply_iff.mpr linked)
    exact absurd keeps (by decide)

theorem repliesStored_iff [context.Timeless] (c : Update context Entity.thread m s t upserted) (numbers : numbered.Inv s)
    (new : m.id = 0 → Unexhausted s ∧ s.sequence + 1 < UInt64.size) :
    ChildrenStored Reply.id ReplyRecord.id (fun c r => r.text = c.text) m.replies
        ((t.rows (.record .reply)).filter (·.threadId = some upserted.value.id)) ↔
      (numbersFor (numberAfter s.sequence m.id) (m.replies.map Reply.id)).Nodup := by
  obtain ⟨-, -, -, sequence⟩ := saved_of_update_thread c
  have stored : t.rows (.record .reply) = putAll (c.pruned.rows (.record .reply))
      (numberedReplies.underAll (numberAfter s.sequence m.id) (m.replies.map fun reply =>
        { replyRecord reply with threadId := some (ThreadRecord.id c.written) })) := by
    rw [← sequence, ← c.rows_saved (by decide)]
    exact rows_saveCollections_thread c.collected c.links
  obtain ⟨pruned, -⟩ := c.inv_pruned (D := numbered) trivial numbers
  rw [stored, id_of_responds_thread c.responds]
  refine numberedReplies.childrenStored_iff (pruned.distinct _) (fun _ _ => rfl)
    (fun _ _ => decide_eq_true rfl) fun x hx linked => ?_
  exact absurd (of_decide_eq_true linked) (threadId_ne_of_pruned c numbers new hx)

end Thread

/-! ## Comments on an article -/

/-- Authors have numbers. -/
def numberedAuthors : Numbered (.record .author) where
  id (r : AuthorRecord) := r.id
  put n (r : AuthorRecord) := { r with id := n }
  isEmpty _ := rfl
  value _ := rfl
  withNewKey _ _ _ := rfl
  put_id _ := rfl
  id_put _ _ := rfl

/-- An article whose identifier is missing or nil gets a new one. -/
def Article.isKeyless (m : Article) : Bool := (m.id.bind fun id => Uuid.parse? id.value).all Uuid.isNil

/-- The running number once the writer of an article and the article itself are saved. -/
def numberAtComments (sequence : Nat) (m : Article) : Nat :=
  let referred := m.writer.elim sequence fun writer => numberAfter sequence writer.id
  if m.isKeyless then referred + 1 else referred

section Article

variable {m : Article} {s t : Store Kind} {context : Context} {upserted : Upserted Article}

theorem isEmpty_of_converts {row : Record Entity.article} (h : Converts Entity.article m row) :
    (record (table Entity.article)).keyIsEmpty row = m.isKeyless := by
  obtain ⟨id, publishedAt, parsed, -, rfl⟩ := fillArticleRecord_ok h
  change RowKey.isEmpty id = _
  have same : id = m.id.bind fun id => Uuid.parse? id.value := by
    rw [Convert.eq_of_uuid? parsed, Option.bind_map]
    rfl
  rw [Article.isKeyless, ← same]
  cases id <;> rfl

theorem prepare_article [context.Timeless] {pending : List (Pending Entity.article)} {locked prepared : Record Entity.article}
    {last : World Kind Unit}
    (hc : List.Forall₂ (Collected (e := Entity.article) m) (Bindings.links Entity.article) pending)
    (h : prepare pending locked ⟨s, context, ()⟩ = (.ok prepared, last)) :
    ArticleRecord.id prepared = ArticleRecord.id locked ∧
      last.store.sequence = m.writer.elim s.sequence fun writer => numberAfter s.sequence writer.id := by
  cases writer_prepared hc h with
  | without absent =>
    rw [absent]
    exact ⟨rfl, rfl⟩
  | saved provided converts saves =>
    cases converts
    obtain ⟨-, sequence, -⟩ := numberedAuthors.save_ok saves
    rw [provided]
    exact ⟨rfl, sequence⟩

/-- Saving an article moves the running number by one if it gets a new identifier, and else not. -/
theorem sequence_of_save_article {row written : Record Entity.article}
    (h : s.save context (Kind.record .article) row = ⟨t, written, .ok ()⟩) :
    t.sequence =
      if (record (table Entity.article)).keyIsEmpty row then s.sequence + 1 else s.sequence := by
  obtain ⟨-, after, assigned, rfl⟩ := Store.save_ok.mp h
  rcases assignKey_ok assigned with ⟨keyed, rfl, -⟩ | ⟨empty, rfl, -⟩
  · rw [sequence_upsert]
    refine Eq.trans ?_ (if_neg (Bool.eq_false_iff.mp keyed)).symm
    obtain ⟨_ | id, _, _, _, _, _, _, _⟩ := row <;> rfl
  · exact (sequence_upsert written).trans (if_pos empty).symm

theorem saved_of_update_article [context.Timeless] (c : Update context Entity.article m s t upserted) :
    (record (table Entity.article)).keyIsEmpty c.prepared = m.isKeyless ∧
      c.saved.sequence = numberAtComments s.sequence m := by
  obtain ⟨_, -, locks⟩ := c.locks
  obtain ⟨-, locked⟩ := Prod.mk.inj locks
  obtain ⟨id, sequence⟩ := prepare_article c.collected c.prepares
  have keyless : (record (table Entity.article)).keyIsEmpty c.prepared = m.isKeyless := by
    rw [← isEmpty_of_converts c.converts, locked]
    exact congrArg (fun id : Option Uuid => RowKey.isEmpty id) id
  refine ⟨keyless, ?_⟩
  rw [sequence_of_save_article c.saves, keyless, (drops_of_prune c.prunes).sequence, sequence]
  rfl

/-- When an article is saved, of its comments only those are there that are provided again. -/
theorem id_mem_of_pruned [context.Timeless] (c : Update context Entity.article m s t upserted)
    (new : m.isKeyless = true → ∀ r ∈ s.rows (.record .comment),
      CommentRecord.articleId r ≠ ArticleRecord.id c.written)
    {x : Row (Kind.record .comment)} (hx : x ∈ c.pruned.rows (.record .comment))
    (linked : CommentRecord.articleId x = ArticleRecord.id c.written) :
    CommentRecord.id x ≠ 0 ∧ CommentRecord.id x ∈ m.comments.map Comment.id := by
  have hl : MessageLink.children articleComments ∈ Bindings.links Entity.article :=
    List.mem_cons_of_mem _ List.mem_cons_self
  obtain ⟨keyless, -⟩ := saved_of_update_article c
  obtain ⟨writer, comments, tags, split, -, converts, -⟩ := collected_article c.collected
  obtain rfl : comments = m.comments.map commentRecord := rows_of_converts (fun _ => rfl) converts
  have only : Only (.record .comment) (.children articleComments (m.comments.map commentRecord))
      c.pending := by
    refine ⟨[.reference articleWriter writer], [.joined articleTags tags], split, ?_⟩
    simp [Pending.writes, Pending.prunes, Domain.table, articleWriter, articleTags]
  rcases c.pruned_children (by decide) only with ⟨empty, same⟩ | kept
  · have before : x ∈ s.rows (.record .comment) := same ▸ hx
    exact absurd linked (new (keyless.symm.trans empty) x before)
  · obtain ⟨-, present⟩ := kept x hx (linked_comment_iff.mpr linked)
    obtain ⟨h0, among⟩ := numberedComments.id_of_mem_presentKeys present
    have among : CommentRecord.id x ∈ (m.comments.map commentRecord).map CommentRecord.id := among
    rw [List.map_map] at among
    exact ⟨h0, among⟩

/-- The comments on an article, saved one after the other. -/
theorem rows_of_comments [context.Timeless] (c : Update context Entity.article m s t upserted) :
    t.rows (.record .comment) = putAll (c.pruned.rows (.record .comment))
      (numberedComments.underAll (numberAtComments s.sequence m) (m.comments.map fun comment =>
        { commentRecord comment with articleId := ArticleRecord.id c.written })) := by
  obtain ⟨-, sequence⟩ := saved_of_update_article c
  obtain ⟨writer, comments, tags, split, -, converts, -⟩ := collected_article c.collected
  obtain rfl : comments = m.comments.map commentRecord := rows_of_converts (fun _ => rfl) converts
  have links := c.links
  rw [split] at links
  -- Nothing is saved for the writer any more.
  obtain ⟨_, middle, first, others⟩ := Action.bind_ok.mp links
  obtain ⟨-, rfl⟩ := Action.pure_ok.mp first
  have writes : (Pending.joined articleTags tags).writes = [.record .tag, .articleTag] := rfl
  have apart : ∀ p ∈ [Pending.joined articleTags tags], Kind.record .comment ∉ p.writes := by
    refine List.forall_mem_singleton.mpr ?_
    rw [writes]
    decide
  have saved : t.rows (.record .comment) = putAll (c.saved.rows (.record .comment))
      (numberedComments.underAll c.saved.sequence ((m.comments.map commentRecord).map
        fun row : CommentRecord => { row with articleId := ArticleRecord.id c.written })) :=
    rows_saveCollections_children articleComments numberedComments (by decide) apart others
  rw [saved, List.map_map, sequence, c.rows_saved (by decide)]
  rfl

theorem commentsStored_iff [context.Timeless] (c : Update context Entity.article m s t upserted) (numbers : numbered.Inv s)
    {u : Uuid} (id : ArticleRecord.id c.written = some u)
    (new : m.isKeyless = true → ∀ r ∈ s.rows (.record .comment), r.articleId ≠ some u) :
    ChildrenStored Comment.id CommentRecord.id
        (fun c r => r.body = c.body ∧ r.flags = texts.encode c.flags) m.comments
        ((t.rows (.record .comment)).filter (·.articleId = some u)) ↔
      (numbersFor (numberAtComments s.sequence m) (m.comments.map Comment.id)).Nodup := by
  obtain ⟨pruned, -⟩ := c.inv_pruned (D := numbered) trivial numbers
  rw [rows_of_comments c, ← id]
  rw [← id] at new
  refine numberedComments.childrenStored_iff (pruned.distinct _) (fun _ _ => ⟨rfl, rfl⟩)
    (fun _ _ => decide_eq_true rfl) fun x hx linked => ?_
  obtain ⟨h0, among⟩ := id_mem_of_pruned c new hx (of_decide_eq_true linked)
  rw [List.map_map]
  exact ⟨h0, among⟩

end Article

/-! ## Updates in a run -/

/-- After a strict update of a thread or an article, in every store that calls leave, all provided children
are stored exactly if they get different numbers, one after the other. Where the parent gets a new key it
must be one that no child names yet: a number before the end, or an identifier that was not used. -/
theorem children_stored_iff (fresh : Nat → Uuid) (hf : ∀ n, (fresh n).isNil = false)
    (calls : List (Context × Call Entity)) (context : Context) :
    let store : Store Kind := run (Store.empty fresh) calls
    (∀ (m : Thread) value created last, strictUpdate Hooks.none Entity.thread (some m)
        ⟨store, context, ()⟩ = (.ok ⟨value, created⟩, last) →
      (m.id = 0 → store.sequence + 1 < UInt64.size) →
      (ChildrenStored Reply.id ReplyRecord.id (fun c r => r.text = c.text) m.replies
          ((last.store.rows (.record .reply)).filter (·.threadId = some value.id)) ↔
        (numbersFor (numberAfter store.sequence m.id) (m.replies.map Reply.id)).Nodup)) ∧
    ∀ (m : Article) value created last, strictUpdate Hooks.none Entity.article (some m)
        ⟨store, context, ()⟩ = (.ok ⟨value, created⟩, last) →
      ∃ u : Uuid, value.id = some ⟨u.text⟩ ∧
        ((m.isKeyless = true → ∀ r ∈ store.rows (.record .comment), r.articleId ≠ some u) →
          (ChildrenStored Comment.id CommentRecord.id
              (fun c r => r.body = c.body ∧ r.flags = texts.encode c.flags) m.comments
              ((last.store.rows (.record .comment)).filter (·.articleId = some u)) ↔
            (numbersFor (numberAtComments store.sequence m) (m.comments.map Comment.id)).Nodup)) := by
  intro store
  obtain ⟨numbers, -⟩ := numbered_run fresh calls
  refine ⟨fun m value created last updates bound => ?_, fun m value created last updates => ?_⟩
  · obtain ⟨c⟩ := exists_update updates
    refine repliesStored_iff c numbers fun unnumbered => ⟨?_, bound unnumbered⟩
    exact unexhausted_of_run hf (Counts.refl store) (Nat.lt_of_succ_lt (bound unnumbered))
  · obtain ⟨c⟩ := exists_update updates
    obtain ⟨-, _, assigned, -⟩ := Store.save_ok.mp c.saves
    obtain ⟨u, id⟩ := exists_id_of_assignKey assigned
    refine ⟨u, ?_, commentsStored_iff c numbers id⟩
    rw [id_of_responds_article c.responds, id]
    rfl

/-- A run that stores a thread with a reply and a comment by itself. -/
def repliedCalls : List (Context × Call Entity) := [
  (.unlimited, .create .thread (some { (default : Thread) with id := 1, replies := [⟨0, "first"⟩] })),
  (.unlimited, .create .comment (some { (default : Comment) with id := 5, body := "alone" }))]

/-- A new thread with that reply and others, one of which has no number. -/
def repliedThread : Thread := { (default : Thread) with
  replies := [⟨7, "second"⟩, ⟨0, "third"⟩, ⟨2, "first"⟩] }

/-- A new article with the comment, by a new writer. -/
def commentedArticle : Article := { (default : Article) with
  writer := some default
  comments := [{ (default : Comment) with body := "new" }, { (default : Comment) with id := 5 }] }

theorem children_stored_replied :
    let store : Store Kind := run (Store.empty oddUuid) repliedCalls
    (∃ value last, strictUpdate Hooks.none Entity.thread (some repliedThread) ⟨store, .unlimited, ()⟩ =
        (.ok ⟨value, true⟩, last) ∧
      (last.store.rows (.record .reply)).map ReplyRecord.id = [2, 7, 8] ∧
      ChildrenStored Reply.id ReplyRecord.id (fun c r => r.text = c.text) repliedThread.replies
        ((last.store.rows (.record .reply)).filter (·.threadId = some value.id))) ∧
    ∃ value last, strictUpdate Hooks.none Entity.article (some commentedArticle)
        ⟨store, .unlimited, ()⟩ = (.ok ⟨value, true⟩, last) ∧
      (last.store.rows (.record .comment)).map CommentRecord.id = [5, 8] ∧
      ∃ u : Uuid, value.id = some ⟨u.text⟩ ∧ ChildrenStored Comment.id CommentRecord.id
        (fun c r => r.body = c.body ∧ r.flags = texts.encode c.flags) commentedArticle.comments
        ((last.store.rows (.record .comment)).filter (·.articleId = some u)) := by
  intro store
  subst store
  obtain ⟨threads, articles⟩ := children_stored_iff oddUuid isNil_oddUuid repliedCalls .unlimited
  constructor
  · obtain ⟨value, last, updates, ids⟩ : ∃ value last, strictUpdate Hooks.none Entity.thread
        (some repliedThread) ⟨run (Store.empty oddUuid) repliedCalls, .unlimited, ()⟩ =
          (.ok ⟨value, true⟩, last) ∧
            (last.store.rows (.record .reply)).map ReplyRecord.id = [2, 7, 8] :=
      exists_of_created (by decide +kernel) (by decide +kernel)
    have room : (run (Store.empty oddUuid : Store Kind) repliedCalls).sequence + 1 < UInt64.size := by
      decide +kernel
    have numbers : (numbersFor (numberAfter (run (Store.empty oddUuid : Store Kind) repliedCalls).sequence
        repliedThread.id) (repliedThread.replies.map Reply.id)).Nodup := by decide +kernel
    exact ⟨value, last, updates, ids,
      (threads repliedThread value true last updates fun _ => room).mpr numbers⟩
  · obtain ⟨value, last, updates, ids⟩ : ∃ value last, strictUpdate Hooks.none Entity.article
        (some commentedArticle) ⟨run (Store.empty oddUuid) repliedCalls, .unlimited, ()⟩ =
          (.ok ⟨value, true⟩, last) ∧
            (last.store.rows (.record .comment)).map CommentRecord.id = [5, 8] :=
      exists_of_created (by decide +kernel) (by decide +kernel)
    obtain ⟨u, id, stored⟩ := articles commentedArticle value true last updates
    have alone : ∀ r ∈ (run (Store.empty oddUuid : Store Kind) repliedCalls).rows (.record .comment),
        CommentRecord.articleId r = none := by decide +kernel
    have numbers : (numbersFor (numberAtComments (run (Store.empty oddUuid : Store Kind)
        repliedCalls).sequence commentedArticle) (commentedArticle.comments.map Comment.id)).Nodup := by
      decide +kernel
    refine ⟨value, last, updates, ids, u, id, (stored fun _ r hr named => ?_).mpr numbers⟩
    exact Option.some_ne_none u (named.symm.trans (alone r hr))

/-- A thread whose first reply has no number and gets that of the second, which is then saved over it. -/
theorem reply_lost_in_thread :
    let m : Thread := ⟨1, "a thread", [⟨0, "first"⟩, ⟨2, "second"⟩], []⟩
    let store : Store Kind := run (Store.empty oddUuid) ([] : List (Context × Call Entity))
    ((m.replies.map Reply.id).filter (· ≠ 0)).Nodup ∧
      ∃ value last, strictUpdate Hooks.none Entity.thread (some m) ⟨store, .unlimited, ()⟩ =
          (.ok ⟨value, true⟩, last) ∧
        (last.store.rows (.record .reply)).map ReplyRecord.text = ["second"] ∧
        last.store.sequence = 2 ∧
        ¬ChildrenStored Reply.id ReplyRecord.id (fun c r => r.text = c.text) m.replies
          ((last.store.rows (.record .reply)).filter (·.threadId = some value.id)) := by
  intro m store
  obtain ⟨value, last, updates, texts, sequence⟩ : ∃ value last, strictUpdate Hooks.none Entity.thread
      (some m) ⟨store, .unlimited, ()⟩ = (.ok ⟨value, true⟩, last) ∧
        (last.store.rows (.record .reply)).map ReplyRecord.text = ["second"] ∧ last.store.sequence = 2 :=
    exists_of_created (by decide +kernel) (by decide +kernel)
  refine ⟨by decide, value, last, updates, texts, sequence, ?_⟩
  rintro ⟨rows, perm, stored⟩
  have two : rows.length = 2 := stored.length_eq.symm
  have one : (last.store.rows (.record .reply)).length = 1 := by
    rw [← List.length_map ReplyRecord.text, texts]
    rfl
  have le := List.length_filter_le (fun r : ReplyRecord => r.threadId = some value.id)
    (last.store.rows (.record .reply))
  rw [← perm.length_eq, two, one] at le
  exact absurd le (by decide)

end ProtoStore.Blog
