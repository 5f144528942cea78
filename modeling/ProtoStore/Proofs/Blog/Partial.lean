import ProtoStore.Proofs.Blog.Tags
import ProtoStore.Proofs.Blog.Traceless
import ProtoStore.Proofs.Domain.Partial

/-!
# What is left of messages that were not created

A creation writes the targets of references first, then its row, then children and joined messages, and
nothing takes back what was written. So a message whose key is taken leaves its writer behind, and one
with a tag that has no key leaves all that was stored up to that tag. One whose context comes to its end leaves
what was stored until then (`Entity.Begun`), and so does one for which there is no next number. All else that
can be wrong is found before the first write (`left_of_failed_creation`).
-/

namespace ProtoStore.Blog

open Domain Store Operations Domain.Action

/-! ## Parts of a message -/

/-- The tags that are stored with a message. -/
def Entity.tags : (e : Entity) → e.Message → List Tag
  | article, (m : Article) => m.tags
  | thread, (m : Thread) => m.topics
  | digest, (m : Digest) => m.featured
  | blogPost, _ | author, _ | comment, _ | tag, _ | reply, _ => []

/-- A message with other tags to be stored with it. -/
def Entity.withTags : (e : Entity) → List Tag → e.Message → e.Message
  | article, tags, (m : Article) => { m with tags }
  | thread, tags, (m : Thread) => { m with topics := tags }
  | digest, tags, (m : Digest) => { m with featured := tags }
  | blogPost, _, m | author, _, m | comment, _, m | tag, _, m | reply, _, m => m

/-- A message with only the first of the children to be stored with it. -/
def Entity.takeChildren (n : Nat) : (e : Entity) → e.Message → e.Message
  | article, (m : Article) => { m with comments := m.comments.take n }
  | thread, (m : Thread) => { m with replies := m.replies.take n }
  | digest, (m : Digest) => { m with entries := m.entries.take n }
  | blogPost, m | author, m | comment, m | tag, m | reply, m => m

/-- The writer that is stored with a message. -/
def Entity.writer? : (e : Entity) → e.Message → Option Author
  | article, (m : Article) => m.writer
  | blogPost, _ | author, _ | comment, _ | tag, _ | reply, _ | thread, _ | digest, _ => none

section

variable {e : Entity} {m : e.Message} {pending before after : List (Pending e)} {link : Joined e}
  {rows : List (Record link.target)}

theorem generated_of_collected (hc : List.Forall₂ (Collected m) (Bindings.links e) pending) :
    ∀ p ∈ pending, p.Generated := by
  intro p hp
  obtain ⟨link, hl, hc⟩ := exists_of_forall₂ hc hp
  cases hc with
  | reference _ =>
    exact forall_reference (P := fun _ link => Generates (table link.target)) (fun _ _ => rfl) hl
  | children _ =>
    exact forall_children (P := fun _ link => Generates (table link.target)) (fun _ _ => rfl)
      (fun _ _ => rfl) (fun _ _ => rfl) hl
  | joined _ => trivial

/-- The places at which links may be interrupted. -/
inductive Place : (e : Entity) → (before : List (Pending e)) → Pending e → (after : List (Pending e)) → Prop
  | writer (target comments tags) : Place .article [] (.reference articleWriter target)
      [.children articleComments comments, .joined articleTags tags]
  | comments (writer comments tags) : Place .article [.reference articleWriter writer]
      (.children articleComments comments) [.joined articleTags tags]
  | tags (writer comments tags) : Place .article
      [.reference articleWriter writer, .children articleComments comments] (.joined articleTags tags) []
  | replies (replies topics) : Place .thread [] (.children threadReplies replies) [.joined threadTopics topics]
  | topics (replies topics) : Place .thread [.children threadReplies replies] (.joined threadTopics topics) []
  | entries (entries featured hidden) : Place .digest [] (.children digestEntries entries)
      [.joined digestFeatured featured, .joined digestHidden hidden]
  | featured (entries featured hidden) : Place .digest [.children digestEntries entries]
      (.joined digestFeatured featured) [.joined digestHidden hidden]
  | hidden (entries featured hidden) : Place .digest
      [.children digestEntries entries, .joined digestFeatured featured] (.joined digestHidden hidden) []

theorem place_of_split {p : Pending e} (hc : List.Forall₂ (Collected m) (Bindings.links e) pending)
    (split : pending = before ++ p :: after) : Place e before p after := by
  cases e with
  | article =>
    obtain ⟨writer, comments, tags, rfl, -⟩ := collected_article hc
    rcases before with _ | ⟨_, _ | ⟨_, _ | ⟨_, before⟩⟩⟩
    · cases split
      exact .writer writer comments tags
    · cases split
      exact .comments writer comments tags
    · cases split
      exact .tags writer comments tags
    · have lengths := congrArg List.length split
      simp at lengths
  | thread =>
    obtain ⟨replies, topics, rfl, -⟩ := collected_thread hc
    rcases before with _ | ⟨_, _ | ⟨_, before⟩⟩
    · cases split
      exact .replies replies topics
    · cases split
      exact .topics replies topics
    · have lengths := congrArg List.length split
      simp at lengths
  | digest =>
    obtain ⟨entries, featured, hidden, rfl, -⟩ := collected_digest hc
    rcases before with _ | ⟨_, _ | ⟨_, _ | ⟨_, before⟩⟩⟩
    · cases split
      exact .entries entries featured hidden
    · cases split
      exact .featured entries featured hidden
    · cases split
      exact .hidden entries featured hidden
    · have lengths := congrArg List.length split
      simp at lengths
  | blogPost | author | comment | tag | reply =>
    obtain rfl := pending_eq_nil rfl hc
    exact absurd split (by simp)

/-- References come before all other links. -/
theorem Place.eq_nil {link : Reference e} {target : Option (Record link.target)}
    (h : Place e before (.reference link target) after) : before = [] := by
  cases h
  rfl

/-- The one link to tags that are stored. -/
inductive TagLink : (e : Entity) → List (Pending e) → Joined e → List (Pending e) → Prop
  | article (writer comments) :
    TagLink .article [.reference articleWriter writer, .children articleComments comments] articleTags []
  | thread (replies) : TagLink .thread [.children threadReplies replies] threadTopics []
  | digest (entries hidden) :
    TagLink .digest [.children digestEntries entries] digestFeatured [.joined digestHidden hidden]

theorem Place.tagLink {link : Joined e} {rows : List (Record link.target)}
    (h : Place e before (.joined link rows) after) (hs : link.strategy ≠ .clear) : TagLink e before link after := by
  cases h with
  | tags writer comments _ => exact .article writer comments
  | topics replies _ => exact .thread replies
  | featured entries _ hidden => exact .digest entries hidden
  | hidden entries featured _ => exact absurd rfl hs

/-- The one link to children that are stored, with the links after it, and these without the tags to be stored. -/
inductive ChildLink : (e : Entity) → List (Pending e) → Children e → (after rest : List (Pending e)) → Prop
  | article (writer tags) : ChildLink .article [.reference articleWriter writer] articleComments
      [.joined articleTags tags] [.joined articleTags []]
  | thread (topics) : ChildLink .thread [] threadReplies [.joined threadTopics topics] [.joined threadTopics []]
  | digest (featured hidden) : ChildLink .digest [] digestEntries
      [.joined digestFeatured featured, .joined digestHidden hidden]
      [.joined digestFeatured [], .joined digestHidden hidden]

theorem Place.childLink {link : Children e} {rows : List (Record link.target)}
    (h : Place e before (.children link rows) after) : ∃ rest, ChildLink e before link after rest := by
  cases h with
  | comments writer _ tags => exact ⟨_, .article writer tags⟩
  | replies _ topics => exact ⟨_, .thread topics⟩
  | entries _ featured hidden => exact ⟨_, .digest featured hidden⟩

namespace ChildLink

variable {link : Children e} {rest : List (Pending e)}

/-- A message with fewer children and no tags has fewer records of children to be stored with it, and none of
tags. -/
theorem cut (h : ChildLink e before link after rest) {saved more : List (Record link.target)}
    (hc : List.Forall₂ (Collected m) (Bindings.links e) (before ++ .children link (saved ++ more) :: after)) :
    List.Forall₂ (Collected (e.withTags [] (e.takeChildren saved.length m))) (Bindings.links e)
      (before ++ .children link saved :: rest) := by
  cases h with
  | article writer tags =>
    obtain ⟨_, _, _, same, hw, hcomments, -⟩ := collected_article hc
    cases same
    exact .cons (.reference hw) (.cons (.children (List.forall₂_take_append _ _ _ hcomments))
      (.cons (.joined .nil) .nil))
  | thread topics =>
    obtain ⟨_, _, same, hr, -⟩ := collected_thread hc
    cases same
    exact .cons (.children (List.forall₂_take_append _ _ _ hr)) (.cons (.joined .nil) .nil)
  | digest featured hidden =>
    obtain ⟨_, _, _, same, he, -, hh⟩ := collected_digest hc
    cases same
    exact .cons (.children (List.forall₂_take_append _ _ _ he)) (.cons (.joined .nil) (.cons (.joined hh) .nil))

theorem prepare_eq (h : ChildLink e before link after rest) {some others : List (Record link.target)}
    {row : Record e} {world : World Kind Unit} : prepare (before ++ .children link some :: after) row world =
      prepare (before ++ .children link others :: rest) row world := by
  cases h <;> rfl

theorem saveCollections_rest (h : ChildLink e before link after rest) {row : Record e} {store : Store Kind} :
    saveCollections rest row (⟨store, .unlimited, ()⟩ : World Kind Unit) = (.ok (), ⟨store, .unlimited, ()⟩) := by
  cases h <;> rfl

end ChildLink

theorem exists_of_map_tagRecord {tags : List Tag} {linked rest : List (Row (Kind.record .tag))}
    {row : Row (Kind.record .tag)} (h : linked ++ row :: rest = tags.map tagRecord) :
    ∃ kept tag more, tags = kept ++ tag :: more ∧ kept.map tagRecord = linked ∧ tagRecord tag = row := by
  obtain ⟨kept, others, rfl, hk, ho⟩ := List.map_eq_append_iff.mp h.symm
  obtain ⟨tag, more, rfl, ht, -⟩ := List.map_eq_cons_iff.mp ho
  exact ⟨kept, tag, more, rfl, hk, ht⟩

theorem converts_tags (tags : List Tag) :
    List.Forall₂ (Converts Entity.tag) tags (tags.map tagRecord) := by
  induction tags with
  | nil => exact .nil
  | cons tag tags ih => exact .cons rfl ih

/-- A message with fewer tags has fewer records of tags to be stored with it, and the others as before. -/
theorem TagLink.cut (h : TagLink e before link after) {linked rest : List (Record link.target)}
    {row : Record link.target} (hc : List.Forall₂ (Collected m) (Bindings.links e)
      (before ++ .joined link (linked ++ row :: rest) :: after)) :
    ∃ kept tag more, e.tags m = kept ++ tag :: more ∧
      List.Forall₂ (Collected (e.withTags kept m)) (Bindings.links e)
        (before ++ .joined link linked :: after) ∧
      (record (table link.target)).keyIsEmpty row = (tag.id == "") ∧
      ∀ (u : Store Kind) (context : Context), (u.save context (table link.target) row).store =
        (u.save context (.record .tag) (tagRecord tag)).store := by
  cases h with
  | article writer comments =>
    obtain ⟨_, _, _, same, hw, hcomments, ht⟩ := collected_article hc
    cases same
    obtain ⟨kept, tag, more, tags, rfl, rfl⟩ := exists_of_map_tagRecord (rows_of_converts (fun _ => rfl) ht)
    exact ⟨kept, tag, more, tags, .cons (.reference hw) (.cons (.children hcomments)
      (.cons (.joined (converts_tags kept)) .nil)), rfl, fun _ _ => rfl⟩
  | thread replies =>
    obtain ⟨_, _, same, hr, ht⟩ := collected_thread hc
    cases same
    obtain ⟨kept, tag, more, tags, rfl, rfl⟩ := exists_of_map_tagRecord (rows_of_converts (fun _ => rfl) ht)
    exact ⟨kept, tag, more, tags, .cons (.children hr) (.cons (.joined (converts_tags kept)) .nil), rfl,
      fun _ _ => rfl⟩
  | digest entries hidden =>
    obtain ⟨_, _, _, same, he, hf, hh⟩ := collected_digest hc
    cases same
    obtain ⟨kept, tag, more, tags, rfl, rfl⟩ := exists_of_map_tagRecord (rows_of_converts (fun _ => rfl) hf)
    exact ⟨kept, tag, more, tags, .cons (.children he) (.cons (.joined (converts_tags kept))
      (.cons (.joined hh) .nil)), rfl, fun _ _ => rfl⟩

theorem TagLink.prepare_eq (h : TagLink e before link after) {some others : List (Record link.target)}
    {row : Record e} {world : World Kind Unit} :
    prepare (before ++ .joined link some :: after) row world =
      prepare (before ++ .joined link others :: after) row world := by
  cases h <;> rfl

theorem TagLink.saveCollections_after (h : TagLink e before link after) {row : Record e} {store : Store Kind} :
    saveCollections after row (⟨store, .unlimited, ()⟩ : World Kind Unit) = (.ok (), ⟨store, .unlimited, ()⟩) := by
  cases h <;> rfl

end

/-! ## What is left -/

/-- A store with the writer that is stored with a message, as an update of the writer leaves it. -/
def Entity.withWriter (e : Entity) (m : e.Message) (store : Store Kind) : Store Kind :=
  (e.writer? m).elim store fun writer =>
    (Call.strictUpdate Entity.author (some writer)).after store .unlimited

/-- A message is created in a context without an end. -/
def Entity.Creates (e : Entity) (m : e.Message) (store : Store Kind) : Prop :=
  ((Call.create e (some m)).act Hooks.none ⟨store, .unlimited, ()⟩).1 = .ok ()

/-- What the creation of a message leaves. -/
def Entity.created (e : Entity) (m : e.Message) (store : Store Kind) : Store Kind :=
  (Call.create e (some m)).after store .unlimited

/-- What an update of a tag leaves. -/
def withTag (tag : Tag) (store : Store Kind) : Store Kind :=
  (Call.strictUpdate Entity.tag (some tag)).after store .unlimited

/-- A message is stored up to some point: nothing of it, or its writer, or also its row, with the first of its
children and no tags, or with all of them and the first of its tags. The next tag may be stored, too, but not
linked. -/
inductive Entity.Begun (e : Entity) (m : e.Message) (store last : Store Kind) : Prop
  | nothing (left : last.rows = store.rows)
  | writer (left : last.rows = (e.withWriter m store).rows)
  | children (n : Nat) (creates : e.Creates (e.withTags [] (e.takeChildren n m)) store)
    (left : last.rows = (e.created (e.withTags [] (e.takeChildren n m)) store).rows)
  | tags (kept rest : List Tag) (split : e.tags m = kept ++ rest) (creates : e.Creates (e.withTags kept m) store)
    (left : last.rows = (e.created (e.withTags kept m) store).rows)
  | tag (kept : List Tag) (tag : Tag) (rest : List Tag) (split : e.tags m = kept ++ tag :: rest)
    (creates : e.Creates (e.withTags kept m) store)
    (left : last.rows = (withTag tag (e.created (e.withTags kept m) store)).rows)

/-- What is left of a message that was not created. -/
def Entity.Leaves (store : Store Kind) (e : Entity) (m : e.Message) (failure : Failure) (last : Store Kind) : Prop :=
  match failure with
  | .store (.duplicateKey _) => last.rows = (e.withWriter m store).rows
  | .store (.missingKey _) =>
    e = .tag ∧ last.rows = store.rows ∨ ∃ kept tag more, e.tags m = kept ++ tag :: more ∧
      e.Creates (e.withTags kept m) store ∧
        last.rows = (if tag.id = "" then e.created (e.withTags kept m) store
          else withTag tag (e.created (e.withTags kept m) store)).rows
  | .cancelled | .panic => e.Begun m store last
  | _ => last = store

section

variable {e : Entity} {m : e.Message} {store last : Store Kind} {failure : Failure}

theorem after_strictUpdate {context : Context} (input : Option e.Message) :
    (Call.strictUpdate e input).after store context =
      (strictUpdate Hooks.none e input ⟨store, context, ()⟩).2.store := by
  show (discard (strictUpdate Hooks.none e input) (⟨store, context, ()⟩ : World Kind Unit)).2.store = _
  rw [discard_apply]

theorem rows_of_prepare {pending : List (Pending e)} {row prepared : Record e} {referred : Store Kind}
    (hc : List.Forall₂ (Collected m) (Bindings.links e) pending)
    (h : prepare pending row ⟨store, .unlimited, ()⟩ = (.ok prepared, ⟨referred, .unlimited, ()⟩)) :
    referred.rows = (e.withWriter m store).rows := by
  unfold Entity.withWriter
  cases e with
  | article =>
    change referred.rows = ((Article.writer m).elim store fun writer =>
      (Call.strictUpdate Entity.author (some writer)).after store .unlimited).rows
    cases writer_prepared hc h with
    | without absent =>
      rw [absent]
      rfl
    | saved provided converts saves =>
      have live : Context.unlimited.check = .ok () := rfl
      have same := store_strictUpdate_of_leaf (s := store) live rfl rfl converts
      rw [provided, Option.elim_some, after_strictUpdate, same]
      exact congrArg (fun w => w.store.rows) saves.symm
  | thread =>
    obtain ⟨replies, topics, rfl, -⟩ := collected_thread hc
    cases h
    rfl
  | digest =>
    obtain ⟨entries, featured, hidden, rfl, -⟩ := collected_digest hc
    cases h
    rfl
  | blogPost | author | comment | tag | reply =>
    obtain rfl := pending_eq_nil rfl hc
    cases h
    rfl

theorem generates_of_ne {e : Entity} (h : e ≠ .tag) : Generates (table e) := by
  cases e with
  | tag => exact absurd rfl h
  | article | blogPost | author | comment | reply | thread | digest => exact fun _ _ => rfl

/-! ### Parts of a message that are created -/

theorem converts_withTags {row : Record e} (kept : List Tag) (h : Converts e m row) :
    Converts e (e.withTags kept m) row := by
  cases e <;> exact h

theorem converts_takeChildren {row : Record e} (n : Nat) (h : Converts e m row) :
    Converts e (e.takeChildren n m) row := by
  cases e <;> exact h

theorem addressable_withTags (kept : List Tag) (h : e.Addressable m) :
    e.Addressable (e.withTags kept m) := by
  cases e <;> exact h

theorem addressable_takeChildren (n : Nat) (h : e.Addressable m) : e.Addressable (e.takeChildren n m) := by
  cases e <;> exact h

theorem withTags_tags (e : Entity) (m : e.Message) : e.withTags (e.tags m) m = m := by
  cases e <;> rfl

section

variable {pending before after : List (Pending e)} {row prepared written : Record e}
  {referred created t u : Store Kind} (inv : faithful.Inv store)
include inv

/-- A message is created if its rows are stored one after the other. -/
theorem creates_of_stored (ha : e.Addressable m) (refers : Prepared m store pending row prepared referred)
    (creates : referred.create .unlimited (table e) prepared = ⟨created, written, .ok ()⟩)
    (links : saveCollections pending written ⟨created, .unlimited, ()⟩ = (.ok (), ⟨u, .unlimited, ()⟩)) :
    e.Creates m store ∧ e.created m store = u := by
  obtain ⟨value, creation⟩ := exists_stored readable_faithful ha inv refers creates links
  have answer : (Call.create e (some m)).act Hooks.none ⟨store, .unlimited, ()⟩ = (.ok (), ⟨u, .unlimited, ()⟩) := by
    show discard (Operations.create Hooks.none e (some m)) _ = _
    rw [discard_apply, creation]
    rfl
  exact ⟨congrArg Prod.fst answer, congrArg (fun w => w.2.store) answer⟩

/-- With the tags before the one it stops at, a message is created. -/
theorem TagLink.creates {link : Joined e} {linked rest : List (Record link.target)} {kept : List Tag}
    {more : List (Record link.target)} (h : TagLink e before link after)
    (exchanged : link.strategy ≠ .clear) (ha : e.Addressable m)
    (refers : Prepared m store (before ++ .joined link (linked ++ rest) :: after) row prepared referred)
    (collected : List.Forall₂ (Collected (e.withTags kept m)) (Bindings.links e)
      (before ++ .joined link linked :: after))
    (creates : referred.create .unlimited (table e) prepared = ⟨created, written, .ok ()⟩)
    (saves : saveCollections before written ⟨created, .unlimited, ()⟩ = (.ok (), ⟨t, .unlimited, ()⟩))
    (links : linkAll .unlimited (table link.target) link.join (link.link written) t linked = ⟨u, more, .ok ()⟩) :
    e.Creates (e.withTags kept m) store ∧ e.created (e.withTags kept m) store = u := by
  have last : saveOne written (.joined link linked) ⟨t, .unlimited, ()⟩ = (.ok (), ⟨u, .unlimited, ()⟩) :=
    bind_ok.mpr ⟨more, _, write_done ((if_neg exchanged).trans links), rfl⟩
  have refers' : Prepared (e.withTags kept m) store (before ++ .joined link linked :: after) row prepared referred :=
    ⟨converts_withTags kept refers.converts, collected, h.prepare_eq.trans refers.prepares⟩
  refine creates_of_stored inv (addressable_withTags kept ha) refers' creates (forM_append_ok.mpr ⟨_, saves, ?_⟩)
  exact bind_ok.mpr ⟨(), ⟨u, .unlimited, ()⟩, last, h.saveCollections_after⟩

/-- With the children before the one it stops at, and without tags, a message is created. -/
theorem ChildLink.creates {link : Children e} {rest : List (Pending e)} {saved others : List (Record link.target)}
    {more : List (Record link.target)} (h : ChildLink e before link after rest)
    (exchanged : link.strategy ≠ .clear) (ha : e.Addressable m)
    (refers : Prepared m store (before ++ .children link (saved ++ others) :: after) row prepared referred)
    (creates : referred.create .unlimited (table e) prepared = ⟨created, written, .ok ()⟩)
    (saves : saveCollections before written ⟨created, .unlimited, ()⟩ = (.ok (), ⟨t, .unlimited, ()⟩))
    (stored : saveAll .unlimited (table link.target) (link.attach written) t saved = ⟨u, more, .ok ()⟩) :
    let part := e.withTags [] (e.takeChildren saved.length m)
    e.Creates part store ∧ e.created part store = u := by
  have last : saveOne written (.children link saved) ⟨t, .unlimited, ()⟩ = (.ok (), ⟨u, .unlimited, ()⟩) :=
    bind_ok.mpr ⟨more, _, write_done ((if_neg exchanged).trans stored), rfl⟩
  have refers' : Prepared (e.withTags [] (e.takeChildren saved.length m)) store
      (before ++ .children link saved :: rest) row prepared referred :=
    ⟨converts_withTags [] (converts_takeChildren _ refers.converts), h.cut refers.collected,
      h.prepare_eq.symm.trans refers.prepares⟩
  refine creates_of_stored inv (addressable_withTags [] (addressable_takeChildren _ ha)) refers' creates
    (forM_append_ok.mpr ⟨_, saves, ?_⟩)
  exact bind_ok.mpr ⟨(), ⟨u, .unlimited, ()⟩, last, h.saveCollections_rest⟩

end

/-- A tag is stored as an update of it stores it. -/
theorem withTag_eq {kind : Kind} {row : Row kind} {tag : Tag} {u v : Store Kind} {written : Row kind}
    (saved : (u.save .unlimited kind row).store = (u.save .unlimited (.record .tag) (tagRecord tag)).store)
    (saves : u.save .unlimited kind row = ⟨v, written, .ok ()⟩) : withTag tag u = v := by
  have alive : Context.unlimited.check = .ok () := rfl
  have same : (strictUpdate Hooks.none Entity.tag (some tag) ⟨u, .unlimited, ()⟩).2.store =
      (u.save .unlimited (.record .tag) (tagRecord tag)).store :=
    store_strictUpdate_of_leaf alive rfl rfl rfl
  rw [withTag, after_strictUpdate, same, ← saved, saves]

theorem leaves_of_halfway {pending : List (Pending e)} {row prepared written : Record e}
    {referred created : Store Kind} (ha : e.Addressable m) (inv : faithful.Inv store)
    (refers : Prepared m store pending row prepared referred)
    (creates : referred.create .unlimited (table e) prepared = ⟨created, written, .ok ()⟩)
    (h : Halfway written pending created failure last) : e.Leaves store m failure last := by
  cases h with
  | children cut before link saved child rest after split exchanged t u more saves stored left =>
    subst split
    obtain ⟨others, childLink⟩ := (place_of_split refers.collected rfl).childLink
    obtain ⟨created, same⟩ := childLink.creates inv exchanged ha refers creates saves stored
    have begun : e.Begun m store last := .children saved.length created (left.trans (congrArg Store.rows same.symm))
    rcases cut with rfl | rfl <;> exact begun
  | joined before link linked target rest after split exchanged t u more later saves stored stopped =>
    subst split
    have hl : .joined link ∈ Bindings.links e := by
      obtain ⟨l, hl, hc⟩ := exists_of_forall₂ refers.collected (List.mem_append_right _ List.mem_cons_self)
      cases hc
      exact hl
    have tagLink := (place_of_split refers.collected rfl).tagLink exchanged
    obtain ⟨kept, tag, others, tags, collected, empty, saved⟩ := tagLink.cut refers.collected
    obtain ⟨created, same⟩ := tagLink.creates inv exchanged ha refers collected creates saves stored
    rcases stopped with ⟨refused, left⟩ | ⟨v, w, stores, refused, left⟩
    · have left : last.rows = (e.created (e.withTags kept m) store).rows := left.trans (congrArg Store.rows same.symm)
      rcases save_failed refused with cut | ⟨rfl, unkeyed, -⟩
      · have begun : e.Begun m store last := .tags kept (tag :: others) tags created left
        rcases cut with rfl | rfl <;> exact begun
      · refine Or.inr ⟨kept, tag, others, tags, created, ?_⟩
        rwa [if_pos (beq_iff_eq.mp (empty.symm.trans unkeyed))]
    · have left : last.rows = (withTag tag (e.created (e.withTags kept m) store)).rows := by
        rw [same, withTag_eq (saved u .unlimited) stores]
        exact left
      rcases ensureLink_failed (keyless_join hl) (byColumns_join hl) (eq_of_join_key hl) refused with
        cut | ⟨name, rfl⟩
      · have begun : e.Begun m store last := .tag kept tag others tags created left
        rcases cut with rfl | rfl <;> exact begun
      · have keyed : tag.id ≠ "" :=
          ne_of_beq_false (empty.symm.trans ((lawful_joined hl).keyless_target.keyed_of_save stores))
        refine Or.inr ⟨kept, tag, others, tags, created, ?_⟩
        rwa [if_neg keyed]

theorem leaves_of_stopped (ha : e.Addressable m) (inv : faithful.Inv store)
    (h : Stopped e m store failure last) : e.Leaves store m failure last := by
  cases h with
  | unsuited cause left =>
    obtain ⟨_, _, rfl⟩ := cause
    exact left
  | reference cut pending collected before link target after row prepared t split prepares left =>
    subst split
    obtain rfl := (place_of_split collected rfl).eq_nil
    cases prepares
    rcases cut with rfl | rfl <;> exact Entity.Begun.nothing left
  | row pending row prepared referred refers cause left =>
    have left := left.trans (rows_of_prepare refers.collected refers.prepares)
    rcases cause with cut | ⟨name, rfl, other⟩ | ⟨name, rfl⟩
    · rcases cut with rfl | rfl <;> exact Entity.Begun.writer left
    · obtain rfl : e = .tag := by
        by_contra ne
        exact other (generates_of_ne ne)
      exact Or.inl ⟨rfl, left⟩
    · exact left
  | links pending row prepared written referred created refers creates halfway =>
    exact leaves_of_halfway ha inv refers creates halfway
  | answer cause pending row prepared written referred created refers creates saves =>
    subst cause
    obtain ⟨done, same⟩ := creates_of_stored inv ha refers creates saves
    have whole := withTags_tags e m
    exact Entity.Begun.tags (e.tags m) [] (List.append_nil _).symm (by rwa [whole])
      (by rw [whole, same])

end

/-- In every store that calls leave, what a creation leaves that fails is told by its failure. -/
theorem left_of_failed_creation (fresh : Nat → Uuid) (calls : List (Context × Call Entity))
    (h : ∀ call ∈ calls, call.2.Writes Entity.Addressable) (context : Context) (e : Entity)
    (input : Option e.Message) (ha : ∀ m ∈ input, e.Addressable m) (failure : Failure)
    (last : World Kind Unit)
    (failed : create Hooks.none e input ⟨run (Store.empty fresh) calls, context, ()⟩ =
      (.error failure, last)) :
    (input = none → last.store = run (Store.empty fresh) calls) ∧
      ∀ m ∈ input, e.Leaves (run (Store.empty fresh) calls) m failure last.store := by
  have inv := faithful_run fresh h
  constructor
  · rintro rfl
    cases failed
    rfl
  · rintro m rfl
    have stopped := create_stopped readable_faithful namesFields
      (fun _ collected => generated_of_collected collected) (ha m rfl) inv failure last failed
    exact leaves_of_stopped (ha m rfl) inv stopped

/-- A thread whose second topic has no key. -/
def halfTagged : Thread := ⟨3, "On stores", [⟨0, "first"⟩], [⟨"a", "A"⟩, ⟨"", "B"⟩, ⟨"c", "C"⟩]⟩

theorem exists_of_failed {M : Type} {failure : Failure} {P : World Kind Unit → Prop}
    {result : Except Failure M × World Kind Unit}
    (h : (match result.1 with | .error failure => some failure | .ok _ => none) = some failure)
    (hp : P result.2) : ∃ last, result = (.error failure, last) ∧ P last := by
  obtain ⟨_ | _, last⟩ := result
  · cases h
    exact ⟨last, rfl, hp⟩
  · cases h

/-- The thread stays with its reply and its first topic. If time has run out before it, the topic is there, but
not on the thread. -/
theorem left_of_halfTagged :
    let store : Store Kind := run (Store.empty oddUuid) ([] : List (Context × Call Entity))
    (∃ last, create Hooks.none Entity.thread (some halfTagged) ⟨store, .unlimited, ()⟩ =
        (.error (.store (.missingKey "labels")), last) ∧
      (last.store.rows (.record .thread)).map ThreadRecord.id = [3] ∧
      (last.store.rows (.record .reply)).map ReplyRecord.id = [4] ∧
      (last.store.rows (.record .tag)).map TagRecord.id = ["a"] ∧
      (last.store.rows .threadTopic).length = 1 ∧
      Entity.Leaves store .thread halfTagged (.store (.missingKey "labels")) last.store) ∧
    ∃ last, create Hooks.none Entity.thread (some halfTagged) ⟨store, .withTimeout 3, ()⟩ =
        (.error .cancelled, last) ∧
      (last.store.rows (.record .thread)).map ThreadRecord.id = [3] ∧
      (last.store.rows (.record .reply)).map ReplyRecord.id = [4] ∧
      (last.store.rows (.record .tag)).map TagRecord.id = ["a"] ∧
      last.store.rows .threadTopic = [] ∧
      Entity.Leaves store .thread halfTagged .cancelled last.store := by
  intro store
  have left (context : Context) (failure : Failure) (last : World Kind Unit)
      (failed : create Hooks.none Entity.thread (some halfTagged) ⟨store, context, ()⟩ = (.error failure, last)) :
      Entity.Leaves store .thread halfTagged failure last.store :=
    (left_of_failed_creation oddUuid [] (fun _ h => absurd h List.not_mem_nil) context .thread (some halfTagged)
      (fun _ _ => trivial) failure last failed).2 halfTagged rfl
  constructor
  · obtain ⟨last, failed, threads, replies, tags, links⟩ : ∃ last,
        create Hooks.none Entity.thread (some halfTagged) ⟨store, .unlimited, ()⟩ =
          (.error (.store (.missingKey "labels")), last) ∧
        (last.store.rows (.record .thread)).map ThreadRecord.id = [3] ∧
        (last.store.rows (.record .reply)).map ReplyRecord.id = [4] ∧
        (last.store.rows (.record .tag)).map TagRecord.id = ["a"] ∧
        (last.store.rows .threadTopic).length = 1 :=
      exists_of_failed (by decide +kernel) (by decide +kernel)
    exact ⟨last, failed, threads, replies, tags, links, left _ _ last failed⟩
  · obtain ⟨last, failed, threads, replies, tags, links⟩ : ∃ last,
        create Hooks.none Entity.thread (some halfTagged) ⟨store, .withTimeout 3, ()⟩ = (.error .cancelled, last) ∧
        (last.store.rows (.record .thread)).map ThreadRecord.id = [3] ∧
        (last.store.rows (.record .reply)).map ReplyRecord.id = [4] ∧
        (last.store.rows (.record .tag)).map TagRecord.id = ["a"] ∧
        (last.store.rows .threadTopic).length = 0 :=
      exists_of_failed (by decide +kernel) (by decide +kernel)
    exact ⟨last, failed, threads, replies, tags, List.length_eq_zero_iff.mp links, left _ _ last failed⟩

/-- An article whose key another one has leaves its writer. -/
theorem writer_left_of_article :
    let id : Option UuidText := some ⟨"00000000-0000-0000-0000-000000000003"⟩
    let first : Article := { (default : Article) with id, title := "On stores" }
    let second : Article := { (default : Article) with
      id, title := "On time", writer := some ⟨0, "Ada", none⟩ }
    let store : Store Kind :=
      run (Store.empty oddUuid) [(.unlimited, Call.create Entity.article (some first))]
    (store.rows (.record .article)).length = 1 ∧ store.rows (.record .author) = [] ∧
      ∃ last, create Hooks.none Entity.article (some second) ⟨store, .unlimited, ()⟩ =
          (.error (.store (.duplicateKey "articles")), last) ∧
        (last.store.rows (.record .author)).map AuthorRecord.name = ["Ada"] ∧
        ¬∀ kind, (last.store.rows kind).Perm (store.rows kind) := by
  intro id first second store
  have none : store.rows (.record .author) = [] := by decide +kernel
  obtain ⟨last, failed, names⟩ : ∃ last,
      create Hooks.none Entity.article (some second) ⟨store, .unlimited, ()⟩ =
        (.error (.store (.duplicateKey "articles")), last) ∧
      (last.store.rows (.record .author)).map AuthorRecord.name = ["Ada"] :=
    exists_of_failed (by decide +kernel) (by decide +kernel)
  refine ⟨by decide +kernel, none, last, failed, names, fun same => ?_⟩
  have perm := same (.record .author)
  rw [none, List.perm_nil] at perm
  rw [perm] at names
  cases names

end ProtoStore.Blog
