import ProtoStore.Proofs.Blog.Failing
import ProtoStore.Proofs.Blog.Outcome
import ProtoStore.Proofs.Domain.Joined
import ProtoStore.Proofs.Domain.Lasting

/-!
# Tags after an update

Articles, threads and digests are linked to tags by join rows. An update leaves the tags that the strategy
of the link says, each linked once, and does not touch the join rows of others (`TagsLinked`); the tags it
links are stored with the labels that they come with last (`TagsStored`). `tags_updated` states this for
the four links, and that no update fails because a key is there already.
-/

namespace ProtoStore.Blog

open Domain Store Operations

/-! ## What is left -/

/-- What an update with tags leaves of the join rows of an owner, and of those of others. -/
structure TagsLinked {R O : Type} [DecidableEq O] (owner : R → O) (tag : R → String)
    (strategy : Strategy) (k : O) (provided : List Tag) (before after : List R) : Prop where
  tags (id : String) : (∃ x ∈ after, owner x = k ∧ tag x = id) ↔
    match strategy with
    | .append => (∃ x ∈ before, owner x = k ∧ tag x = id) ∨ ∃ t ∈ provided, t.id = id
    | .default | .replace => ∃ t ∈ provided, t.id = id
    | .clear => False
  once : ((after.filter (owner · = k)).map tag).Nodup
  others : after.filter (owner · ≠ k) = before.filter (owner · ≠ k)

/-- Tags are stored with the labels that they come with last; other tags stay as they are. -/
def TagsStored (provided : List Tag) (before after : List TagRecord) : Prop :=
  ∀ row : TagRecord, row ∈ after ↔
    match provided.reverse.find? (·.id == row.id) with
    | some tag => row.label = tag.label
    | none => row ∈ before

/-! ## Records of tags -/

/-- The record of a tag. -/
def tagRecord (t : Tag) : Row (Kind.record .tag) := (⟨t.id, t.label⟩ : TagRecord)

theorem sameKey_tagRecord (t : Tag) (row : Row (Kind.record .tag)) :
    sameKey (tagRecord t) row = (t.id == TagRecord.id row) := by
  rw [Bool.eq_iff_iff, sameKey_iff, beq_iff_eq]
  exact Value.string.injEq _ _ ▸ Iff.rfl

theorem tagsStored_putAll {before : List (Row (Kind.record .tag))} (h : (before.map key).Nodup)
    (provided : List Tag) : TagsStored provided before (putAll before (provided.map tagRecord)) := by
  intro row
  rw [mem_putAll h, ← List.map_reverse, List.find?_map]
  have same : (fun x => sameKey x row) ∘ tagRecord = (·.id == TagRecord.id row) :=
    funext fun t => sameKey_tagRecord t row
  rw [same]
  cases found : provided.reverse.find? (·.id == TagRecord.id row) with
  | none => exact Iff.rfl
  | some t =>
    obtain ⟨id, label⟩ := row
    obtain rfl : t.id = id := beq_iff_eq.mp (List.find?_some (p := fun t : Tag => t.id == id) found)
    exact ⟨fun h => congrArg TagRecord.label h, fun h => congrArg (TagRecord.mk t.id) h⟩

/-! ## Join rows of tags -/

theorem lawful_joined {e : Entity} {link : Joined e} (hl : .joined link ∈ Bindings.links e) :
    link.Lawful where
  join_ne := forall_joined (P := fun e link => link.join ≠ table e) nofun nofun nofun nofun hl
  target_ne := forall_joined (P := fun e link => table link.target ≠ table e) nofun nofun nofun nofun hl
  apart := forall_joined (P := fun _ link => link.join ≠ table link.target) nofun nofun nofun nofun hl
  keyless := keyless_join hl
  keyless_target := forall_joined (P := fun _ link => Keyless (table link.target)) (fun _ _ => rfl)
    (fun _ _ => rfl) (fun _ _ => rfl) (fun _ _ => rfl) hl
  columns := byColumns_join hl
  owner := Loadable.joined hl
  linked row target := (linked_iff_owner hl).mpr (forall_joined
    (P := fun e link => ∀ row target, owner link.join (link.link row target) = some (keyOf e row))
    (fun _ _ => rfl) (fun _ _ => rfl) (fun _ _ => rfl) (fun _ _ => rfl) hl row target)

/-- The join rows of a link, told by the owners and the tags that they name. -/
theorem tagsLinked_of_relinks {e : Entity} {link : Joined e} (hl : .joined link ∈ Bindings.links e)
    {row : Record e} {provided : List Tag} {target : Tag → Record link.target}
    {before after : List (Row link.join)} (h : Relinks link row (provided.map target) before after)
    (distinct : (after.map key).Nodup) {O : Type} [DecidableEq O] {own : Row link.join → O}
    {tag : Row link.join → String} {k : O}
    (owns : ∀ x, owner link.join x = some (keyOf e row) ↔ own x = k)
    (pair : ∀ a b, own a = own b → tag a = tag b → a = b)
    (names : ∀ t, tag (link.link row (target t)) = t.id) :
    TagsLinked own tag link.strategy k provided before after := by
  have owns : ∀ x, Linked link.join link.ownerColumn (keyOf e row) x ↔ own x = k :=
    fun x => (linked_iff_owner hl).trans (owns x)
  have new : ∀ i, (∃ x ∈ (provided.map target).map (link.link row), own x = k ∧ tag x = i) ↔
      ∃ t ∈ provided, t.id = i := by
    intro i
    rw [List.map_map]
    constructor
    · rintro ⟨x, hx, -, named⟩
      obtain ⟨t, ht, rfl⟩ := List.mem_map.mp hx
      exact ⟨t, ht, (names t).symm.trans named⟩
    · rintro ⟨t, ht, rfl⟩
      exact ⟨_, List.mem_map_of_mem ht, (owns _).mp ((lawful_joined hl).linked row (target t)), names t⟩
  refine ⟨fun i => ?_, ?_, ?_⟩
  · have mem : (∃ x ∈ after, own x = k ∧ tag x = i) ↔ ∃ x, (match link.strategy with
        | .append => x ∈ before ∨ x ∈ (provided.map target).map (link.link row)
        | .default | .replace => x ∈ (provided.map target).map (link.link row)
        | .clear => False) ∧ own x = k ∧ tag x = i := by
      refine exists_congr fun x => and_congr_left fun named => ?_
      exact h.mem ((owns x).mpr named.1)
    rw [mem, ← new i]
    cases link.strategy with
    | append => simp only [or_and_right, exists_or]
    | default | replace => exact Iff.rfl
    | clear => simp only [false_and, exists_false]
  · refine List.Nodup.map_on (fun a ha b hb same => ?_) (distinct.of_map.filter _)
    have ha := of_decide_eq_true (List.mem_filter.mp ha).2
    have hb := of_decide_eq_true (List.mem_filter.mp hb).2
    exact pair a b (ha.trans hb.symm) same
  · have others := h.others
    have apart : (fun x => !(record link.join).satisfies [.eq link.ownerColumn (keyOf e row)] x) =
        fun x => decide (own x ≠ k) := by
      funext x
      rw [decide_not, Bool.not_inj_iff, Bool.eq_iff_iff, decide_eq_true_iff]
      exact owns x
    rwa [apart] at others

/-! ## The key of an answer -/

section

variable {t : Store Kind} {context : Context}

theorem id_of_fillArticle {r : ArticleRecord} {m written : Article} (h : fillArticle r m = .ok written) :
    written.id = r.id.map fun u => ⟨u.text⟩ := by
  obtain ⟨keywords, -, h⟩ := Except.bind_eq_ok.mp h
  obtain ⟨metadata, -, h⟩ := Except.bind_eq_ok.mp h
  rw [← Except.ok.inj h]

theorem id_of_responds_article {row : Record Entity.article} {value : Article}
    (h : Responds context t row value) : value.id = (ArticleRecord.id row).map fun u => ⟨u.text⟩ := by
  obtain ⟨m, reverts, m₁, ⟨_, writer, -, -, rfl⟩, m₂, ⟨_, comments, -, -, rfl⟩, m₃,
    ⟨_, tags, -, -, rfl⟩, rfl⟩ := h
  have filled : fillArticle row default = .ok m := reverts
  have id := id_of_fillArticle filled
  exact id

theorem id_of_responds_thread {row : Record Entity.thread} {value : Thread}
    (h : Responds context t row value) : value.id = ThreadRecord.id row := by
  obtain ⟨m, reverts, m₁, ⟨_, replies, -, -, rfl⟩, m₂, ⟨_, topics, -, -, rfl⟩, rfl⟩ := h
  cases reverts
  rfl

theorem id_of_responds_digest {row : Record Entity.digest} {value : Digest}
    (h : Responds context t row value) : value.id = DigestRecord.id row := by
  obtain ⟨m, reverts, m₁, ⟨_, entries, -, -, rfl⟩, m₂, ⟨_, featured, -, -, rfl⟩, m₃,
    ⟨_, hidden, -, -, rfl⟩, rfl⟩ := h
  cases reverts
  rfl

end

/-! ## Updates -/

section

variable {s t : Store Kind} {context : Context}

/-- An update of a message leaves the rows of a kind. -/
def Entity.Spares (e : Entity) (kind : Kind) : Prop :=
  kind ≠ .record e ∧ kind ∉ e.linkedKinds ∧ kind ∉ e.prunedKinds

instance (e : Entity) (kind : Kind) : Decidable (e.Spares kind) :=
  inferInstanceAs (Decidable (_ ∧ _ ∧ _))

theorem rows_of_spares {e : Entity} {message : e.Message} {upserted : Upserted e.Message}
    (c : Update context e message s t upserted) {kind : Kind} (h : e.Spares kind) :
    t.rows kind = s.rows kind := by
  refine c.rows_eq h.1 (fun p hp writes => h.2.1 ?_) fun p hp prunes => h.2.2 ?_
  · exact mem_linkedKinds_of_writes c.collected p hp kind writes
  · exact mem_prunedKinds_of_prunes c.collected p hp kind prunes

theorem exists_id_of_assignKey {s after : Store Kind} {row written : Record Entity.article}
    (h : s.assignKey (Kind.record .article) row = (after, .ok written)) :
    ∃ u, ArticleRecord.id written = some u := by
  rcases assignKey_ok h with ⟨keyed, -, rfl⟩ | ⟨-, -, k, new, rfl⟩
  · cases id : ArticleRecord.id written with
    | none =>
      have empty : (record (Kind.record .article)).keyIsEmpty written = true := by
        change RowKey.isEmpty (ArticleRecord.id written) = true
        rw [id]
        rfl
      rw [empty] at keyed
      cases keyed
    | some u => exact ⟨u, rfl⟩
  · cases new
    exact ⟨_, rfl⟩

/-- An article keeps its tags, and gets the provided ones. -/
theorem tags_of_article [context.Timeless] {m : Article} {upserted : Upserted Article}
    (c : Update context Entity.article m s t upserted) (before : s.Distinct) (after : t.Distinct) :
    ∃ u : Uuid, upserted.value.id = some ⟨u.text⟩ ∧
      TagsLinked ArticleTag.articleId ArticleTag.tagId .append (some u) m.tags
        (s.rows .articleTag) (t.rows .articleTag) ∧
      TagsStored m.tags (s.rows (.record .tag)) (t.rows (.record .tag)) ∧
      ∀ kind ∈ [Kind.threadTopic, .digestFeatured, .digestHidden], t.rows kind = s.rows kind := by
  have hl : MessageLink.joined articleTags ∈ Bindings.links Entity.article :=
    List.mem_cons_of_mem _ (List.mem_cons_of_mem _ List.mem_cons_self)
  obtain ⟨writer, comments, tags, split, -, -, converts⟩ := collected_article c.collected
  obtain rfl : tags = m.tags.map tagRecord := rows_of_converts (fun _ => rfl) converts
  have only : ∀ kind ∈ [Kind.articleTag, .record .tag],
      Only kind (.joined articleTags (m.tags.map tagRecord)) c.pending := by
    refine fun kind hk => ⟨[.reference articleWriter writer, .children articleComments comments], [],
      split, ?_⟩
    rcases List.mem_pair.mp hk with rfl | rfl <;>
      simp [Pending.writes, Pending.prunes, Domain.table, articleWriter, articleComments]
  obtain ⟨-, _, assigned, -⟩ := Store.save_ok.mp c.saves
  obtain ⟨u, hu⟩ := exists_id_of_assignKey assigned
  refine ⟨u, ?_, ?_, ?_, ?_⟩
  · rw [id_of_responds_article c.responds, hu]
    rfl
  · have relinks := c.relinks (lawful_joined hl) (only _ List.mem_cons_self) fun hs => absurd rfl hs
    refine tagsLinked_of_relinks hl relinks (after _) (fun x => ?_) ?_ fun _ => rfl
    · rw [← hu]
      exact ⟨fun h => toValue_uuid_injective (Option.some.inj h), congrArg fun id => some (toValue id)⟩
    · rintro ⟨a, x⟩ ⟨b, y⟩ rfl rfl
      rfl
  · have put : t.rows (.record .tag) = putAll (s.rows (.record .tag)) (m.tags.map tagRecord) :=
      c.rows_target (lawful_joined hl) (by decide) (only _ (List.mem_cons_of_mem _ List.mem_cons_self))
    rw [put]
    exact tagsStored_putAll (before _) m.tags
  · have spares : ∀ kind ∈ [Kind.threadTopic, .digestFeatured, .digestHidden],
        Entity.article.Spares kind := by decide
    exact fun kind hk => rows_of_spares c (spares kind hk)

/-- A thread exchanges its topics for the provided ones. -/
theorem tags_of_thread [context.Timeless] {m : Thread} {upserted : Upserted Thread}
    (c : Update context Entity.thread m s t upserted) (numbers : numbered.Inv s) (hu : Unexhausted t)
    (after : t.Distinct) :
    TagsLinked ThreadTopic.threadId ThreadTopic.tagId .default upserted.value.id m.topics
        (s.rows .threadTopic) (t.rows .threadTopic) ∧
      TagsStored m.topics (s.rows (.record .tag)) (t.rows (.record .tag)) ∧
      ∀ kind ∈ [Kind.articleTag, .digestFeatured, .digestHidden], t.rows kind = s.rows kind := by
  have hl : MessageLink.joined threadTopics ∈ Bindings.links Entity.thread :=
    List.mem_cons_of_mem _ List.mem_cons_self
  obtain ⟨replies, topics, split, -, converts⟩ := collected_thread c.collected
  obtain rfl : topics = m.topics.map tagRecord := rows_of_converts (fun _ => rfl) converts
  have only : ∀ kind ∈ [Kind.threadTopic, .record .tag],
      Only kind (.joined threadTopics (m.topics.map tagRecord)) c.pending := by
    refine fun kind hk => ⟨[.children threadReplies replies], [], split, ?_⟩
    rcases List.mem_pair.mp hk with rfl | rfl <;>
      simp [Pending.writes, Pending.prunes, Domain.table, threadReplies]
  refine ⟨?_, ?_, ?_⟩
  · have relinks := c.relinks (lawful_joined hl) (only _ List.mem_cons_self) fun hs x hx =>
      not_linked_of_pruned c numbers hu hl hs hx
    rw [id_of_responds_thread c.responds]
    refine tagsLinked_of_relinks hl relinks (after _) (fun x => ?_) ?_ fun _ => rfl
    · exact ⟨fun h => Value.uint.inj (Option.some.inj h), congrArg fun id => some (Value.uint id)⟩
    · rintro ⟨a, x⟩ ⟨b, y⟩ rfl rfl
      rfl
  · have put : t.rows (.record .tag) = putAll (s.rows (.record .tag)) (m.topics.map tagRecord) :=
      c.rows_target (lawful_joined hl) (by decide) (only _ (List.mem_cons_of_mem _ List.mem_cons_self))
    rw [put]
    exact tagsStored_putAll (numbers.distinct _) m.topics
  · have spares : ∀ kind ∈ [Kind.articleTag, .digestFeatured, .digestHidden],
        Entity.thread.Spares kind := by decide
    exact fun kind hk => rows_of_spares c (spares kind hk)

/-- A digest exchanges its featured tags for the provided ones, and its hidden ones for none. -/
theorem tags_of_digest [context.Timeless] {m : Digest} {upserted : Upserted Digest}
    (c : Update context Entity.digest m s t upserted) (numbers : numbered.Inv s) (hu : Unexhausted t)
    (after : t.Distinct) :
    TagsLinked DigestTag.digestId DigestTag.tagId .replace upserted.value.id m.featured
        (s.rows .digestFeatured) (t.rows .digestFeatured) ∧
      TagsLinked DigestTag.digestId DigestTag.tagId .clear upserted.value.id m.hidden
        (s.rows .digestHidden) (t.rows .digestHidden) ∧
      TagsStored m.featured (s.rows (.record .tag)) (t.rows (.record .tag)) ∧
      ∀ kind ∈ [Kind.articleTag, .threadTopic], t.rows kind = s.rows kind := by
  have hf : MessageLink.joined digestFeatured ∈ Bindings.links Entity.digest :=
    List.mem_cons_of_mem _ List.mem_cons_self
  have hh : MessageLink.joined digestHidden ∈ Bindings.links Entity.digest :=
    List.mem_cons_of_mem _ (List.mem_cons_of_mem _ List.mem_cons_self)
  obtain ⟨entries, featured, hidden, split, -, converts, converts'⟩ := collected_digest c.collected
  obtain rfl : featured = m.featured.map tagRecord := rows_of_converts (fun _ => rfl) converts
  obtain rfl : hidden = m.hidden.map tagRecord := rows_of_converts (fun _ => rfl) converts'
  have only : ∀ kind ∈ [Kind.digestFeatured, .record .tag],
      Only kind (.joined digestFeatured (m.featured.map tagRecord)) c.pending := by
    refine fun kind hk => ⟨[.children digestEntries entries], [.joined digestHidden _], split, ?_⟩
    rcases List.mem_pair.mp hk with rfl | rfl <;>
      simp [Pending.writes, Pending.prunes, Domain.table, digestEntries, digestHidden]
  have only' : Only Kind.digestHidden (.joined digestHidden (m.hidden.map tagRecord)) c.pending := by
    refine ⟨[.children digestEntries entries, .joined digestFeatured _], [], split, ?_⟩
    simp [Pending.writes, Pending.prunes, Domain.table, digestEntries, digestFeatured]
  have owns : ∀ x : DigestTag, some (Value.uint x.digestId) = some (keyOf Entity.digest c.written) ↔
      x.digestId = DigestRecord.id c.written :=
    fun x => ⟨fun h => Value.uint.inj (Option.some.inj h), congrArg fun id => some (Value.uint id)⟩
  have pair : ∀ a b : DigestTag, a.digestId = b.digestId → a.tagId = b.tagId → a = b := by
    rintro ⟨a, x⟩ ⟨b, y⟩ rfl rfl
    rfl
  rw [id_of_responds_digest c.responds]
  refine ⟨?_, ?_, ?_, ?_⟩
  · have relinks := c.relinks (lawful_joined hf) (only _ List.mem_cons_self) fun hs x hx =>
      not_linked_of_pruned c numbers hu hf hs hx
    exact tagsLinked_of_relinks hf relinks (after _) owns pair fun _ => rfl
  · have relinks := c.relinks (lawful_joined hh) only' fun hs x hx =>
      not_linked_of_pruned c numbers hu hh hs hx
    exact tagsLinked_of_relinks hh relinks (after _) owns pair fun _ => rfl
  · have put : t.rows (.record .tag) = putAll (s.rows (.record .tag)) (m.featured.map tagRecord) :=
      c.rows_target (lawful_joined hf) (by decide) (only _ (List.mem_cons_of_mem _ List.mem_cons_self))
    rw [put]
    exact tagsStored_putAll (numbers.distinct _) m.featured
  · have spares : ∀ kind ∈ [Kind.articleTag, .threadTopic], Entity.digest.Spares kind := by decide
    exact fun kind hk => rows_of_spares c (spares kind hk)

end

/-- The tags of an article, a thread and a digest after a strict update of it, in every store that calls
leave; and no strict update fails because a key is there already. -/
theorem tags_updated (fresh : Nat → Uuid) (hf : ∀ n, (fresh n).isNil = false)
    (calls : List (Context × Call Entity)) (context : Context) :
    let store : Store Kind := run (Store.empty fresh) calls
    (∀ (m : Article) value created last, strictUpdate Hooks.none Entity.article (some m)
        ⟨store, context, ()⟩ = (.ok ⟨value, created⟩, last) →
      ∃ u : Uuid, value.id = some ⟨u.text⟩ ∧
        TagsLinked ArticleTag.articleId ArticleTag.tagId .append (some u) m.tags
          (store.rows .articleTag) (last.store.rows .articleTag) ∧
        TagsStored m.tags (store.rows (.record .tag)) (last.store.rows (.record .tag)) ∧
        ∀ kind ∈ [Kind.threadTopic, .digestFeatured, .digestHidden],
          last.store.rows kind = store.rows kind) ∧
    (∀ (m : Thread) value created last, strictUpdate Hooks.none Entity.thread (some m)
        ⟨store, context, ()⟩ = (.ok ⟨value, created⟩, last) → last.store.sequence < UInt64.size →
      TagsLinked ThreadTopic.threadId ThreadTopic.tagId .default value.id m.topics
          (store.rows .threadTopic) (last.store.rows .threadTopic) ∧
        TagsStored m.topics (store.rows (.record .tag)) (last.store.rows (.record .tag)) ∧
        ∀ kind ∈ [Kind.articleTag, .digestFeatured, .digestHidden],
          last.store.rows kind = store.rows kind) ∧
    (∀ (m : Digest) value created last, strictUpdate Hooks.none Entity.digest (some m)
        ⟨store, context, ()⟩ = (.ok ⟨value, created⟩, last) → last.store.sequence < UInt64.size →
      TagsLinked DigestTag.digestId DigestTag.tagId .replace value.id m.featured
          (store.rows .digestFeatured) (last.store.rows .digestFeatured) ∧
        TagsLinked DigestTag.digestId DigestTag.tagId .clear value.id m.hidden
          (store.rows .digestHidden) (last.store.rows .digestHidden) ∧
        TagsStored m.featured (store.rows (.record .tag)) (last.store.rows (.record .tag)) ∧
        ∀ kind ∈ [Kind.articleTag, .threadTopic], last.store.rows kind = store.rows kind) ∧
    ∀ (e : Entity) (input : Option e.Message) (table : String),
      (strictUpdate Hooks.none e input ⟨store, context, ()⟩).1 ≠ .error (.store (.duplicateKey table)) := by
  intro store
  obtain ⟨numbers, -⟩ := numbered_run fresh calls
  refine ⟨fun m value created last updates => ?_, fun m value created last updates bound => ?_,
    fun m value created last updates bound => ?_, fun e input table failed => ?_⟩
  · obtain ⟨c⟩ := exists_update updates
    obtain ⟨after, -⟩ := c.goes (D := numbered) trivial numbers
    exact tags_of_article c numbers.distinct after.distinct
  · obtain ⟨c⟩ := exists_update updates
    obtain ⟨after, counts⟩ := c.goes (D := numbered) trivial numbers
    exact tags_of_thread c numbers (unexhausted_of_run hf counts bound) after.distinct
  · obtain ⟨c⟩ := exists_update updates
    obtain ⟨after, counts⟩ := c.goes (D := numbered) trivial numbers
    exact tags_of_digest c numbers (unexhausted_of_run hf counts bound) after.distinct
  · have fails : (strictUpdate Hooks.none e input).Fails ⟨store, context, ()⟩
        fun failure _ => failure.NotDuplicate := fails_strictUpdate (e := e) input
    exact fails _ _ (Prod.ext failed rfl) table rfl

/-- A run that stores an article, a thread and a digest with tags. -/
def taggedCalls : List (Context × Call Entity) := [
  (.unlimited, .create .article (some { (default : Article) with
    id := some ⟨"00000000-0000-0000-0000-000000000003"⟩, tags := [⟨"a", "A"⟩, ⟨"b", "B"⟩] })),
  (.unlimited, .create .thread (some { (default : Thread) with id := 1, topics := [⟨"a", "A"⟩] })),
  (.unlimited, .create .digest (some { (default : Digest) with
    id := 2, featured := [⟨"a", "A"⟩], hidden := [⟨"b", "B"⟩] }))]

/-- The same with other tags, some of which are named twice. -/
def retaggedArticle : Article := { (default : Article) with
  id := some ⟨"00000000-0000-0000-0000-000000000003"⟩
  tags := [⟨"b", "B2"⟩, ⟨"c", "C"⟩, ⟨"c", "C2"⟩] }

/-- A thread without a key. -/
def retaggedThread : Thread := { (default : Thread) with topics := [⟨"c", "C"⟩, ⟨"c", "C2"⟩] }

/-- A digest that hides a tag. -/
def retaggedDigest : Digest := { (default : Digest) with
  id := 2, featured := [⟨"b", "B2"⟩, ⟨"b", "B3"⟩], hidden := [⟨"h", "H"⟩] }

theorem exists_of_created {M : Type} {created : Bool} {P : World Kind Unit → Prop}
    {result : Except Failure (Upserted M) × World Kind Unit}
    (h : result.1.toOption.map Upserted.created = some created) (hp : P result.2) :
    ∃ value last, result = (.ok ⟨value, created⟩, last) ∧ P last := by
  obtain ⟨_ | ⟨value, c⟩, last⟩ := result
  · cases h
  · cases h
    exact ⟨value, last, rfl, hp⟩

theorem tags_updated_retagged :
    let store : Store Kind := run (Store.empty oddUuid) taggedCalls
    (∃ value last, strictUpdate Hooks.none Entity.article (some retaggedArticle) ⟨store, .unlimited, ()⟩ =
        (.ok ⟨value, false⟩, last) ∧
      (last.store.rows .articleTag).map ArticleTag.tagId = ["a", "b", "c"] ∧
      ∃ u : Uuid, value.id = some ⟨u.text⟩ ∧
        TagsLinked ArticleTag.articleId ArticleTag.tagId .append (some u) retaggedArticle.tags
          (store.rows .articleTag) (last.store.rows .articleTag) ∧
        TagsStored retaggedArticle.tags (store.rows (.record .tag)) (last.store.rows (.record .tag))) ∧
    (∃ value last, strictUpdate Hooks.none Entity.thread (some retaggedThread) ⟨store, .unlimited, ()⟩ =
        (.ok ⟨value, true⟩, last) ∧
      (last.store.rows .threadTopic).map ThreadTopic.tagId = ["a", "c"] ∧
      TagsLinked ThreadTopic.threadId ThreadTopic.tagId .default value.id retaggedThread.topics
        (store.rows .threadTopic) (last.store.rows .threadTopic)) ∧
    (∃ value last, strictUpdate Hooks.none Entity.digest (some retaggedDigest) ⟨store, .unlimited, ()⟩ =
        (.ok ⟨value, false⟩, last) ∧
      (last.store.rows (.record .tag)).map TagRecord.label = ["A", "B3"] ∧
      TagsLinked DigestTag.digestId DigestTag.tagId .replace value.id retaggedDigest.featured
        (store.rows .digestFeatured) (last.store.rows .digestFeatured) ∧
      TagsLinked DigestTag.digestId DigestTag.tagId .clear value.id retaggedDigest.hidden
        (store.rows .digestHidden) (last.store.rows .digestHidden)) ∧
    ∀ table, (strictUpdate Hooks.none Entity.tag (some (⟨"", "no key"⟩ : Tag))
      ⟨store, .unlimited, ()⟩).1 ≠ .error (.store (.duplicateKey table)) := by
  intro store
  subst store
  obtain ⟨articles, threads, digests, keys⟩ := tags_updated oddUuid isNil_oddUuid taggedCalls .unlimited
  refine ⟨?_, ?_, ?_, fun table => keys .tag (some (⟨"", "no key"⟩ : Tag)) table⟩
  · obtain ⟨value, last, updates, tags⟩ : ∃ value last, strictUpdate Hooks.none Entity.article
        (some retaggedArticle) ⟨run (Store.empty oddUuid) taggedCalls, .unlimited, ()⟩ =
          (.ok ⟨value, false⟩, last) ∧ (last.store.rows .articleTag).map ArticleTag.tagId = ["a", "b", "c"] :=
      exists_of_created (by decide +kernel) (by decide +kernel)
    obtain ⟨u, id, linked, stored, -⟩ := articles retaggedArticle value false last updates
    exact ⟨value, last, updates, tags, u, id, linked, stored⟩
  · obtain ⟨value, last, updates, tags, bound⟩ : ∃ value last, strictUpdate Hooks.none Entity.thread
        (some retaggedThread) ⟨run (Store.empty oddUuid) taggedCalls, .unlimited, ()⟩ =
          (.ok ⟨value, true⟩, last) ∧ (last.store.rows .threadTopic).map ThreadTopic.tagId = ["a", "c"] ∧
            last.store.sequence < UInt64.size :=
      exists_of_created (by decide +kernel) (by decide +kernel)
    obtain ⟨linked, -⟩ := threads retaggedThread value true last updates bound
    exact ⟨value, last, updates, tags, linked⟩
  · obtain ⟨value, last, updates, labels, bound⟩ : ∃ value last, strictUpdate Hooks.none Entity.digest
        (some retaggedDigest) ⟨run (Store.empty oddUuid) taggedCalls, .unlimited, ()⟩ =
          (.ok ⟨value, false⟩, last) ∧ (last.store.rows (.record .tag)).map TagRecord.label = ["A", "B3"] ∧
            last.store.sequence < UInt64.size :=
      exists_of_created (by decide +kernel) (by decide +kernel)
    obtain ⟨featured, hidden, -⟩ := digests retaggedDigest value false last updates bound
    exact ⟨value, last, updates, labels, featured, hidden⟩

end ProtoStore.Blog
