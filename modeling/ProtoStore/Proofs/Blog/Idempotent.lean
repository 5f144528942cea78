import ProtoStore.Proofs.Blog.Failing
import ProtoStore.Proofs.Blog.Outcome
import ProtoStore.Proofs.Domain.Lasting
import ProtoStore.Proofs.Domain.Resaving

/-!
# Updates are idempotent

What a strict update or a creation answers is read again by its key, and a strict update with the answer
of one answers the same and leaves the same rows (`strictUpdate_idempotent`). The second update finds
everything as it would write it:

* `attach_bare`, `link_eq` : children and join rows are rebuilt from what was loaded of them;
* `Tidy` : so they are stored as they are saved, which holds link by link (`settled_children`,
  `settled_joined`) and of all links of a message (`Tidy.resettles`).
-/

namespace ProtoStore.Blog

open Domain Store Operations

variable {s t : Store Kind} {context : Context} {e : Entity} {row : Record e}

/-! ## Links -/

/-- A stored child is what pointing it at its parent gives, and no stored row is the child of a parent
that drops its children. -/
theorem attach_bare {link : Children e} (hl : .children link ∈ Bindings.links e) {sequence : Nat}
    {x : Record link.target} (hx : Admissible sequence (table link.target) x)
    (linked : Linked (table link.target) link.column (keyOf e row) x) :
    link.strategy ≠ .clear ∧ link.attach row (link.target.bare x) = x := by
  refine forall_children (P := fun e link => ∀ (row : Record e) (x : Record link.target),
    Admissible sequence (table link.target) x →
      Linked (table link.target) link.column (keyOf e row) x →
        link.strategy ≠ .clear ∧ link.attach row (link.target.bare x) = x) ?_ ?_ ?_ hl row x hx linked
  · intro row x _ linked
    obtain ⟨id, body, flags, articleId⟩ := x
    obtain rfl : articleId = ArticleRecord.id row := linked_comment_iff.mp linked
    exact ⟨nofun, rfl⟩
  · intro row x outside linked
    obtain ⟨id, text, threadId, digestId⟩ := x
    obtain ⟨rfl : digestId = none, -⟩ := outside
    obtain rfl : threadId = some (ThreadRecord.id row) := linked_reply_iff.mp linked
    exact ⟨nofun, rfl⟩
  · intro row x outside linked
    obtain ⟨id, text, threadId, digestId⟩ := x
    obtain ⟨rfl : digestId = none, -⟩ := outside
    have hv := (linked_iff (v := toValue (none : Option UInt64)) rfl rfl).mp linked
    cases hv

/-- A join row is the link of its owner and its tag. -/
theorem link_eq {link : Joined e} (hl : .joined link ∈ Bindings.links e) {x : Row link.join}
    {target : Record link.target} (linked : Linked link.join link.ownerColumn (keyOf e row) x)
    (ht : (record link.join).value? x link.targetColumn = some (key target)) :
    link.link row target = x := by
  refine forall_joined (P := fun e link => ∀ (row : Record e) (x : Row link.join)
    (target : Record link.target), owner link.join x = some (keyOf e row) →
      (record link.join).value? x link.targetColumn = some (key target) →
        link.link row target = x) ?_ ?_ ?_ ?_ hl row x target ((linked_iff_owner hl).mp linked) ht
  · intro row x target ho ht
    obtain ⟨articleId, tagId⟩ := x
    obtain rfl : articleId = ArticleRecord.id row := toValue_uuid_injective (Option.some.inj ho)
    obtain rfl : tagId = TagRecord.id target := Value.string.inj (Option.some.inj ht)
    rfl
  · intro row x target ho ht
    obtain ⟨threadId, tagId⟩ := x
    obtain rfl : threadId = ThreadRecord.id row := Value.uint.inj (Option.some.inj ho)
    obtain rfl : tagId = TagRecord.id target := Value.string.inj (Option.some.inj ht)
    rfl
  all_goals
    intro row x target ho ht
    obtain ⟨digestId, tagId⟩ := x
    obtain rfl : digestId = DigestRecord.id row := Value.uint.inj (Option.some.inj ho)
    obtain rfl : tagId = TagRecord.id target := Value.string.inj (Option.some.inj ht)
    rfl

/-- The target of a join row that leads to stored rows. -/
theorem exists_target {link : Joined e} (hl : .joined link ∈ Bindings.links e) {x : Row link.join}
    (held : Held t link.join x) : ∃ target ∈ t.rows (table link.target),
      (record link.join).value? x link.targetColumn = some (key target) := by
  have tag : ∀ {join : Kind} {x : Row join} {column : String} {tagId : String},
      (record join).value? x column = some (.string tagId) →
        (.record .tag, .string tagId) ∈ references join x → Held t join x →
          ∃ target ∈ t.rows (table Entity.tag), (record join).value? x column = some (key target) := by
    intro join x column tagId hv hr held
    obtain ⟨target, hm, hk⟩ := List.mem_map.mp (held _ hr)
    exact ⟨target, hm, hv.trans (congrArg some hk.symm)⟩
  exact forall_joined (P := fun _ link => ∀ x : Row link.join, Held t link.join x →
      ∃ target ∈ t.rows (table link.target),
        (record link.join).value? x link.targetColumn = some (key target))
    (fun _ => tag rfl (List.mem_cons_of_mem _ List.mem_cons_self))
    (fun _ => tag rfl (List.mem_cons_of_mem _ List.mem_cons_self))
    (fun _ => tag rfl (List.mem_cons_of_mem _ List.mem_cons_self))
    (fun _ => tag rfl (List.mem_cons_of_mem _ List.mem_cons_self)) hl x held

/-- Only the hidden tags of a digest are dropped, of which none are stored. -/
theorem not_clear_of_admissible {link : Joined e} (hl : .joined link ∈ Bindings.links e) {sequence : Nat}
    {x : Row link.join} (hx : Admissible sequence link.join x) : link.strategy ≠ .clear :=
  forall_joined (P := fun _ link => ∀ x : Row link.join, Admissible sequence link.join x →
    link.strategy ≠ .clear) (fun _ _ => nofun) (fun _ _ => nofun) (fun _ _ => nofun)
    (fun _ hx => hx.elim) hl x hx

/-- A record and the rows that it is linked to are stored as an update writes them. -/
structure Tidy (t : Store Kind) (e : Entity) (row : Record e) : Prop where
  mem : row ∈ t.rows (table e)
  keyed {kind : Kind} {x : Row kind} : x ∈ t.rows kind → (record kind).keyIsEmpty x = false
  writer : e = .article → Held t (table e) row
  children {link : Children e} : .children link ∈ Bindings.links e →
    ∀ x ∈ t.rows (table link.target), Linked (table link.target) link.column (keyOf e row) x →
      Faithful (table link.target) x ∧ link.strategy ≠ .clear ∧ link.attach row (link.target.bare x) = x
  joined {link : Joined e} : .joined link ∈ Bindings.links e →
    ∀ x ∈ t.rows link.join, Linked link.join link.ownerColumn (keyOf e row) x →
      link.strategy ≠ .clear ∧ (link.strategy ≠ .append → ∃ target ∈ t.rows (table link.target),
        (record link.join).value? x link.targetColumn = some (key target))

theorem Tidy.keyed_of_mem (h : Tidy t e row) {kind : Kind} {x : Row kind} (hx : x ∈ t.rows kind) :
    Keyed t kind x :=
  ⟨hx, h.keyed hx⟩

theorem Rests.tidy (h : Rests t e row) (c : Complete t e row) : Tidy t e row where
  mem := h.mem
  keyed hx := (h.keyed_of_mem hx).2
  writer := c.writer
  children hl _ hx linked := ⟨h.faithful_of_mem hx, attach_bare hl (h.admissible hx) linked⟩
  joined hl x hx linked := ⟨not_clear_of_admissible hl (h.admissible hx), fun hs =>
    exists_target hl (c.joined hl hs x hx linked)⟩

section

variable (alive : context.check = .ok ())
include alive

theorem mem_children {link : Children e} (hl : .children link ∈ Bindings.links e)
    {rows : List (Record link.target)}
    (loads : t.loadChildren context (table link.target) link.column (keyOf e row) = .ok rows)
    (x : Record link.target) :
    x ∈ rows ↔ x ∈ t.rows (table link.target) ∧
      Linked (table link.target) link.column (keyOf e row) x :=
  mem_loadChildren alive (Loadable.children hl) (hasColumn_key link.target) (Loadable.sorted link.target) loads

theorem mem_joined [context.Timeless] {link : Joined e} (hl : .joined link ∈ Bindings.links e)
    {rows : List (Record link.target)}
    (loads : t.loadLinked context (table link.target) link.join link.ownerColumn (keyOf e row)
      link.targetColumn = .ok rows) (target : Record link.target) :
    target ∈ rows ↔ target ∈ t.rows (table link.target) ∧
      ∃ x ∈ t.rows link.join, Linked link.join link.ownerColumn (keyOf e row) x ∧
        (record link.join).value? x link.targetColumn = some (key target) := by
  rw [mem_loadLinked alive (Loadable.joined hl) (KeyColumns.value? link.target)
    (hasColumn_key link.target) (Loadable.sorted link.target) loads, mem_targetKeys]
  rfl

variable (h : Tidy t e row)
include h

/-- Children that were loaded are stored as they are saved. -/
theorem settled_children {link : Children e} (hl : .children link ∈ Bindings.links e)
    {rows : List (Record link.target)}
    (loads : t.loadChildren context (table link.target) link.column (keyOf e row) = .ok rows) :
    Settled t row (.children link (rows.map link.target.bare)) := by
  have mem := mem_children alive hl loads
  refine ⟨fun hs => ?_, fun r hr => ?_, fun x hx linked => ?_⟩
  · rw [List.map_eq_nil_iff]
    refine List.eq_nil_iff_forall_not_mem.mpr fun x hx => ?_
    obtain ⟨hm, linked⟩ := (mem x).mp hx
    exact (h.children hl x hm linked).2.1 hs
  · obtain ⟨x, hx, rfl⟩ := List.mem_map.mp hr
    obtain ⟨hm, linked⟩ := (mem x).mp hx
    rw [(h.children hl x hm linked).2.2]
    exact h.keyed_of_mem hm
  · exact ⟨_, List.mem_map_of_mem ((mem x).mpr ⟨hx, linked⟩), (h.children hl x hx linked).2.2⟩

/-- Targets that were loaded are stored as they are linked. -/
theorem settled_joined [context.Timeless] {link : Joined e} (hl : .joined link ∈ Bindings.links e)
    {rows : List (Record link.target)}
    (loads : t.loadLinked context (table link.target) link.join link.ownerColumn (keyOf e row)
      link.targetColumn = .ok rows) :
    Settled t row (.joined link (rows.map link.target.bare)) := by
  have mem := mem_joined alive hl loads
  have bare : ∀ x, link.target.bare x = x := forall_joined
    (P := fun _ link => ∀ x, link.target.bare x = x) (fun _ => rfl) (fun _ => rfl) (fun _ => rfl)
    (fun _ => rfl) hl
  have same : rows.map link.target.bare = rows := by
    rw [funext bare]
    exact List.map_id' rows
  rw [same]
  refine ⟨fun hs => ?_, byColumns_join hl, fun target ht => ?_, fun hs x hx linked => ?_⟩
  · refine List.eq_nil_iff_forall_not_mem.mpr fun target ht => ?_
    obtain ⟨-, x, hx, linked, -⟩ := (mem target).mp ht
    exact (h.joined hl x hx linked).1 hs
  · obtain ⟨hm, x, hx, linked, hv⟩ := (mem target).mp ht
    rw [link_eq hl linked hv]
    exact ⟨h.keyed_of_mem hm, h.keyed_of_mem hx⟩
  · obtain ⟨target, hm, hv⟩ := (h.joined hl x hx linked).2 hs
    exact ⟨target, (mem target).mpr ⟨hm, x, hx, linked, hv⟩, link_eq hl linked hv⟩

end

/-- An update with an answer would write what is stored. -/
def Resettles (t : Store Kind) (row : Record e) (value : e.Message) : Prop :=
  ∃ pending, List.Forall₂ (Collected value) (Bindings.links e) pending ∧
    (∀ p ∈ pending, Settled t row p) ∧
      pending.foldl Pending.point
        ((Bindings.keepParents? e).elim (e.bare row) fun keep => keep row (e.bare row)) = row

/-! ## Messages without links -/

theorem resettles_leaf {value : e.Message} (hl : Bindings.links e = []) (row : Record e) :
    Resettles t row value := by
  refine ⟨[], ?_, ?_, ?_⟩
  · rw [hl]
    exact .nil
  · exact fun _ hp => nomatch hp
  · cases e <;> first | rfl | cases hl

/-! ## Articles -/

section Article

variable {row : Record Entity.article}

/-- The writer that was loaded is the one that the row points to. -/
theorem writer_of_loadOne (h : Tidy t Entity.article row) (alive : context.check = .ok ())
    {found : Option (Record Entity.author)}
    (loads : if articleWriter.keyIsEmpty row then found = none
      else t.loadOne context (table Entity.author) (articleWriter.key row) = .ok found) :
    (∀ x ∈ found, x ∈ t.rows (.record .author)) ∧
      articleWriter.assign found (Entity.article.bare row) = row := by
  have held := h.writer rfl
  obtain ⟨id, title, publishedAt, status, keywords, meta_, rating, writerId⟩ := row
  cases writerId with
  | none =>
    split at loads
    · subst loads
      exact ⟨nofun, rfl⟩
    · next keyed => exact absurd rfl keyed
  | some n =>
    obtain ⟨author, hm, hk⟩ := List.mem_map.mp (held (.record .author, .uint n) List.mem_cons_self)
    have ne : n ≠ 0 := by
      rintro rfl
      obtain id : AuthorRecord.id author = 0 := Value.uint.inj hk
      have keyed : (AuthorRecord.id author == 0) = false := h.keyed hm
      rw [id] at keyed
      cases keyed
    split at loads
    · next empty => exact absurd (beq_iff_eq.mp empty) ne
    · rw [loadOne_eq alive (KeyColumns.value? Entity.author) (hasColumn_key Entity.author),
        Except.ok.injEq] at loads
      have same : ∀ x : Record Entity.author, (key x).same (.uint n) = true ↔ key x = .uint n :=
        fun x => Value.same_iff (Or.inl (ExactKeys.isExact _ x))
      cases found with
      | none => exact absurd ((same author).mpr hk) (List.find?_eq_none.mp loads author hm)
      | some x =>
        have hx : key x = .uint n :=
          (same x).mp (List.find?_some (p := fun x : Record Entity.author => (key x).same (.uint n)) loads)
        obtain rfl : AuthorRecord.id x = n := Value.uint.inj hx
        refine ⟨fun y hy => ?_, rfl⟩
        cases hy
        exact List.mem_of_find?_eq_some loads

theorem resettles_article [context.Timeless] (h : Tidy t Entity.article row) (alive : context.check = .ok ()) {value : Article}
    (responds : Responds context t row value) : Resettles t row value := by
  obtain ⟨m, reverts, m₁, ⟨found, writer, loads, hw, rfl⟩, m₂, ⟨comments, ms, loads', hc, rfl⟩, m₃,
    ⟨tags, ts, loads'', ht, rfl⟩, rfl⟩ := responds
  obtain ⟨stored, pointed⟩ := writer_of_loadOne h alive loads
  have faithful : ∀ x ∈ comments, Faithful (.record .comment) x := by
    intro x hx
    have hl : .children articleComments ∈ Bindings.links Entity.article :=
      List.mem_cons_of_mem _ List.mem_cons_self
    obtain ⟨hm, linked⟩ := (mem_children alive hl loads' x).mp hx
    exact (h.children hl x hm linked).1
  refine ⟨[.reference articleWriter found, .children articleComments (comments.map Entity.comment.bare),
    .joined articleTags (tags.map Entity.tag.bare)], ?_, ?_, pointed⟩
  · refine .cons (.reference ?_) (.cons (.children ?_) (.cons (.joined ?_) .nil))
    · cases hw with
      | none => exact .none
      | some hr => exact .some (converts_of_reverts (by trivial) hr)
    · exact converts_of_reverts_all faithful hc
    · exact converts_of_reverts_all (fun _ _ => trivial) ht
  · simp only [List.forall_mem_cons]
    refine ⟨fun x hx => h.keyed_of_mem (stored x hx), ?_, ?_, List.forall_mem_nil _⟩
    · exact settled_children alive h (List.mem_cons_of_mem _ List.mem_cons_self) loads'
    · exact settled_joined alive h
        (List.mem_cons_of_mem _ (List.mem_cons_of_mem _ List.mem_cons_self)) loads''

end Article

/-! ## Threads -/

theorem resettles_thread [context.Timeless] {row : Record Entity.thread} (h : Tidy t Entity.thread row)
    (alive : context.check = .ok ()) {value : Thread}
    (responds : Responds context t row value) : Resettles t row value := by
  obtain ⟨m, reverts, m₁, ⟨replies, rs, loads, hr, rfl⟩, m₂, ⟨topics, ts, loads', ht, rfl⟩, rfl⟩ := responds
  refine ⟨[.children threadReplies (replies.map Entity.reply.bare),
    .joined threadTopics (topics.map Entity.tag.bare)], ?_, ?_, rfl⟩
  · refine .cons (.children ?_) (.cons (.joined ?_) .nil)
    · exact converts_of_reverts_all (fun _ _ => trivial) hr
    · exact converts_of_reverts_all (fun _ _ => trivial) ht
  · simp only [List.forall_mem_cons]
    refine ⟨?_, ?_, List.forall_mem_nil _⟩
    · exact settled_children alive h List.mem_cons_self loads
    · exact settled_joined alive h (List.mem_cons_of_mem _ List.mem_cons_self) loads'

/-! ## Digests -/

theorem resettles_digest [context.Timeless] {row : Record Entity.digest} (h : Tidy t Entity.digest row)
    (alive : context.check = .ok ()) {value : Digest}
    (responds : Responds context t row value) : Resettles t row value := by
  obtain ⟨m, reverts, m₁, ⟨entries, es, loads, he, rfl⟩, m₂, ⟨featured, fs, loads', hf, rfl⟩, m₃,
    ⟨hidden, hs, loads'', hh, rfl⟩, rfl⟩ := responds
  refine ⟨[.children digestEntries (entries.map Entity.reply.bare),
    .joined digestFeatured (featured.map Entity.tag.bare),
    .joined digestHidden (hidden.map Entity.tag.bare)], ?_, ?_, rfl⟩
  · refine .cons (.children ?_) (.cons (.joined ?_) (.cons (.joined ?_) .nil))
    · exact converts_of_reverts_all (fun _ _ => trivial) he
    · exact converts_of_reverts_all (fun _ _ => trivial) hf
    · exact converts_of_reverts_all (fun _ _ => trivial) hh
  · simp only [List.forall_mem_cons]
    refine ⟨?_, ?_, ?_, List.forall_mem_nil _⟩
    · exact settled_children alive h List.mem_cons_self loads
    · exact settled_joined alive h (List.mem_cons_of_mem _ List.mem_cons_self) loads'
    · exact settled_joined alive h
        (List.mem_cons_of_mem _ (List.mem_cons_of_mem _ List.mem_cons_self)) loads''

/-- An update with what a stored row responds with would write what is stored. -/
theorem Tidy.resettles [context.Timeless] (h : Tidy t e row) (alive : context.check = .ok ()) {value : e.Message}
    (responds : Responds context t row value) : Resettles t row value := by
  cases e with
  | article => exact resettles_article h alive responds
  | thread => exact resettles_thread h alive responds
  | digest => exact resettles_digest h alive responds
  | blogPost | author | comment | tag | reply => exact resettles_leaf rfl row

/-! ## Updates made again -/

section

variable (h : Rests t e row) {value : e.Message} (responds : Responds .unlimited t row value)
include h responds

theorem read_again :
    (Operations.read Hooks.none e (some (Bindings.keyOnly e value)) none).Yields t (.ok value) t := by
  have answers : (Operations.read Hooks.none e (some (Bindings.keyOnly e value)) none).Answers
      ⟨t, .unlimited, ()⟩ (Reads .unlimited t e (Bindings.keyOnly e value) none) := read_answers none
  exact (interruptible_read (e := e) (some (Bindings.keyOnly e value)) none).yields_of_eq
    ((answers value _).mpr ⟨h.reads_keyOnly rfl rfl responds, rfl⟩)

theorem strictUpdate_again (c : Complete t e row) :
    ∃ again, (strictUpdate Hooks.none e (some value)).Yields t (.ok ⟨value, false⟩) again ∧
      ∀ kind, (again.rows kind).Perm (t.rows kind) := by
  have alive : Context.unlimited.check = .ok () := rfl
  obtain ⟨pending, collected, settled, pointed⟩ := (h.tidy c).resettles alive responds
  have converts := converts_of_responds (h.faithful_of_mem h.mem) responds
  obtain ⟨again, update, alike⟩ := exists_update_again h.distinct alive alive h.keyed converts
    (key_bare row) collected settled pointed responds
  have updates : strictUpdate Hooks.none e (some value) ⟨t, .unlimited, ()⟩ =
      (.ok ⟨value, false⟩, ⟨again, .unlimited, ()⟩) := strictUpdate_ok.mpr ⟨again, rfl, update⟩
  exact ⟨again, (interruptible_strictUpdate (e := e) (some value)).yields_of_eq updates,
    fun kind => alike.symm.perm kind⟩

end

/-- What a strict update or a creation answers is read by its key, and a strict update with what one
answered changes nothing, as long as the running number has not come past its end. -/
theorem strictUpdate_idempotent (fresh : Nat → Uuid) (hf : ∀ n, (fresh n).isNil = false)
    (calls : List (Context × Call Entity)) (hw : ∀ call ∈ calls, call.2.Writes Entity.Addressable)
    (context : Context) (e : Entity) (message : e.Message) (ha : e.Addressable message) :
    let store : Store Kind := run (Store.empty fresh) calls
    (∀ value created last, strictUpdate Hooks.none e (some message) ⟨store, context, ()⟩ =
        (.ok ⟨value, created⟩, last) → last.store.sequence < UInt64.size →
      (Operations.read Hooks.none e (some (Bindings.keyOnly e value)) none).Yields last.store (.ok value)
          last.store ∧
        ∃ again, (strictUpdate Hooks.none e (some value)).Yields last.store (.ok ⟨value, false⟩) again ∧
          ∀ kind, (again.rows kind).Perm (last.store.rows kind)) ∧
    ∀ value last, Operations.create Hooks.none e (some message) ⟨store, context, ()⟩ =
        (.ok value, last) → last.store.sequence < UInt64.size →
      (Operations.read Hooks.none e (some (Bindings.keyOnly e value)) none).Yields last.store (.ok value)
        last.store := by
  intro store
  obtain ⟨numbers, counts⟩ := numbered_run fresh calls
  have rows := faithful_run fresh hw
  have unexhausted : ∀ {t : Store Kind}, Counts store t → t.sequence < UInt64.size → Unexhausted t := by
    intro t counts' hs
    refine ⟨hs, fun n => ?_⟩
    rw [counts'.fresh, counts.fresh]
    exact hf n
  refine ⟨fun value created last updates hs => ?_, fun value last creates hs => ?_⟩
  · obtain ⟨c⟩ := exists_update updates
    have hu : Unexhausted last.store := unexhausted (c.goes (D := numbered) trivial numbers).2 hs
    have rests := rests_of_update numbers rows hu ha c
    exact ⟨read_again rests c.responds,
      strictUpdate_again rests c.responds (complete_of_update c numbers hu)⟩
  · obtain ⟨c⟩ := exists_creation creates
    have hu : Unexhausted last.store := unexhausted (c.goes (D := numbered) trivial numbers).2 hs
    exact read_again (rests_of_creation numbers rows hu ha c) c.responds

/-- An article in place of the one that `draftCalls` store. Its comment stays, and one tag is named
twice. -/
def revision : Article := { (default : Article) with
  id := some ⟨"00000000-0000-0000-0000-000000000003"⟩, title := "On stores, again"
  comments := [⟨3, "Yes.", ["new", "kept"]⟩, ⟨0, "No.", []⟩], tags := [⟨"c", "C"⟩, ⟨"c", "C2"⟩] }

theorem strictUpdate_idempotent_revision :
    let store : Store Kind := run (Store.empty fun n => ⟨.ofNat 128 (2 * n + 1)⟩) draftCalls
    (∃ value last again,
      strictUpdate Hooks.none Entity.article (some revision) ⟨store, .unlimited, ()⟩ =
        (.ok ⟨value, false⟩, last) ∧ last.store.sequence < UInt64.size ∧
      Operations.read Hooks.none Entity.article (some (Bindings.keyOnly Entity.article value)) none
          ⟨last.store, .unlimited, ()⟩ = (.ok value, ⟨last.store, .unlimited, ()⟩) ∧
      strictUpdate Hooks.none Entity.article (some value) ⟨last.store, .unlimited, ()⟩ =
          (.ok ⟨value, false⟩, ⟨again, .unlimited, ()⟩) ∧
      ∀ kind, (again.rows kind).Perm (last.store.rows kind)) ∧
    ∃ value last,
      Operations.create Hooks.none Entity.tag (some (⟨"d", "D"⟩ : Tag)) ⟨store, .unlimited, ()⟩ =
        (.ok value, last) ∧ last.store.sequence < UInt64.size ∧
      Operations.read Hooks.none Entity.tag (some (Bindings.keyOnly Entity.tag value)) none
          ⟨last.store, .unlimited, ()⟩ = (.ok value, ⟨last.store, .unlimited, ()⟩) := by
  intro store
  have new : ∀ n, (⟨.ofNat 128 (2 * n + 1)⟩ : Uuid).isNil = false := by
    intro n
    refine beq_false_of_ne fun e => ?_
    have bits := congrArg (fun u : Uuid => u.bits.toNat) e
    change (2 * n + 1) % 2 ^ 128 = 0 at bits
    omega
  have writes : ∀ call ∈ draftCalls, call.2.Writes Entity.Addressable := by
    simp [draftCalls, Call.Writes, Entity.Addressable, Metadata.Addressable]
    decide
  constructor
  · obtain ⟨value, last, updates, bound⟩ : ∃ value last,
        strictUpdate Hooks.none Entity.article (some revision) ⟨store, .unlimited, ()⟩ =
          (.ok ⟨value, false⟩, last) ∧ last.store.sequence < UInt64.size := by
      have created : (strictUpdate Hooks.none Entity.article (some revision)
          ⟨store, .unlimited, ()⟩).1.toOption.map Upserted.created = some false := by decide +kernel
      have bound : (strictUpdate Hooks.none Entity.article (some revision)
          ⟨store, .unlimited, ()⟩).2.store.sequence < UInt64.size := by decide +kernel
      generalize strictUpdate Hooks.none Entity.article (some revision) ⟨store, .unlimited, ()⟩ = result
        at created bound ⊢
      obtain ⟨_ | ⟨value, c⟩, last⟩ := result
      · cases created
      · cases created
        exact ⟨value, last, rfl, bound⟩
    obtain ⟨strict, -⟩ := strictUpdate_idempotent _ new draftCalls writes .unlimited Entity.article
      revision fun _ hm => absurd hm (Option.not_mem_none _)
    obtain ⟨reads, again, repeats, perm⟩ := strict value false last updates bound
    exact ⟨value, last, again, updates, bound, reads.unlimited, repeats.unlimited, perm⟩
  · obtain ⟨value, last, creates, bound⟩ : ∃ value last,
        Operations.create Hooks.none Entity.tag (some (⟨"d", "D"⟩ : Tag)) ⟨store, .unlimited, ()⟩ =
          (.ok value, last) ∧ last.store.sequence < UInt64.size := by
      have succeeds : (Operations.create Hooks.none Entity.tag (some (⟨"d", "D"⟩ : Tag))
          ⟨store, .unlimited, ()⟩).1.toOption.isSome = true := by decide +kernel
      have bound : (Operations.create Hooks.none Entity.tag (some (⟨"d", "D"⟩ : Tag))
          ⟨store, .unlimited, ()⟩).2.store.sequence < UInt64.size := by decide +kernel
      generalize Operations.create Hooks.none Entity.tag (some (⟨"d", "D"⟩ : Tag))
        ⟨store, .unlimited, ()⟩ = result at succeeds bound ⊢
      obtain ⟨_ | value, last⟩ := result
      · cases succeeds
      · exact ⟨value, last, rfl, bound⟩
    obtain ⟨-, creation⟩ := strictUpdate_idempotent _ new draftCalls writes .unlimited Entity.tag
      (⟨"d", "D"⟩ : Tag) trivial
    exact ⟨value, last, creates, bound, (creation value last creates bound).unlimited⟩

end ProtoStore.Blog
